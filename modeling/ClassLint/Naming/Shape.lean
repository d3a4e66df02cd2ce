import ClassLint.Pattern.Matcher
import ClassLint.Pattern.Reader

/-!
# Built-in shapes

The named forms that a class name can be asked to have. Each has a written pattern, which is
shown to the user, and the pattern that this text reads as.
-/

namespace ClassLint

/-- A named form of class names. -/
inductive Shape where
  | twoWords
  | oneWord
  | underScored
  | dashFirst
  | pascal
  deriving DecidableEq, Repr

namespace Shape

/-- All shapes, in the order in which messages list them. -/
def all : List Shape := [.twoWords, .oneWord, .underScored, .dashFirst, .pascal]

/-- The name of a shape. -/
def name : Shape → Text
  | .twoWords => "twoWords"
  | .oneWord => "oneWord"
  | .underScored => "underScored"
  | .dashFirst => "dashFirst"
  | .pascal => "pascal"

/-- The shape with a name. -/
def ofName? (name : Text) : Option Shape := all.find? fun shape => shape.name == name

/-- The written pattern of a shape. -/
def source : Shape → Text
  | .twoWords => "[a-z][a-z0-9]*(-[a-z0-9]+)+"
  | .oneWord => "[a-z][a-z0-9]*"
  | .underScored => "_[a-z][a-z0-9]*(-[a-z0-9]+)*"
  | .dashFirst => "-[a-z][a-z0-9]*(-[a-z0-9]+)*"
  | .pascal => "[A-Z][a-zA-Z0-9]*"

/-- The character that all names of a shape start with, if there is one. -/
def lead? : Shape → Option Char
  | .underScored => some '_'
  | .dashFirst => some '-'
  | _ => none

/-- One of the letters `a` to `z`. -/
def small : Pattern := .set (.ofRanges [('a', 'z')])

/-- One of the letters `a` to `z` and the digits. -/
def smallOrDigit : Pattern := .set (.ofRanges [('a', 'z'), ('0', '9')])

/-- Any number of repetitions. -/
def many (body : Pattern) : Pattern := .loop 0 none .greedy body

/-- One or more repetitions. -/
def oneOrMore (body : Pattern) : Pattern := .loop 1 none .greedy body

/-- A hyphen and a further word. -/
def furtherWord : Pattern := .group 1 (.sequenceOf [.char '-', oneOrMore smallOrDigit])

/-- The pattern of a shape. -/
def pattern : Shape → Pattern
  | .twoWords => .sequenceOf [small, many smallOrDigit, oneOrMore furtherWord]
  | .oneWord => .sequenceOf [small, many smallOrDigit]
  | .underScored => .sequenceOf [.char '_', small, many smallOrDigit, many furtherWord]
  | .dashFirst => .sequenceOf [.char '-', small, many smallOrDigit, many furtherWord]
  | .pascal =>
    .sequenceOf [.set (.ofRanges [('A', 'Z')]),
      many (.set (.ofRanges [('a', 'z'), ('A', 'Z'), ('0', '9')]))]

/-- The written pattern of a shape reads as its pattern. -/
theorem read_source (shape : Shape) :
    (Pattern.read shape.source).toOption = some shape.pattern := by
  cases shape <;> decide +kernel

end Shape

end ClassLint
