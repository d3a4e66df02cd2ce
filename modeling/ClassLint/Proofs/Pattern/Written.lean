import ClassLint.Pattern.Reader
import ClassLint.Proofs.Pattern.Language

/-!
# Written regular expressions

The grammar of the written patterns that have a language: characters and sets of them, groups,
repeats that take as much or as little as they can, and choices, whose branches can be empty. Each
construct says which pieces write it and which language it stands for. The conditions on how it is
written are those of its own pieces. Two kinds of pieces also depend on what comes after them in
their branch: an octal escape that is cut short, and a brace that starts no bounds.
-/

namespace ClassLint

/-- A character that stands alone. -/
def PatternToken.bare (c : Char) : PatternToken := ⟨false, c⟩

/-- A character after a backslash. -/
def PatternToken.behindBackslash (c : Char) : PatternToken := ⟨true, c⟩

/-- The pieces of a text without backslashes. -/
def PatternToken.bareText (text : Text) : List PatternToken := text.map .bare

open PatternToken (bare behindBackslash bareText)

namespace Regex

/-- Whether a character can go on an escape or the bounds of a repeat. -/
def isMargin (c : Char) : Bool := c.isDigit || c == ',' || c == '\x7d'

/-- The characters that pieces start with and that could go on the piece before them. -/
def margin (tokens : List PatternToken) : Text :=
  (tokens.takeWhile fun token => token.isOf isMargin).map (·.char)

/-! ## Repeats -/

/-- The bounds of a repeat between braces, in digits; of two bounds, both can be left out. -/
inductive Bounds where
  | exactly (digits : Text)
  | between (low high : Text)
  deriving DecidableEq, Repr

namespace Bounds

/-- The bounds as they are written. -/
def text : Bounds → Text
  | exactly digits => digits
  | between low high => low ++ ',' :: high

/-- Whether the bounds are of digits. -/
def IsDigits : Bounds → Prop
  | exactly digits => digits ≠ [] ∧ ∀ c ∈ digits, c.isDigit = true
  | between low high => (∀ c ∈ low, c.isDigit = true) ∧ ∀ c ∈ high, c.isDigit = true

/-- The digits of the lower bound. -/
def low : Bounds → Text
  | exactly digits => digits
  | between low _ => low

/-- The digits of the upper bound. -/
def high : Bounds → Text
  | exactly digits => digits
  | between _ high => high

end Bounds

/-- Whether a text starts with the bounds of a repeat and the brace that closes them. -/
def StartsBounds (text : Text) : Prop :=
  ∃ bounds : Bounds, bounds.IsDigits ∧ bounds.text ++ ['\x7d'] <+: text

/-- The sign of a repeat. -/
inductive RepeatMark where
  | star
  | plus
  | optional
  | braces (bounds : Bounds)
  deriving DecidableEq, Repr

namespace RepeatMark

/-- The sign as it is written. -/
def text : RepeatMark → Text
  | star => ['*']
  | plus => ['+']
  | optional => ['?']
  | braces bounds => '\x7b' :: bounds.text ++ ['\x7d']

/-- The least number of rounds. -/
def least : RepeatMark → Nat
  | star | optional => 0
  | plus => 1
  | braces bounds => Text.ofDigits 10 bounds.low

/-- The greatest number of rounds, if there is one. -/
def most : RepeatMark → Option Nat
  | star | plus => none
  | optional => some 1
  | braces bounds => if bounds.high = [] then none else some (Text.ofDigits 10 bounds.high)

/-- Bounds have no more digits and are no greater than a bound can be, and are in order. -/
def IsWritten : RepeatMark → Prop
  | star | plus | optional => True
  | braces bounds =>
    bounds.IsDigits ∧
    (bounds.low.length ≤ Text.digitLimit ∧
      Text.ofDigits 10 bounds.low < PatternReader.repeatLimit) ∧
    (bounds.high.length ≤ Text.digitLimit ∧
      Text.ofDigits 10 bounds.high < PatternReader.repeatLimit) ∧
    ∀ limit ∈ (braces bounds).most, (braces bounds).least ≤ limit

end RepeatMark

/-- A repeat: its sign, and whether it takes as few rounds as it can. -/
structure Repeat where
  mark : RepeatMark
  isLazy : Bool
  deriving DecidableEq, Repr

/-- A repeat as it is written; without one, nothing is. -/
def repeatText : Option Repeat → Text
  | none => []
  | some ⟨mark, isLazy⟩ => mark.text ++ if isLazy then ['?'] else []

/-- The language of what is repeated, or stands once without a repeat. -/
def repeatLanguage (count : Option Repeat) (language : Language Char) : Language Char :=
  match count with
  | none => language
  | some ⟨mark, _⟩ => Pattern.repeated mark.least mark.most language

/-! ## Characters and sets -/

/-- A written character: as it is or after a backslash, or an escape that writes a control
character, or a code point by digits in base sixteen or eight or by its name. -/
inductive Literal where
  | bare (c : Char)
  | escaped (c : Char)
  | control (letter value : Char)
  | hexadecimal (letter : Char) (digits : Text)
  | octal (digit : Char) (digits : Text)
  | named (name : Text) (code : Nat)
  deriving DecidableEq, Repr

namespace Literal

/-- The signs that are no characters of their own outside of sets. -/
def signs : List Char := ['\\', '[', '(', ')', '|', '.', '^', '$', '*', '+', '?']

/-- The letters that write control characters, and these. -/
def controls : List (Char × Char) :=
  [('a', '\x07'), ('f', '\x0c'), ('n', '\n'), ('r', '\r'), ('t', '\t'), ('v', '\x0b')]

/-- The first piece of a written character. -/
def first : Literal → PatternToken
  | bare c => PatternToken.bare c
  | escaped c => behindBackslash c
  | control letter _ => behindBackslash letter
  | hexadecimal letter _ => behindBackslash letter
  | octal digit _ => behindBackslash digit
  | named _ _ => behindBackslash 'N'

/-- What is written after the first piece. -/
def more : Literal → Text
  | bare _ | escaped _ | control _ _ => []
  | hexadecimal _ digits | octal _ digits => digits
  | named name _ => '\x7b' :: name ++ ['\x7d']

/-- The pieces of a written character. -/
def tokens (literal : Literal) : List PatternToken := literal.first :: bareText literal.more

/-- The code point of a written character. -/
def code : Literal → Nat
  | bare c | escaped c => c.toNat
  | control _ value => value.toNat
  | hexadecimal _ digits => Text.ofDigits 16 digits
  | octal digit digits => Text.ofDigits 8 (digit :: digits)
  | named _ code => code

/-- How a character is written, in a set or outside of one, before `next`. -/
def IsWritten (inSet : Bool) (next : Text) : Literal → Prop
  | bare c =>
    if inSet then c ≠ '\\' else c ∉ signs ∧ (c = '\x7b' → ¬ StartsBounds next)
  | escaped c => c.isAlphanum = false
  | control letter value =>
    (letter, value) ∈ controls ∨ (inSet = true ∧ letter = 'b' ∧ value = '\x08')
  | hexadecimal letter digits =>
    (letter, digits.length) ∈ [('x', 2), ('u', 4), ('U', 8)] ∧
    (∀ c ∈ digits, PatternReader.isHexDigit c = true) ∧ Text.ofDigits 16 digits ≤ 0x10FFFF
  | octal digit digits =>
    (∀ c ∈ digit :: digits, PatternReader.isOctalDigit c = true) ∧
    Text.ofDigits 8 (digit :: digits) ≤ PatternReader.octalLimit ∧
    (digits.length = 2 ∨ digits.length < 2 ∧ (inSet = false → digit = '0') ∧
      ∀ c ∈ next.head?, PatternReader.isOctalDigit c = false)
  | named name code =>
    name ≠ [] ∧ (∀ c ∈ name, c ≠ '\x7d' ∧ c ≠ '\\') ∧ Text.characterNamed? name = some code

end Literal

/-- The letter that writes a class of characters, or its complement, after a backslash. -/
def classLetter : CharClass → Bool → Char
  | .digit, false => 'd'
  | .digit, true => 'D'
  | .blank, false => 's'
  | .blank, true => 'S'
  | .word, false => 'w'
  | .word, true => 'W'

/-- An entry of a written set: a character, a range, or a class or its complement. -/
inductive SetItem where
  | one (literal : Literal)
  | range (low high : Literal)
  | named (charClass : CharClass) (negated : Bool)
  deriving DecidableEq, Repr

namespace SetItem

/-- The first piece of an entry. -/
def first : SetItem → PatternToken
  | one literal | range literal _ => literal.first
  | named charClass negated => behindBackslash (classLetter charClass negated)

/-- The pieces of an entry after the first. -/
def more : SetItem → List PatternToken
  | one literal => bareText literal.more
  | range low high => bareText low.more ++ bare '-' :: high.tokens
  | named _ _ => []

/-- The pieces of an entry. -/
def tokens (item : SetItem) : List PatternToken := item.first :: item.more

/-- Whether an entry is a range. -/
def isRange : SetItem → Bool
  | range _ _ => true
  | one _ | named _ _ => false

/-- A character is one of those of an entry. -/
def Holds (c : Char) : SetItem → Prop
  | one literal => c.toNat = literal.code
  | range low high => low.code ≤ c.toNat ∧ c.toNat ≤ high.code
  | named charClass negated => charClass.holds .unicode c ≠ negated

/-- How an entry is written before `next`. The ends of a range are in order, and a bracket that ends
the set cannot end the range. -/
def IsWritten (next : Text) : SetItem → Prop
  | one literal => literal.IsWritten true next
  | range low high =>
    low.IsWritten true [] ∧ high.IsWritten true next ∧ high.first ≠ bare ']' ∧ low.code ≤ high.code
  | named _ _ => True

end SetItem

/-- The pieces of the entries of a set. -/
def itemTokens (items : List SetItem) : List PatternToken := items.flatMap SetItem.tokens

/-- How the entries of a set are written. The set is not empty, and a bracket that is an entry
stands first. After an entry that is no range, a hyphen is the last entry; otherwise it would make
a range. -/
def AreWritten : Bool → List SetItem → Prop
  | isFirst, [] => isFirst = false
  | isFirst, item :: rest =>
    item.IsWritten (margin (itemTokens rest)) ∧
    (item.first = bare ']' → isFirst = true) ∧
    (item.isRange = false → (itemTokens rest).head? = some (bare '-') →
      rest = [.one (.bare '-')]) ∧
    AreWritten false rest

/-- A symbol, which stands for one character of some kind. -/
inductive Symbol where
  | any
  | char (literal : Literal)
  | named (charClass : CharClass) (negated : Bool)
  | set (negated : Bool) (items : List SetItem)
  deriving DecidableEq, Repr

namespace Symbol

/-- The first piece of a symbol. -/
def first : Symbol → PatternToken
  | .any => bare '.'
  | .char literal => literal.first
  | .named charClass negated => behindBackslash (classLetter charClass negated)
  | .set _ _ => bare '['

/-- The pieces of a symbol after the first. -/
def more : Symbol → List PatternToken
  | .any | .named _ _ => []
  | .char literal => bareText literal.more
  | .set negated items => (if negated then [bare '^'] else []) ++ itemTokens items ++ [bare ']']

/-- The pieces of a symbol. -/
def tokens (symbol : Symbol) : List PatternToken := symbol.first :: symbol.more

/-- A character is one of those that a symbol stands for. -/
def Holds (c : Char) : Symbol → Prop
  | .any => c ≠ '\n'
  | .char literal => c.toNat = literal.code
  | .named charClass negated => charClass.holds .unicode c ≠ negated
  | .set negated items => (∃ item ∈ items, item.Holds c) ↔ negated = false

/-- The texts of one character that a symbol stands for. -/
def language (symbol : Symbol) : Language Char := {text | ∃ c, symbol.Holds c ∧ text = [c]}

/-- How a symbol is written before `next`. -/
def IsWritten (next : Text) : Symbol → Prop
  | .any | .named _ _ => True
  | .char literal => literal.IsWritten false next
  | .set negated items =>
    AreWritten true items ∧ (negated = false → (itemTokens items).head? ≠ some (bare '^'))

end Symbol

/-! ## Groups, branches and choices -/

/-- What a parenthesis keeps: what the group reads, nothing, or what it reads under a name. -/
inductive GroupSort where
  | captured
  | together
  | named (name : Text)
  deriving DecidableEq, Repr

namespace GroupSort

/-- The sign that opens a group. -/
def opening : GroupSort → Text
  | captured => ['(']
  | together => ['(', '?', ':']
  | named name => ['(', '?', 'P', '<'] ++ name ++ ['>']

/-- The names of a group. -/
def names : GroupSort → List Text
  | captured | together => []
  | named name => [name]

/-- The name of a group is an identifier. -/
def IsWritten (sort : GroupSort) : Prop := ∀ name ∈ sort.names, Text.isIdentifier name = true

end GroupSort

end Regex

mutual

/-- What can be repeated: a symbol or a group. -/
inductive Regex.Atom where
  | symbol (symbol : Regex.Symbol)
  | group (sort : Regex.GroupSort) (body : Regex)

/-- A row of symbols and groups, each of them perhaps repeated. -/
inductive Regex.Branch where
  | nil
  | cons (atom : Regex.Atom) (count : Option Regex.Repeat) (rest : Regex.Branch)

/-- A written regular expression: a choice of one branch or more. -/
inductive Regex where
  | last (branch : Regex.Branch)
  | or (branch : Regex.Branch) (rest : Regex)

end

namespace Regex

mutual

/-- The pieces of a symbol or group. -/
def Atom.tokens : Atom → List PatternToken
  | .symbol symbol => symbol.tokens
  | .group sort body => bareText sort.opening ++ body.tokens ++ [bare ')']

/-- The pieces of a branch. -/
def Branch.tokens : Branch → List PatternToken
  | .nil => []
  | .cons atom count rest => atom.tokens ++ (bareText (repeatText count) ++ rest.tokens)

/-- The pieces of a written regular expression. -/
def tokens : Regex → List PatternToken
  | .last branch => branch.tokens
  | .or branch rest => branch.tokens ++ bare '|' :: rest.tokens

end

mutual

/-- The language of a symbol or group. -/
def Atom.language : Atom → Language Char
  | .symbol symbol => symbol.language
  | .group _ body => body.language

/-- The language of a branch. -/
def Branch.language : Branch → Language Char
  | .nil => 1
  | .cons atom count rest => repeatLanguage count atom.language * rest.language

/-- The language that a written regular expression denotes. -/
def language : Regex → Language Char
  | .last branch => branch.language
  | .or branch rest => branch.language + rest.language

end

mutual

/-- The names of groups in a symbol or group. -/
def Atom.names : Atom → List Text
  | .symbol _ => []
  | .group sort body => sort.names ++ body.names

/-- The names of groups in a branch. -/
def Branch.names : Branch → List Text
  | .nil => []
  | .cons atom _ rest => atom.names ++ rest.names

/-- The names of groups in a written regular expression. -/
def names : Regex → List Text
  | .last branch => branch.names
  | .or branch rest => branch.names ++ rest.names

end

mutual

/-- How a symbol or group is written before `next`. -/
def Atom.IsWritten (next : Text) : Atom → Prop
  | .symbol symbol => symbol.IsWritten next
  | .group sort body => sort.IsWritten ∧ body.IsWritten

/-- How a branch is written. -/
def Branch.IsWritten : Branch → Prop
  | .nil => True
  | .cons atom count rest =>
    atom.IsWritten (margin (bareText (repeatText count) ++ rest.tokens)) ∧
    (∀ sign ∈ count, sign.mark.IsWritten) ∧ rest.IsWritten

/-- How the branches of a written regular expression are written. -/
def IsWritten : Regex → Prop
  | .last branch => branch.IsWritten
  | .or branch rest => branch.IsWritten ∧ rest.IsWritten

end

/-- A regular expression as it is written. -/
def text (regex : Regex) : Text := regex.tokens.flatMap PatternToken.text

/-- A regular expression is well written if all of it is, and no two groups have one name. -/
structure WellWritten (regex : Regex) : Prop where
  isWritten : regex.IsWritten
  names_nodup : regex.names.Nodup

/-! ## Rearranging -/

/-- The branches of a regular expression. -/
def branches : Regex → List Branch
  | .last branch => [branch]
  | .or branch rest => branch :: rest.branches

mutual

/-- The same symbol, or a group of a rearranged regular expression. -/
inductive Atom.Rearranged : Atom → Atom → Prop where
  | symbol (symbol : Symbol) : Atom.Rearranged (.symbol symbol) (.symbol symbol)
  | group {sort : GroupSort} {body other : Regex} (hbody : body.Rearranged other) :
    Atom.Rearranged (.group sort body) (.group sort other)

/-- The same branch but for what is rearranged in it; a repeat that takes as much as it can becomes
one that takes as little, or the other way round. -/
inductive Branch.Rearranged : Branch → Branch → Prop where
  | nil : Branch.Rearranged .nil .nil
  | cons {atom atom' : Atom} {count count' : Option Repeat} {rest rest' : Branch}
    (hatom : atom.Rearranged atom') (hcount : count.map Repeat.mark = count'.map Repeat.mark)
    (hrest : rest.Rearranged rest') :
    Branch.Rearranged (.cons atom count rest) (.cons atom' count' rest')

/-- A regular expression whose repeats change between taking as much and as little as they can, and
whose branches change their order, in the whole and in its groups. -/
inductive Rearranged : Regex → Regex → Prop where
  | last {branch branch' : Branch} (hbranch : branch.Rearranged branch') :
    Rearranged (.last branch) (.last branch')
  | or {branch branch' : Branch} {rest rest' : Regex} (hbranch : branch.Rearranged branch')
    (hrest : rest.Rearranged rest') : Rearranged (.or branch rest) (.or branch' rest')
  | reorder {regex other : Regex} (hbranches : regex.branches.Perm other.branches) :
    Rearranged regex other
  | trans {regex other last : Regex} (hfirst : regex.Rearranged other)
    (hsecond : other.Rearranged last) : Rearranged regex last

end

end Regex

end ClassLint
