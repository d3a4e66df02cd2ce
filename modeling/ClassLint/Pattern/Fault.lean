import ClassLint.Pattern.Token
import ClassLint.Text.Location
import ClassLint.Text.Integer
import ClassLint.Text.Quoted

/-!
# Faults of written patterns

Every cause for which a text is no pattern, its wording, and where it stands. Most causes are
noticed at a position of the text. Those that depend on the pattern as a whole have none, and
neither have the limits on numbers.
-/

namespace ClassLint

/-- The causes for which a text is no pattern. -/
inductive PatternFaultKind where
  | unterminatedSet
  | badRange (range : Text)
  | badEscape (escape : Text)
  | incompleteEscape (escape : Text)
  | octalTooLarge (escape : Text)
  | loneBackslash
  | braceMissing
  | nameMissing (what : Text)
  | unterminatedName (closer : Char)
  | undefinedCharacter (name : Text)
  | nothingToRepeat
  | multipleRepeat
  | leastAboveMost
  | missingParenthesis
  | unbalancedParenthesis
  | unterminatedComment
  | unexpectedEnd
  | unknownExtension (extension : Text)
  | badGroupName (name : Text)
  | unknownGroupName (name : Text)
  | redefinedGroup (name : Text) (index earlier : Nat)
  | badGroupNumber
  | invalidReference (index : Nat)
  | openReference
  | referenceWithinLookBehind
  | tooManyBranches
  | lateFlags
  | localeFlag
  | incompatibleFlags
  | unknownFlag
  | flagMissing
  | flagsUnended
  | colonMissing
  | globalFlagOn
  | globalFlagOff
  | alphabetFlagOff
  | flagOnAndOff
  | variableLookBehind
  | endlessLookBehind
  | templateRepeat (name : Text)
  | mixedAlphabets
  | hugeRepeat
  | longNumber (digits : Nat)
  deriving DecidableEq, Repr

/-- A cause, its position if it has one, and whether all pieces had been taken when it was
noticed. -/
structure PatternFault where
  kind : PatternFaultKind
  position : Option Nat
  atEnd : Bool
  deriving DecidableEq, Repr

namespace PatternFaultKind

/-- The wording of a cause. -/
def text : PatternFaultKind → Text
  | .unterminatedSet => "unterminated character set"
  | .badRange range => "bad character range " ++ range
  | .badEscape escape => "bad escape " ++ escape
  | .incompleteEscape escape => "incomplete escape " ++ escape
  | .octalTooLarge escape => "octal escape value " ++ escape ++ " outside of range 0-0o377"
  | .loneBackslash => "bad escape (end of pattern)"
  | .braceMissing => "missing \x7b"
  | .nameMissing what => "missing " ++ what
  | .unterminatedName closer => "missing " ++ [closer] ++ ", unterminated name"
  | .undefinedCharacter name => "undefined character name " ++ Text.quoted name
  | .nothingToRepeat => "nothing to repeat"
  | .multipleRepeat => "multiple repeat"
  | .leastAboveMost => "min repeat greater than max repeat"
  | .missingParenthesis => "missing ), unterminated subpattern"
  | .unbalancedParenthesis => "unbalanced parenthesis"
  | .unterminatedComment => "missing ), unterminated comment"
  | .unexpectedEnd => "unexpected end of pattern"
  | .unknownExtension extension => "unknown extension " ++ extension
  | .badGroupName name => "bad character in group name " ++ Text.quoted name
  | .unknownGroupName name => "unknown group name " ++ Text.quoted name
  | .redefinedGroup name index earlier =>
    "redefinition of group name " ++ Text.quoted name ++ " as group " ++ Text.ofNat index ++
      "; was group " ++ Text.ofNat earlier
  | .badGroupNumber => "bad group number"
  | .invalidReference index => "invalid group reference " ++ Text.ofNat index
  | .openReference => "cannot refer to an open group"
  | .referenceWithinLookBehind =>
    "cannot refer to group defined in the same lookbehind subpattern"
  | .tooManyBranches => "conditional backref with more than two branches"
  | .lateFlags => "global flags not at the start of the expression"
  | .localeFlag => "bad inline flags: cannot use 'L' flag with a str pattern"
  | .incompatibleFlags => "bad inline flags: flags 'a', 'u' and 'L' are incompatible"
  | .unknownFlag => "unknown flag"
  | .flagMissing => "missing flag"
  | .flagsUnended => "missing -, : or )"
  | .colonMissing => "missing :"
  | .globalFlagOn => "bad inline flags: cannot turn on global flag"
  | .globalFlagOff => "bad inline flags: cannot turn off global flag"
  | .alphabetFlagOff => "bad inline flags: cannot turn off flags 'a', 'u' and 'L'"
  | .flagOnAndOff => "bad inline flags: flag turned on and off"
  | .variableLookBehind => "look-behind requires fixed-width pattern"
  | .endlessLookBehind => "looks too much behind"
  | .templateRepeat name => "internal: unsupported template operator " ++ name
  | .mixedAlphabets => "ASCII and UNICODE flags are incompatible"
  | .hugeRepeat => "the repetition number is too large"
  | .longNumber digits => Text.longNumberMessage digits

/-- Whether a cause makes the pattern invalid. The others are limits on numbers and flags that
contradict one another; they are failures of their own. -/
def isInvalid : PatternFaultKind → Bool
  | .mixedAlphabets | .hugeRepeat | .longNumber _ => false
  | _ => true

end PatternFaultKind

/-- The report of a fault of the given source: cause and position, and in a pattern of several
lines also line and column. -/
def PatternFault.message (fault : PatternFault) (source : Text) : Text :=
  match fault.position with
  | none => fault.kind.text
  | some position =>
    let location := Location.start.advance (source.take position)
    fault.kind.text ++ " at position " ++ Text.ofNat position ++
      if source.contains '\n' then
        " (line " ++ Text.ofInt location.line ++ ", column " ++ Text.ofInt location.column ++ ")"
      else []

/-- Report a cause at a position; the pieces have not been taken. -/
def Pieces.fail {α : Type} (pieces : Pieces) (kind : PatternFaultKind) (position : Nat) :
    Except PatternFault α :=
  .error ⟨kind, some position, pieces.tokens.isEmpty⟩

end ClassLint
