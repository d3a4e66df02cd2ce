import ClassLint.Pattern.CharSet
import ClassLint.Pattern.Fault

/-!
# Flags of patterns

Letters after a question mark turn flags on and off, for the whole pattern or for one parenthesis.
Two flags choose the alphabet and exclude each other; one flag asks for a mode in which there are
no repeats, and one is known only to be refused.
-/

namespace ClassLint

/-- What a letter asks for. -/
inductive PatternFlag where
  | ignoreCase
  | locale
  | multiline
  | dotAll
  | verbose
  | ascii
  | template
  | unicode
  deriving DecidableEq, Repr

namespace PatternFlag

/-- The flag of a letter. -/
def ofLetter? (c : Char) : Option PatternFlag :=
  if c = 'i' then some .ignoreCase
  else if c = 'L' then some .locale
  else if c = 'm' then some .multiline
  else if c = 's' then some .dotAll
  else if c = 'x' then some .verbose
  else if c = 'a' then some .ascii
  else if c = 't' then some .template
  else if c = 'u' then some .unicode
  else none

/-- Whether a letter stands for a flag. -/
def isLetter (c : Char) : Bool := (ofLetter? c).isSome

/-- Whether a flag chooses the alphabet. -/
def isAlphabet (flag : PatternFlag) : Bool :=
  flag == .ascii || flag == .unicode || flag == .locale

end PatternFlag

/-- The flags in force. -/
structure PatternFlags where
  ignoreCase : Bool := false
  multiline : Bool := false
  dotAll : Bool := false
  verbose : Bool := false
  template : Bool := false
  alphabet : Alphabet := .unicode
  deriving DecidableEq, Repr

namespace PatternFlags

/-- The alphabet whose letter case is passed over, if it is. -/
def casing (flags : PatternFlags) : Option Alphabet :=
  if flags.ignoreCase then some flags.alphabet else none

/-- The flags after some are turned on and others off. -/
def turn (flags : PatternFlags) (on off : List PatternFlag) : PatternFlags :=
  let after (flag : PatternFlag) (old : Bool) : Bool :=
    (old || on.contains flag) && !off.contains flag
  { ignoreCase := after .ignoreCase flags.ignoreCase
    multiline := after .multiline flags.multiline
    dotAll := after .dotAll flags.dotAll
    verbose := after .verbose flags.verbose
    template := after .template flags.template
    alphabet :=
      if on.contains .ascii then .ascii
      else if on.contains .unicode then .unicode
      else flags.alphabet }

end PatternFlags

/-- A change of flags: those to turn on, those to turn off, and whether it is for the whole
pattern. -/
structure FlagChange where
  on : List PatternFlag
  off : List PatternFlag := []
  whole : Bool
  deriving DecidableEq, Repr

namespace FlagChange

/-- The first of some flags that cannot be turned on after those before it: the cause, and how many
flags have been read with it. -/
def onFault? (seen : List PatternFlag) : List PatternFlag → Option (PatternFaultKind × Nat)
  | [] => none
  | flag :: rest =>
    let count := seen.length + 1
    if flag = .locale then some (.localeFlag, count)
    else if flag.isAlphabet && seen.any fun other => other.isAlphabet && other ≠ flag then
      some (.incompatibleFlags, count)
    else onFault? (seen ++ [flag]) rest

/-- The cause that a sign stands where none of its kind may. -/
def strayFault (token : PatternToken) (other : PatternFaultKind) : PatternFaultKind :=
  if token.isOf Text.isLetter then .unknownFlag else other

/-- The flags that letters stand for, and what follows the letters. -/
def readLetters (pieces : Pieces) : List PatternFlag × Pieces :=
  let (letters, rest) := pieces.spanAll PatternFlag.isLetter
  (letters.filterMap PatternFlag.ofLetter?, rest)

/-- Read the flags to turn off, from after the minus sign to after the colon. -/
def readOff (on : List PatternFlag) (pieces : Pieces) : Except PatternFault (FlagChange × Pieces) :=
  let (off, rest) := readLetters pieces
  match off.findIdx? PatternFlag.isAlphabet, off, rest.next? with
  | some index, _, _ =>
    let read := pieces.drop (index + 1)
    read.fail .alphabetFlagOff read.position
  | none, [], none => rest.fail .flagMissing rest.position
  | none, [], some (token, after) => after.fail (strayFault token .flagMissing) rest.position
  | none, _ :: _, none => rest.fail .colonMissing rest.position
  | none, _ :: _, some (token, after) =>
    if !token.is ':' then after.fail (strayFault token .colonMissing) rest.position
    else if off.contains .template then after.fail .globalFlagOff rest.position
    else if on.any off.contains then after.fail .flagOnAndOff rest.position
    else .ok ({ on, off, whole := false }, after)

/-- Read a change of flags, from the first letter or the minus sign on. -/
def read (pieces : Pieces) : Except PatternFault (FlagChange × Pieces) :=
  let (on, rest) := readLetters pieces
  match onFault? [] on, rest.next? with
  | some (kind, count), _ =>
    let read := pieces.drop count
    read.fail kind read.position
  | none, none => rest.fail .flagsUnended rest.position
  | none, some (token, after) =>
    if token.is ')' then .ok ({ on, whole := true }, after)
    else if !token.is ':' && !token.is '-' then
      after.fail (strayFault token .flagsUnended) rest.position
    else if on.contains .template then after.fail .globalFlagOn rest.position
    else if token.is '-' then readOff on after
    else .ok ({ on, whole := false }, after)

end FlagChange

end ClassLint
