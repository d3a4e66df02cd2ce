import ClassLint.Pattern.Basic
import ClassLint.Pattern.Fault
import ClassLint.Text.CharName

/-!
# Escapes in patterns

What a backslash and the character after it stand for: a control character, a code point written
in base eight or sixteen or by its name, a class of characters, an anchor, or the character
itself. Letters that stand for nothing are refused.
-/

namespace ClassLint.PatternReader

/-- The control character that a letter after a backslash stands for. -/
def controlEscape? (c : Char) : Option Char :=
  if c = 'a' then some '\x07'
  else if c = 'f' then some '\x0c'
  else if c = 'n' then some '\n'
  else if c = 'r' then some '\r'
  else if c = 't' then some '\t'
  else if c = 'v' then some '\x0b'
  else none

/-- The class of characters that a letter after a backslash stands for. -/
def classEscape? (alphabet : Alphabet) (c : Char) : Option SetEntry :=
  if c = 'd' then some (.named .digit alphabet false)
  else if c = 'D' then some (.named .digit alphabet true)
  else if c = 's' then some (.named .blank alphabet false)
  else if c = 'S' then some (.named .blank alphabet true)
  else if c = 'w' then some (.named .word alphabet false)
  else if c = 'W' then some (.named .word alphabet true)
  else none

/-- The anchor that a letter after a backslash stands for. -/
def anchorEscape? (alphabet : Alphabet) (c : Char) : Option Anchor :=
  if c = 'A' then some .start
  else if c = 'Z' then some .finish
  else if c = 'b' then some (.wordBoundary alphabet false)
  else if c = 'B' then some (.wordBoundary alphabet true)
  else none

/-- Whether a character is a digit in base sixteen. -/
def isHexDigit (c : Char) : Bool := (Text.hexValue? c).isSome

/-- Whether a character is a digit in base eight. -/
def isOctalDigit (c : Char) : Bool := '0' ≤ c && c ≤ '7'

/-- The greatest code point that can be written in base eight. -/
def octalLimit : Nat := 0o377

/-- Read a name up to the sign that closes it. -/
def readName (closer : Char) (what : Text) (pieces : Pieces) :
    Except PatternFault (Text × Pieces) :=
  match pieces.spanTo closer with
  | ([], none) => .error ⟨.nameMissing what, some pieces.position, true⟩
  | (_ :: _, none) => .error ⟨.unterminatedName closer, some pieces.position, true⟩
  | ([], some after) => after.fail (.nameMissing what) pieces.position
  | (name, some after) => .ok (name, after)

/-- Read the code point that an exact number of digits in base sixteen writes, after an escape that
starts at `start`. -/
def readHexadecimal (letter : Char) (count start : Nat) (pieces : Pieces) :
    Except PatternFault (Nat × Pieces) :=
  let (digits, rest) := pieces.span count isHexDigit
  let written := '\\' :: letter :: digits
  let code := Text.ofDigits 16 digits
  if digits.length < count then rest.fail (.incompleteEscape written) start
  else if 0x10FFFF < code then rest.fail (.badEscape written) start
  else .ok (code, rest)

/-- Read the code point of a named character, after an escape that starts at `start`. -/
def readNamed (start : Nat) (pieces : Pieces) : Except PatternFault (Nat × Pieces) :=
  match pieces.skip? '\x7b' with
  | none => pieces.fail .braceMissing pieces.position
  | some inside => do
    let (name, after) ← readName '\x7d' "character name" inside
    match Text.characterNamed? name with
    | some code => .ok (code, after)
    | none => after.fail (.undefinedCharacter name) start

/-- Read the code point of an escape that writes one by digits in base sixteen or by its name. -/
def readCode? (letter : Char) (start : Nat) (pieces : Pieces) :
    Option (Except PatternFault (Nat × Pieces)) :=
  if letter = 'x' then some (readHexadecimal letter 2 start pieces)
  else if letter = 'u' then some (readHexadecimal letter 4 start pieces)
  else if letter = 'U' then some (readHexadecimal letter 8 start pieces)
  else if letter = 'N' then some (readNamed start pieces)
  else none

/-! ## Character sets -/

/-- Read the entry that an escape writes inside a set. -/
def readSetEscape (alphabet : Alphabet) (c : Char) (start : Nat) (pieces : Pieces) :
    Except PatternFault (SetEntry × Pieces) :=
  let control? := if c = 'b' then some '\x08' else controlEscape? c
  match control?, classEscape? alphabet c, readCode? c start pieces with
  | some control, _, _ => .ok (.char control.toNat, pieces)
  | none, some entry, _ => .ok (entry, pieces)
  | none, none, some read => read.map fun (code, rest) => (.char code, rest)
  | none, none, none =>
    if isOctalDigit c then
      let (more, rest) := pieces.span 2 isOctalDigit
      let code := Text.ofDigits 8 (c :: more)
      if octalLimit < code then rest.fail (.octalTooLarge ('\\' :: c :: more)) start
      else .ok (.char code, rest)
    else if c.isAlphanum then pieces.fail (.badEscape ['\\', c]) start
    else .ok (.char c.toNat, pieces)

/-- Read the entry that a piece at `start` writes inside a set. -/
def readSetEntry (alphabet : Alphabet) (token : PatternToken) (start : Nat) (pieces : Pieces) :
    Except PatternFault (SetEntry × Pieces) :=
  if token.escaped then readSetEscape alphabet token.char start pieces
  else .ok (.char token.char.toNat, pieces)

/-- The range between two entries, which must be single characters in order. What is wrong about it
is reported as far before the end of the range as its two pieces are long. -/
def rangeEntry (first last : PatternToken) (low high : SetEntry) (pieces : Pieces) :
    Except PatternFault SetEntry :=
  let written := first.text ++ ['-'] ++ last.text
  let bad := pieces.fail (.badRange written) (pieces.position - written.length)
  match low, high with
  | .char low, .char high => if high < low then bad else .ok (.range low high)
  | _, _ => bad

/-- Read the entries of a set that was opened at `start` up to its closing bracket. A bracket that
stands first is an entry. Every entry takes a piece, so the number of pieces is fuel enough. -/
def readSetEntries (alphabet : Alphabet) (start : Nat) :
    Nat → Bool → Pieces → Except PatternFault (List SetEntry × Pieces)
  | 0, _, pieces => pieces.fail .unterminatedSet start
  | fuel + 1, isFirst, pieces =>
    match pieces.next? with
    | none => pieces.fail .unterminatedSet start
    | some (token, afterToken) =>
      if token.is ']' && !isFirst then .ok ([], afterToken)
      else do
        let (entry, afterEntry) ← readSetEntry alphabet token pieces.position afterToken
        match afterEntry.skip? '-' with
        | none =>
          let (entries, rest) ← readSetEntries alphabet start fuel false afterEntry
          .ok (entry :: entries, rest)
        | some afterDash =>
          match afterDash.next? with
          | none => afterDash.fail .unterminatedSet start
          | some (last, afterLast) =>
            if last.is ']' then .ok ([entry, .char '-'.toNat], afterLast)
            else
              let (high, afterHigh) ← readSetEntry alphabet last afterDash.position afterLast
              let range ← rangeEntry token last entry high afterHigh
              let (entries, rest) ← readSetEntries alphabet start fuel false afterHigh
              .ok (range :: entries, rest)

/-- Read the set whose pieces follow an opening bracket at `start`: its entries, whether they are
excluded, and what follows the set. -/
def readSet (alphabet : Alphabet) (start : Nat) (pieces : Pieces) :
    Except PatternFault ((List SetEntry × Bool) × Pieces) := do
  let (negated, body) :=
    match pieces.skip? '^' with
    | some body => (true, body)
    | none => (false, pieces)
  let (entries, rest) ← readSetEntries alphabet start (body.tokens.length + 1) true body
  .ok ((entries.eraseDups, negated), rest)

end ClassLint.PatternReader
