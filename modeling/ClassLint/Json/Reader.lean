import ClassLint.Json.Basic
import ClassLint.Text.Integer
import ClassLint.Text.Location

/-!
# Reading JSON

A reader of JSON text that names the first fault and where it stands. White space is space, tab,
line feed and carriage return. Beyond the standard it takes `NaN`, `Infinity` and `-Infinity`
for numbers. The number of digits of an integer is limited. An escaped surrogate without its
partner is read as the replacement character. A fault carries the rest of the text from the place
where it stands, so that the place is known once the whole text is.

Lists and objects are read at any depth of nesting. The limit that a running program has on the
depth of its recursion, and the failure of a reading that comes to it, are left out.
-/

namespace ClassLint.Json

/-- The causes for which a text is not JSON. -/
inductive FaultKind where
  | value
  | propertyName
  | colon
  | comma
  | extraData
  | unterminatedString
  | controlCharacter
  | escape
  | unicodeEscape
  | byteOrderMark
  | longNumber (digits : Nat)
  deriving DecidableEq, Repr

/-- A cause and the rest of the text from the place where it stands. -/
structure Fault where
  kind : FaultKind
  rest : Text
  deriving DecidableEq, Repr

/-- The wording of a cause. -/
def FaultKind.text : FaultKind → Text
  | .value => "Expecting value"
  | .propertyName => "Expecting property name enclosed in double quotes"
  | .colon => "Expecting ':' delimiter"
  | .comma => "Expecting ',' delimiter"
  | .extraData => "Extra data"
  | .unterminatedString => "Unterminated string starting at"
  | .controlCharacter => "Invalid control character at"
  | .escape => "Invalid \\escape"
  | .unicodeEscape => "Invalid \\uXXXX escape"
  | .byteOrderMark => "Unexpected UTF-8 BOM (decode using utf-8-sig)"
  | .longNumber digits => Text.longNumberMessage digits

/-- The report of a fault of the given source: cause, line, column and offset. -/
def Fault.message (fault : Fault) (source : Text) : Text :=
  let offset := source.length - fault.rest.length
  let location := Location.start.advance (source.take offset)
  fault.kind.text ++ ": line " ++ Text.ofInt location.line ++ " column " ++
    Text.ofInt location.column ++ " (char " ++ Text.ofNat offset ++ ")"

/-- White space between JSON tokens. -/
def isSpace (c : Char) : Bool := c == ' ' || c == '\t' || c == '\n' || c == '\r'

/-- The text without the white space at its start. -/
def skipSpace (text : Text) : Text := text.dropWhile isSpace

/-! ## Strings -/

/-- The number that four digits in base sixteen write, and what follows them. -/
def readUnit? : Text → Option (Nat × Text)
  | a :: b :: c :: d :: after => do
    let a ← Text.hexValue? a
    let b ← Text.hexValue? b
    let c ← Text.hexValue? c
    let d ← Text.hexValue? d
    some (((a * 16 + b) * 16 + c) * 16 + d, after)
  | _ => none

/-- Whether a UTF-16 unit is the first of a pair. -/
def isHighSurrogate (unit : Nat) : Bool := 0xD800 ≤ unit && unit < 0xDC00

/-- Whether a UTF-16 unit is the second of a pair. -/
def isLowSurrogate (unit : Nat) : Bool := 0xDC00 ≤ unit && unit < 0xE000

/-- The character of a UTF-16 unit that stands alone. -/
def charOfUnit (unit : Nat) : Char :=
  if isHighSurrogate unit || isLowSurrogate unit then '\uFFFD' else Char.ofNat unit

/-- The character of a pair of UTF-16 units. -/
def charOfPair (high low : Nat) : Char :=
  Char.ofNat (0x10000 + (high - 0xD800) * 0x400 + (low - 0xDC00))

/-- The character that the digits after `\u` write, and what follows. A text never ends there. -/
def readUnicodeEscape (digits : Text) : Except Fault (Char × Text) :=
  match readUnit? digits with
  | none | some (_, []) => .error ⟨.unicodeEscape, 'u' :: digits⟩
  | some (unit, after) =>
    match isHighSurrogate unit, after with
    | true, '\\' :: 'u' :: more =>
      if more.length < 5 then .ok (charOfUnit unit, after)
      else match readUnit? more with
        | none => .error ⟨.unicodeEscape, 'u' :: more⟩
        | some (low, rest) =>
          if isLowSurrogate low then .ok (charOfPair unit low, rest)
          else .ok (charOfUnit unit, after)
    | _, _ => .ok (charOfUnit unit, after)

/-- The character that a letter after a backslash stands for. -/
def simpleEscape? (c : Char) : Option Char :=
  if c = '"' || c = '\\' || c = '/' then some c
  else if c = 'b' then some '\x08'
  else if c = 'f' then some '\x0c'
  else if c = 'n' then some '\n'
  else if c = 'r' then some '\r'
  else if c = 't' then some '\t'
  else none

/-- The character that an escape writes, from after its backslash, and what follows. -/
def readEscape (opening : Text) : Text → Except Fault (Char × Text)
  | [] => .error ⟨.unterminatedString, opening⟩
  | c :: rest =>
    if c = 'u' then readUnicodeEscape rest
    else match simpleEscape? c with
      | some char => .ok (char, rest)
      | none => .error ⟨.escape, '\\' :: c :: rest⟩

/-- Four digits are followed by a shorter text. -/
theorem length_of_readUnit? {text after : Text} {unit : Nat}
    (h : readUnit? text = some (unit, after)) : after.length < text.length := by
  unfold readUnit? at h
  split at h
  · simp only [Option.bind_eq_bind, Option.bind_eq_some_iff, Option.some.injEq, Prod.mk.injEq] at h
    obtain ⟨_, _, _, _, _, _, _, _, _, rfl⟩ := h
    simp only [List.length_cons]
    omega
  · simp at h

/-- A numeric escape is followed by a shorter text. -/
theorem length_of_readUnicodeEscape {text after : Text} {c : Char}
    (h : readUnicodeEscape text = .ok (c, after)) : after.length < text.length := by
  unfold readUnicodeEscape at h
  split at h
  · simp at h
  · simp at h
  · rename_i unit rest _ hunit
    have hlength := length_of_readUnit? hunit
    split at h
    · split at h
      · simp only [Except.ok.injEq, Prod.mk.injEq] at h
        rw [← h.2]; exact hlength
      · split at h
        · simp at h
        · rename_i hpair
          have hshorter := length_of_readUnit? hpair
          simp only [List.length_cons] at hlength
          split at h
          · simp only [Except.ok.injEq, Prod.mk.injEq] at h
            rw [← h.2]; omega
          · simp only [Except.ok.injEq, Prod.mk.injEq] at h
            rw [← h.2]; simp only [List.length_cons]; omega
    · simp only [Except.ok.injEq, Prod.mk.injEq] at h
      rw [← h.2]; exact hlength

/-- An escape is followed by a shorter text. -/
theorem length_of_readEscape {opening text after : Text} {c : Char}
    (h : readEscape opening text = .ok (c, after)) : after.length < text.length := by
  unfold readEscape at h
  split at h
  · simp at h
  · split at h
    · have := length_of_readUnicodeEscape h
      simp only [List.length_cons]; omega
    · split at h
      · simp only [Except.ok.injEq, Prod.mk.injEq] at h
        simp [← h.2]
      · simp at h

/-- The characters up to the quote that closes a string, and what follows it. `opening` is the
text from the quote that opened the string. -/
def readText (opening : Text) (text : Text) : Except Fault (Text × Text) :=
  match text with
  | [] => .error ⟨.unterminatedString, opening⟩
  | c :: rest =>
    if c = '"' then .ok ([], rest)
    else if c = '\\' then
      match _h : readEscape opening rest with
      | .error fault => .error fault
      | .ok (char, after) => (readText opening after).map fun (chars, tail) => (char :: chars, tail)
    else if c.toNat < 0x20 then .error ⟨.controlCharacter, c :: rest⟩
    else (readText opening rest).map fun (chars, tail) => (c :: chars, tail)
termination_by text.length
decreasing_by
  · have := length_of_readEscape ‹_›
    simp only [List.length_cons]; omega
  · simp

/-! ## Numbers -/

/-- The digits at the start of a text, and what follows them. -/
def spanDigits (text : Text) : Text × Text :=
  (text.takeWhile Char.isDigit, text.dropWhile Char.isDigit)

/-- The number that digits write. -/
def digitsValue (digits : Text) : Nat :=
  digits.foldl (fun value c => 10 * value + (c.toNat - '0'.toNat)) 0

/-- The digits before a point or an exponent: a lone zero, or digits that start with no zero. -/
def readWhole? : Text → Option (Text × Text)
  | '0' :: rest => some (['0'], rest)
  | other =>
    match spanDigits other with
    | ([], _) => none
    | (digits, rest) => some (digits, rest)

/-- The digits after a point, if a point with a digit follows. -/
def readFraction : Text → Text × Text
  | '.' :: rest =>
    match spanDigits rest with
    | ([], _) => ([], '.' :: rest)
    | (digits, after) => (digits, after)
  | other => ([], other)

/-- The exponent, if a complete one follows. -/
def readExponent (text : Text) : Option Int × Text :=
  let signed (negative : Bool) (rest : Text) : Option Int × Text :=
    match spanDigits rest with
    | ([], _) => (none, text)
    | (digits, after) =>
      (some (if negative then -(digitsValue digits : Int) else digitsValue digits), after)
  match text with
  | 'e' :: '-' :: rest | 'E' :: '-' :: rest => signed true rest
  | 'e' :: '+' :: rest | 'E' :: '+' :: rest => signed false rest
  | 'e' :: rest | 'E' :: rest => signed false rest
  | _ => (none, text)

/-- The number whose text starts after an optional minus sign at `start`, and what follows it. -/
def readMagnitude (start : Text) (negative : Bool) (text : Text) : Except Fault (Json × Text) :=
  match readWhole? text with
  | none => .error ⟨.value, start⟩
  | some (whole, afterWhole) =>
    let (fraction, afterFraction) := readFraction afterWhole
    let (exponent?, rest) := readExponent afterFraction
    if fraction.isEmpty && exponent?.isNone then
      let value : Int := digitsValue whole
      if Text.digitLimit < whole.length then .error ⟨.longNumber whole.length, start⟩
      else .ok (.integer (if negative then -value else value), rest)
    else
      let decimal : Decimal :=
        { negative := negative
          digits := digitsValue (whole ++ fraction)
          exponent := exponent?.getD 0 - fraction.length }
      .ok (.floating (.finite decimal), rest)

/-- The number at the start of a text, and what follows it. -/
def readNumber (text : Text) : Except Fault (Json × Text) :=
  match text with
  | '-' :: rest => readMagnitude text true rest
  | _ => readMagnitude text false text

/-! ## Values -/

/-- The words that stand for values. -/
def wordValues : List (Text × Json) :=
  [("null", .null), ("true", .bool true), ("false", .bool false), ("NaN", .floating .nan),
    ("Infinity", .floating (.infinity false)), ("-Infinity", .floating (.infinity true))]

/-- The value that a word at the start of a text stands for, and what follows it. -/
def readWord? (text : Text) : Option (Json × Text) :=
  wordValues.findSome? fun (word, value) => (Text.after? word text).map fun rest => (value, rest)

mutual

/-- The value at the start of a text, and what follows it. -/
def readValue (fuel : Nat) (text : Text) : Except Fault (Json × Text) :=
  match fuel with
  | 0 => .error ⟨.value, text⟩
  | fuel + 1 =>
    match text with
    | '"' :: rest => (readText text rest).map fun (chars, after) => (.text chars, after)
    | '[' :: rest =>
      match skipSpace rest with
      | ']' :: after => .ok (.list [], after)
      | inner => (readItems fuel inner).map fun (items, after) => (.list items, after)
    | '\x7b' :: rest =>
      match skipSpace rest with
      | '\x7d' :: after => .ok (.object [], after)
      | inner =>
        (readMembers fuel inner).map fun (members, after) =>
          (.object (Members.ofList members), after)
    | _ =>
      match readWord? text with
      | some found => .ok found
      | none => readNumber text

/-- The items of a list from its first one on, and what follows the closing bracket. -/
def readItems (fuel : Nat) (text : Text) : Except Fault (List Json × Text) :=
  match fuel with
  | 0 => .error ⟨.value, text⟩
  | fuel + 1 => do
    let (item, after) ← readValue fuel text
    match skipSpace after with
    | ']' :: rest => .ok ([item], rest)
    | ',' :: rest =>
      let (items, tail) ← readItems fuel (skipSpace rest)
      .ok (item :: items, tail)
    | rest => .error ⟨.comma, rest⟩

/-- The members of an object from its first key on, and what follows the closing brace. -/
def readMembers (fuel : Nat) (text : Text) : Except Fault (List (Text × Json) × Text) :=
  match fuel with
  | 0 => .error ⟨.propertyName, text⟩
  | fuel + 1 =>
    match text with
    | '"' :: afterQuote => do
      let (key, afterKey) ← readText text afterQuote
      match skipSpace afterKey with
      | ':' :: afterColon =>
        let (value, afterValue) ← readValue fuel (skipSpace afterColon)
        match skipSpace afterValue with
        | '\x7d' :: rest => .ok ([(key, value)], rest)
        | ',' :: rest =>
          let (members, tail) ← readMembers fuel (skipSpace rest)
          .ok ((key, value) :: members, tail)
        | rest => .error ⟨.comma, rest⟩
      | rest => .error ⟨.colon, rest⟩
    | _ => .error ⟨.propertyName, text⟩

end

/-- The value that a whole text writes. Every level of nesting takes at least one character, so
twice the length of the text is fuel enough. -/
def read (source : Text) : Except Fault Json :=
  match source with
  | '\uFEFF' :: _ => .error ⟨.byteOrderMark, source⟩
  | _ => do
    let (value, after) ← readValue (2 * source.length + 2) (skipSpace source)
    match skipSpace after with
    | [] => .ok value
    | rest => .error ⟨.extraData, rest⟩

end ClassLint.Json
