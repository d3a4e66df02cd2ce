import ClassLint.Text.Basic

/-!
# UTF-8

Decoding of UTF-8, one byte after the other. A first byte tells how many bytes follow it and
which values the next one may have; those after it are any continuation bytes. The first fault
ends the decoding. It names the bytes that were read of the faulty sequence: its first byte and
the continuation bytes that were right.
-/

namespace ClassLint.Utf8

/-- The causes for which bytes are not UTF-8. -/
inductive FaultReason where
  | invalidStart
  | invalidContinuation
  | unexpectedEnd
  deriving DecidableEq, Repr

/-- A cause, the first byte of the faulty sequence, where it stands, and how many bytes of it were
read. -/
structure Fault where
  reason : FaultReason
  first : UInt8
  position : Nat
  length : Nat
  deriving DecidableEq, Repr

/-- The wording of a cause. -/
def FaultReason.text : FaultReason → Text
  | .invalidStart => "invalid start byte"
  | .invalidContinuation => "invalid continuation byte"
  | .unexpectedEnd => "unexpected end of data"

/-- The report of a fault. -/
def Fault.message (fault : Fault) : Text :=
  let which :=
    if fault.length = 1 then
      "byte 0x" ++ Text.hex 2 fault.first.toNat ++ " in position " ++ Text.ofNat fault.position
    else
      "bytes in position " ++ Text.ofNat fault.position ++ ['-'] ++
        Text.ofNat (fault.position + fault.length - 1)
  "'utf-8' codec can't decode " ++ which ++ ": " ++ fault.reason.text

/-- A sequence that is being read: its first byte, the number of bytes read and still to come, the
bounds of the next one, and the code point so far. -/
structure Pending where
  first : UInt8
  taken : Nat
  missing : Nat
  low : Nat
  high : Nat
  code : Nat
  deriving DecidableEq, Repr

/-- The sequence of several bytes that a first byte starts. -/
def Pending.ofFirst? (byte : UInt8) : Option Pending :=
  let n := byte.toNat
  let sequence (missing low high code : Nat) : Option Pending :=
    some ⟨byte, 1, missing, low, high, code⟩
  if n < 0xC2 then none
  else if n < 0xE0 then sequence 1 0x80 0xBF (n - 0xC0)
  else if n = 0xE0 then sequence 2 0xA0 0xBF (n - 0xE0)
  else if n = 0xED then sequence 2 0x80 0x9F (n - 0xE0)
  else if n < 0xF0 then sequence 2 0x80 0xBF (n - 0xE0)
  else if n = 0xF0 then sequence 3 0x90 0xBF (n - 0xF0)
  else if n < 0xF4 then sequence 3 0x80 0xBF (n - 0xF0)
  else if n = 0xF4 then sequence 3 0x80 0x8F (n - 0xF0)
  else none

/-- The text of the bytes from a position on, where a sequence may be being read. -/
def decodeFrom (position : Nat) : Option Pending → List UInt8 → Except Fault Text
  | none, [] => .ok []
  | some pending, [] =>
    .error ⟨.unexpectedEnd, pending.first, position - pending.taken, pending.taken⟩
  | none, byte :: rest =>
    if byte.toNat < 0x80 then
      (decodeFrom (position + 1) none rest).map (Char.ofNat byte.toNat :: ·)
    else match Pending.ofFirst? byte with
      | none => .error ⟨.invalidStart, byte, position, 1⟩
      | some pending => decodeFrom (position + 1) (some pending) rest
  | some pending, byte :: rest =>
    let n := byte.toNat
    if n < pending.low || pending.high < n then
      .error ⟨.invalidContinuation, pending.first, position - pending.taken, pending.taken⟩
    else
      let code := 64 * pending.code + (n - 0x80)
      if pending.missing = 1 then (decodeFrom (position + 1) none rest).map (Char.ofNat code :: ·)
      else
        decodeFrom (position + 1)
          (some ⟨pending.first, pending.taken + 1, pending.missing - 1, 0x80, 0xBF, code⟩) rest

/-- The text that bytes encode, or their first fault. A byte order mark stays in the text. -/
def decode (bytes : List UInt8) : Except Fault Text := decodeFrom 0 none bytes

/-- The text with every line end written as a line feed. -/
def normalizeNewlines : Text → Text
  | [] => []
  | '\r' :: '\n' :: rest => '\n' :: normalizeNewlines rest
  | '\r' :: rest => '\n' :: normalizeNewlines rest
  | c :: rest => c :: normalizeNewlines rest

end ClassLint.Utf8
