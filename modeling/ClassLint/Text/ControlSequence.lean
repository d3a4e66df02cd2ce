import ClassLint.Text.Basic

/-!
# Control sequences

What is shown to the user holds no control sequences for terminals. A sequence is an escape
character and a bracket, then parameter characters, then intermediate characters, then one final
character. An escape character that starts no complete sequence stays.
-/

namespace ClassLint.Text

/-- The parameter characters of a sequence, from `0` to `?`. -/
def isParameter (c : Char) : Bool := '0' ≤ c && c ≤ '?'

/-- The intermediate characters of a sequence, from the space to `/`. -/
def isIntermediate (c : Char) : Bool := ' ' ≤ c && c ≤ '/'

/-- The final characters of a sequence, from `@` to `~`. -/
def isFinal (c : Char) : Bool := '@' ≤ c && c ≤ '~'

/-- What follows the control sequence at the start of a text. -/
def afterSequence? : Text → Option Text
  | '\x1b' :: '[' :: rest =>
    match (rest.dropWhile isParameter).dropWhile isIntermediate with
    | [] => none
    | c :: after => if isFinal c then some after else none
  | _ => none

/-- Dropping characters makes no text longer. -/
theorem length_dropWhile_le (kind : Char → Bool) (text : Text) :
    (text.dropWhile kind).length ≤ text.length :=
  (List.dropWhile_sublist kind).length_le

/-- A sequence is followed by a shorter text. -/
theorem length_of_afterSequence? {text after : Text} (h : afterSequence? text = some after) :
    after.length < text.length := by
  unfold afterSequence? at h
  split at h
  · rename_i rest
    split at h
    · simp at h
    · rename_i c tail htail
      split at h
      · have hinner := length_dropWhile_le isParameter rest
        have houter := length_dropWhile_le isIntermediate (rest.dropWhile isParameter)
        rw [htail] at houter
        simp only [Option.some.injEq] at h
        subst h
        simp only [List.length_cons] at houter ⊢
        omega
      · simp at h
  · simp at h

/-- The text without its control sequences. -/
def withoutSequences (text : Text) : Text :=
  match text with
  | [] => []
  | c :: rest =>
    match _h : afterSequence? (c :: rest) with
    | some after => withoutSequences after
    | none => c :: withoutSequences rest
termination_by text.length
decreasing_by
  · exact length_of_afterSequence? ‹_›
  · simp

end ClassLint.Text
