import ClassLint.Text.Location
import Mathlib.Data.List.DropRight

/-!
# Offsets, slices and locations

A location is computed by moving along a text. Here it is fixed by counting instead: the line by
the line feeds before an offset, the column by the characters after the last of them. The two
agree from the start of a source, and larger offsets have strictly later locations. Things that
stand in a source one after the other are told apart by the offsets between which they stand.
-/

namespace ClassLint

namespace Text

/-- The characters of a text from one offset up to another. -/
def slice (text : Text) (start stop : Nat) : Text := (text.drop start).take (stop - start)

/-- A slice that starts where a prefix ends completes the prefix. -/
theorem take_append_slice (text : Text) {start stop : Nat} (h : start ≤ stop) :
    text.take start ++ text.slice start stop = text.take stop := by
  rw [slice, ← List.take_add, Nat.add_sub_cancel' h]

/-- Neighbouring slices make up one slice. -/
theorem slice_append_slice (text : Text) {start middle stop : Nat} (hstart : start ≤ middle)
    (hstop : middle ≤ stop) :
    text.slice start middle ++ text.slice middle stop = text.slice start stop := by
  have hwhole : text.take start ++ (text.slice start middle ++ text.slice middle stop) =
      text.take start ++ text.slice start stop := by
    rw [← List.append_assoc, take_append_slice text hstart, take_append_slice text hstop,
      take_append_slice text (hstart.trans hstop)]
  exact List.append_cancel_left hwhole

/-- A text between two others is a slice of the whole. -/
theorem slice_append_middle (before middle after : Text) :
    slice (before ++ middle ++ after) before.length (before.length + middle.length) = middle := by
  simp [slice]

/-- A slice inside a text has the length between its ends. -/
theorem length_slice (text : Text) (start : Nat) {stop : Nat} (h : stop ≤ text.length) :
    (text.slice start stop).length = stop - start := by
  rw [slice, List.length_take, List.length_drop]
  omega

end Text

namespace Location

/-- The location of an offset: one more than the line feeds before it, and one more than the
characters between the last of them and the offset. -/
def atOffset (source : Text) (offset : Nat) : Location where
  line := 1 + (source.take offset).count '\n'
  column := ((source.take offset).rtakeWhile (· ≠ '\n')).length + 1

/-- One location is earlier than another: on an earlier line, or on the same line in an earlier
column. -/
def Before (a b : Location) : Prop := a.line < b.line ∨ a.line = b.line ∧ a.column < b.column

/-- Moving along a whole text counts its line feeds and the characters after the last of them. -/
theorem advance_start (text : Text) :
    start.advance text =
      ⟨1 + text.count '\n', (text.rtakeWhile (· ≠ '\n')).length + 1⟩ := by
  induction text using List.reverseRecOn with
  | nil => rfl
  | append_singleton text c ih =>
    rw [advance_append, ih, advance_cons, advance_nil, next]
    by_cases hc : c = '\n'
    · rw [if_pos hc, List.rtakeWhile_concat_neg _ _ _ (by simp [hc])]
      simp [hc]
      omega
    · rw [if_neg hc, List.rtakeWhile_concat_pos _ _ _ (by simp [hc])]
      simp [hc]

/-- Moving along a prefix of a source leads to the location of its end. -/
theorem advance_take (source : Text) (offset : Nat) :
    start.advance (source.take offset) = atOffset source offset :=
  advance_start _

/-- The location of a source's first character. -/
@[simp] theorem atOffset_zero (source : Text) : atOffset source 0 = start := by
  rw [← advance_take, List.take_zero, advance_nil]

/-- Moving along a slice leads from the location of its start to that of its end. -/
theorem advance_slice (source : Text) {start stop : Nat} (h : start ≤ stop) :
    (atOffset source start).advance (source.slice start stop) = atOffset source stop := by
  rw [← advance_take, ← advance_append, Text.take_append_slice source h, advance_take]

/-- The character at an offset leads to the location of the next offset. -/
theorem atOffset_succ {source : Text} {offset : Nat} {c : Char} (h : source[offset]? = some c) :
    atOffset source (offset + 1) = (atOffset source offset).next c := by
  rw [← advance_take, ← advance_take, List.take_add_one, h, advance_append]
  rfl

/-- Each character moves to a later location. -/
theorem before_next (location : Location) (c : Char) : location.Before (location.next c) := by
  unfold next
  split
  · exact Or.inl (Int.lt_succ _)
  · exact Or.inr ⟨rfl, Int.lt_succ _⟩

/-- Being earlier is transitive. -/
theorem Before.trans {a b c : Location} (hab : a.Before b) (hbc : b.Before c) : a.Before c := by
  unfold Before at *
  omega

/-- A location is not earlier than itself. -/
theorem Before.ne {a b : Location} (h : a.Before b) : a ≠ b := by
  rintro rfl
  unfold Before at h
  omega

/-- A text that is not empty moves to a later location. -/
theorem before_advance (location : Location) {text : Text} (h : text ≠ []) :
    location.Before (location.advance text) := by
  induction text generalizing location with
  | nil => exact absurd rfl h
  | cons c rest ih =>
    rw [advance_cons]
    by_cases hrest : rest = []
    · rw [hrest, advance_nil]
      exact location.before_next c
    · exact (location.before_next c).trans (ih _ hrest)

/-- A larger offset inside a source has a later location. -/
theorem atOffset_before (source : Text) {i j : Nat} (hij : i < j) (hj : j ≤ source.length) :
    (atOffset source i).Before (atOffset source j) := by
  rw [← advance_slice source hij.le]
  apply before_advance
  intro hempty
  have hlength := Text.length_slice source i hj
  rw [hempty, List.length_nil] at hlength
  omega

/-- A location comes first beside itself. -/
theorem le_refl (location : Location) : location.le location = true := by
  simp [le]

/-- An earlier location comes first in the order of locations. -/
theorem le_of_before {a b : Location} (h : a.Before b) : a.le b = true := by
  unfold Before at h
  simp only [le, Bool.or_eq_true, Bool.and_eq_true, decide_eq_true_eq]
  omega

end Location

/-- Things that stand in order between two offsets, without overlap: each reaches from a start to a
larger stop, where `At` says what it is to stand there. -/
def InOrder {α : Type} (At : (start stop : Nat) → α → Prop) :
    (low : Nat) → (items : List α) → (high : Nat) → Prop
  | low, [], high => low ≤ high
  | low, item :: rest, high =>
    ∃ start stop, low ≤ start ∧ start < stop ∧ At start stop item ∧ InOrder At stop rest high

namespace InOrder

variable {α : Type} {At : Nat → Nat → α → Prop} {low middle high : Nat}
  {items first second : List α}

/-- The offsets around things are in order. -/
theorem low_le_high (h : InOrder At low items high) : low ≤ high := by
  induction items generalizing low with
  | nil => exact h
  | cons item rest ih =>
    obtain ⟨start, stop, hlow, hstop, _, hrest⟩ := h
    exact hlow.trans (hstop.le.trans (ih hrest))

/-- The offset before things may be lowered. -/
theorem of_le {lower : Nat} (h : InOrder At low items high) (hlower : lower ≤ low) :
    InOrder At lower items high := by
  cases items with
  | nil => exact hlower.trans h
  | cons item rest =>
    obtain ⟨start, stop, hlow, hrest⟩ := h
    exact ⟨start, stop, hlower.trans hlow, hrest⟩

/-- There are no more things than offsets between which they stand. -/
theorem length_add_le (h : InOrder At low items high) : items.length + low ≤ high := by
  induction items generalizing low with
  | nil => exact (Nat.zero_add low).le.trans h
  | cons item rest ih =>
    obtain ⟨start, stop, hlow, hstop, _, hrest⟩ := h
    have hlength := ih hrest
    rw [List.length_cons]
    omega

/-- Things before a middle offset, then things behind it. -/
theorem append (hfirst : InOrder At low first middle) (hsecond : InOrder At middle second high) :
    InOrder At low (first ++ second) high := by
  induction first generalizing low with
  | nil => exact hsecond.of_le hfirst
  | cons item rest ih =>
    obtain ⟨start, stop, hlow, hstop, hat, hrest⟩ := hfirst
    exact ⟨start, stop, hlow, hstop, hat, ih hrest⟩

/-- The offset behind things may be raised. -/
theorem le_of {higher : Nat} (h : InOrder At low items high) (hhigher : high ≤ higher) :
    InOrder At low items higher := by
  have hnone : InOrder At high [] higher := hhigher
  simpa using h.append hnone

/-- Things are cut at a middle offset where their list is cut. -/
theorem exists_middle (h : InOrder At low (first ++ second) high) :
    ∃ middle, InOrder At low first middle ∧ InOrder At middle second high := by
  induction first generalizing low with
  | nil => exact ⟨low, le_rfl, h⟩
  | cons item rest ih =>
    obtain ⟨start, stop, hlow, hstop, hat, hrest⟩ := h
    obtain ⟨middle, hfirst, hsecond⟩ := ih hrest
    exact ⟨middle, ⟨start, stop, hlow, hstop, hat, hfirst⟩, hsecond⟩

/-- Some of the things stand in order as all of them do. -/
theorem sublist (h : InOrder At low items high) (hfirst : first.Sublist items) :
    InOrder At low first high := by
  induction hfirst generalizing low with
  | slnil => exact h
  | cons item _ ih =>
    obtain ⟨start, stop, hlow, hstop, _, hrest⟩ := h
    exact (ih hrest).of_le (hlow.trans hstop.le)
  | cons_cons item _ ih =>
    obtain ⟨start, stop, hlow, hstop, hat, hrest⟩ := h
    exact ⟨start, stop, hlow, hstop, hat, ih hrest⟩

/-- Each of the things starts at or above the offset before them. -/
theorem exists_of_mem (h : InOrder At low items high) {item : α} (hitem : item ∈ items) :
    ∃ start stop, low ≤ start ∧ At start stop item := by
  obtain ⟨start, stop, hlow, _, hat, _⟩ := h.sublist (List.singleton_sublist.2 hitem)
  exact ⟨start, stop, hlow, hat⟩

/-- What holds from smaller to larger starts holds from earlier to later things. -/
theorem pairwise {r : α → α → Prop} (h : InOrder At low items high)
    (hr : ∀ {start stop start' stop' item item'}, At start stop item → At start' stop' item' →
      start < start' → r item item') : items.Pairwise r := by
  induction items generalizing low with
  | nil => exact .nil
  | cons item rest ih =>
    obtain ⟨start, stop, _, hstop, hat, hrest⟩ := h
    refine List.pairwise_cons.2 ⟨fun other hother => ?_, ih hrest⟩
    obtain ⟨start', stop', hlater, hat'⟩ := hrest.exists_of_mem hother
    exact hr hat hat' (hstop.trans_le hlater)

/-- The starts of things: a strictly increasing list at or above the offset before them. -/
theorem exists_starts (h : InOrder At low items high) :
    ∃ starts : List Nat, (∀ start ∈ starts, low ≤ start) ∧ starts.Pairwise (· < ·) ∧
      List.Forall₂ (fun start item => ∃ stop, At start stop item) starts items := by
  induction items generalizing low with
  | nil => exact ⟨[], by simp, .nil, .nil⟩
  | cons item rest ih =>
    obtain ⟨start, stop, hlow, hstop, hat, hrest⟩ := h
    obtain ⟨starts, habove, hincreasing, hstarts⟩ := ih hrest
    have hlater : ∀ other ∈ starts, start < other := fun other hother =>
      hstop.trans_le (habove other hother)
    refine ⟨start :: starts, ?_, List.pairwise_cons.2 ⟨hlater, hincreasing⟩, .cons ⟨stop, hat⟩ hstarts⟩
    exact List.forall_mem_cons.2 ⟨hlow, fun other hother => hlow.trans (hlater other hother).le⟩

end InOrder

end ClassLint
