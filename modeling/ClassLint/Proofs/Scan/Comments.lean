import ClassLint.Proofs.Scan.Nesting
import Mathlib.Data.List.Infix

/-!
# Reading a text with comments

The rules of strings, brackets, escapes and comments, stated without a scan. Outside strings a
comment goes from its opening marker to the first closing one, and nothing in it counts; without a
closing marker it goes to the end of the text. A reading tells what is left of the text without its
comments, how the text ends, and what it leaves open. On its way it comes to some of the places
between the characters: to none inside an escape or a comment.

The scan with comments follows these rules: what it marks as code is what a reading leaves, and it
marks a character as plain exactly where the text before it is read to its end.
-/

namespace ClassLint

/-- How a text ends: with whole units and closed comments, with a lone backslash, or inside a
comment. -/
inductive Ending where
  | whole
  | backslash
  | comment
  deriving DecidableEq, Repr

namespace Nesting

/-- Reading a text from an open nesting: what the text is without its comments, how it ends, and
what is open then. -/
inductive Reads : Nesting → (text code : Text) → Ending → Nesting → Prop where
  | nil {nesting : Nesting} : Reads nesting [] [] .whole nesting
  | backslash {nesting : Nesting} : Reads nesting ['\\'] ['\\'] .backslash nesting
  | unclosed {nesting : Nesting} {body : Text} (hquote : nesting.quote = none)
      (hbody : ¬ ['*', '/'] <:+: body) : Reads nesting ('/' :: '*' :: body) [] .comment nesting
  | comment {nesting after : Nesting} {body rest code : Text} {ending : Ending}
      (hquote : nesting.quote = none) (hbody : ¬ ['*', '/'] <:+: body)
      (hrest : Reads nesting rest code ending after) :
      Reads nesting ('/' :: '*' :: (body ++ '*' :: '/' :: rest)) code ending after
  | escape {nesting after : Nesting} {c : Char} {rest code : Text} {ending : Ending}
      (hrest : Reads nesting rest code ending after) :
      Reads nesting ('\\' :: c :: rest) ('\\' :: c :: code) ending after
  | char {nesting next after : Nesting} {c : Char} {rest code : Text} {ending : Ending}
      (hc : c ≠ '\\') (hcomment : nesting.quote = none → c = '/' → rest.head? ≠ some '*')
      (hturns : Turns nesting c next) (hrest : Reads next rest code ending after) :
      Reads nesting (c :: rest) (c :: code) ending after

/-- A reading of a text comes to a place in it: what stands before the place is passed unit by unit
and comment by comment, and what is open then. A comment without a closing marker is passed at the
end of the text. -/
inductive Reaches : Nesting → (before rest : Text) → Ending → Nesting → Prop where
  | here {nesting : Nesting} {rest : Text} : Reaches nesting [] rest .whole nesting
  | unclosed {nesting : Nesting} {body : Text} (hquote : nesting.quote = none)
      (hbody : ¬ ['*', '/'] <:+: body) : Reaches nesting ('/' :: '*' :: body) [] .comment nesting
  | comment {nesting after : Nesting} {body before rest : Text} {ending : Ending}
      (hquote : nesting.quote = none) (hbody : ¬ ['*', '/'] <:+: body)
      (hbefore : Reaches nesting before rest ending after) :
      Reaches nesting ('/' :: '*' :: (body ++ '*' :: '/' :: before)) rest ending after
  | escape {nesting after : Nesting} {c : Char} {before rest : Text} {ending : Ending}
      (hbefore : Reaches nesting before rest ending after) :
      Reaches nesting ('\\' :: c :: before) rest ending after
  | char {nesting next after : Nesting} {c : Char} {before rest : Text} {ending : Ending}
      (hc : c ≠ '\\')
      (hcomment : nesting.quote = none → c = '/' → (before ++ rest).head? ≠ some '*')
      (hturns : Turns nesting c next) (hbefore : Reaches next before rest ending after) :
      Reaches nesting (c :: before) rest ending after

end Nesting

/-- A text without a closing marker, or cut at its first one. -/
theorem exists_closing_marker (text : Text) :
    ¬ ['*', '/'] <:+: text ∨
      ∃ body rest, text = body ++ '*' :: '/' :: rest ∧ ¬ ['*', '/'] <:+: body := by
  induction text with
  | nil => exact Or.inl (by simp)
  | cons c text ih =>
    by_cases hclose : ∃ rest, c :: text = '*' :: '/' :: rest
    · obtain ⟨rest, hrest⟩ := hclose
      exact Or.inr ⟨[], rest, hrest, by simp⟩
    have hcons {body after : Text} (hbody : ¬ ['*', '/'] <:+: body)
        (htext : text = body ++ after) : ¬ ['*', '/'] <:+: c :: body := by
      intro hinfix
      rcases List.infix_cons_iff.1 hinfix with ⟨rest, hstart⟩ | hinside
      · cases hstart
        exact hclose ⟨rest ++ after, by rw [htext]; rfl⟩
      · exact hbody hinside
    rcases ih with hnone | ⟨body, rest, htext, hbody⟩
    · exact Or.inl (hcons hnone (List.append_nil _).symm)
    · exact Or.inr ⟨c :: body, rest, by rw [htext]; rfl, hcons hbody htext⟩

/-- Every text is read. -/
theorem Nesting.exists_reads (nesting : Nesting) :
    ∀ text, ∃ code ending after, nesting.Reads text code ending after
  | [] => ⟨[], .whole, nesting, .nil⟩
  | c :: rest => by
    by_cases hc : c = '\\'
    · subst hc
      cases rest with
      | nil => exact ⟨['\\'], .backslash, nesting, .backslash⟩
      | cons d rest =>
        obtain ⟨code, ending, after, hrest⟩ := nesting.exists_reads rest
        exact ⟨_, ending, after, .escape hrest⟩
    by_cases hcomment : nesting.quote = none ∧ c = '/' ∧ rest.head? = some '*'
    · obtain ⟨hquote, rfl, hstar⟩ := hcomment
      obtain ⟨tail, rfl⟩ := List.head?_eq_some_iff.1 hstar
      rcases exists_closing_marker tail with hnone | ⟨body, rest, rfl, hbody⟩
      · exact ⟨[], .comment, nesting, .unclosed hquote hnone⟩
      · obtain ⟨code, ending, after, hrest⟩ := nesting.exists_reads rest
        exact ⟨code, ending, after, .comment hquote hbody hrest⟩
    · obtain ⟨code, ending, after, hrest⟩ := (nesting.step c).exists_reads rest
      refine ⟨c :: code, ending, after, .char hc ?_ (turns_iff.2 rfl) hrest⟩
      exact fun hquote hslash hstar => hcomment ⟨hquote, hslash, hstar⟩
termination_by text => text.length

section Scan

variable {nesting after : Nesting} {ending : Ending} {text body rest code : Text}

/-- A scan inside a comment marks every character as part of it, up to the closing marker. -/
theorem scan_comment_char {c : Char} (h : c = '*' → rest.head? ≠ some '/') :
    scan true (.comment nesting) (c :: rest) =
      (⟨c, .comment, nesting⟩ :: (scan true (.comment nesting) rest).1,
        (scan true (.comment nesting) rest).2) := by
  rw [scan]
  intro tail hstar hrest
  exact h hstar (by rw [hrest]; rfl)

/-- The marks of a comment's characters. -/
def commentMarks (nesting : Nesting) (text : Text) : List Mark :=
  text.map fun c => ⟨c, .comment, nesting⟩

/-- The marks of a comment mark its characters. -/
@[simp] theorem map_char_commentMarks (nesting : Nesting) (text : Text) :
    (commentMarks nesting text).map Mark.char = text := by
  rw [commentMarks, List.map_map]
  exact List.map_id text

/-- No mark of a comment is code. -/
theorem part_of_mem_commentMarks {mark : Mark} (h : mark ∈ commentMarks nesting text) :
    mark.part = .comment := by
  obtain ⟨c, -, rfl⟩ := List.mem_map.1 h
  rfl

/-- Nothing in a comment is a mark of code. -/
@[simp] theorem filter_isCode_commentMarks (nesting : Nesting) (text : Text) :
    (commentMarks nesting text).filter Mark.isCode = [] := by
  apply List.filter_eq_nil_iff.2
  intro mark hmark
  simp [Mark.isCode, part_of_mem_commentMarks hmark]

/-- A scan goes through the body of a comment as long as it does not close. -/
theorem scan_comment_append (nesting : Nesting) (hbody : ¬ ['*', '/'] <:+: body)
    (hrest : rest.head? ≠ some '/') :
    scan true (.comment nesting) (body ++ rest) =
      (commentMarks nesting body ++ (scan true (.comment nesting) rest).1,
        (scan true (.comment nesting) rest).2) := by
  induction body with
  | nil => rfl
  | cons c body ih =>
    have hinside : ¬ ['*', '/'] <:+: body :=
      fun h => hbody (h.trans (List.suffix_cons c body).isInfix)
    rw [List.cons_append, scan_comment_char, ih hinside]
    · rfl
    · rintro rfl hslash
      cases body with
      | nil => exact hrest hslash
      | cons d body =>
        cases hslash
        exact hbody ⟨[], body, rfl⟩

/-- A comment without a closing marker goes to the end of the text. -/
theorem scan_unclosed (hquote : nesting.quote = none) (hbody : ¬ ['*', '/'] <:+: body) :
    scan true (.code nesting) ('/' :: '*' :: body) =
      (commentMarks nesting ('/' :: '*' :: body), .comment nesting) := by
  have hscan : scan true (.comment nesting) body =
      (commentMarks nesting body, .comment nesting) := by
    conv_lhs => rw [← List.append_nil body]
    rw [scan_comment_append nesting hbody (by simp)]
    simp [scan]
  rw [scan, if_pos (by simp [hquote]), hscan]
  rfl

/-- A comment goes to its first closing marker. -/
theorem scan_comment (hquote : nesting.quote = none) (hbody : ¬ ['*', '/'] <:+: body) :
    scan true (.code nesting) ('/' :: '*' :: (body ++ '*' :: '/' :: rest)) =
      (commentMarks nesting ('/' :: '*' :: (body ++ ['*', '/'])) ++
        (scan true (.code nesting) rest).1, (scan true (.code nesting) rest).2) := by
  rw [scan, if_pos (by simp [hquote]), scan_comment_append nesting hbody (by simp), scan]
  simp [commentMarks]

/-- What a scan does not mark as a comment is what a reading leaves of the text. -/
theorem Nesting.Reads.code_scan (h : nesting.Reads text code ending after) :
    ((scan true (.code nesting) text).1.filter Mark.isCode).map Mark.char = code := by
  induction h with
  | nil => rfl
  | backslash => rfl
  | unclosed hquote hbody => rw [scan_unclosed hquote hbody]; simp
  | comment hquote hbody _ ih => rw [scan_comment hquote hbody]; simp [ih]
  | escape _ ih =>
    rw [scan_escape, List.filter_cons_of_pos rfl, List.filter_cons_of_pos rfl, List.map_cons,
      List.map_cons, ih]
  | char hc hcomment hturns _ ih =>
    rw [scan_char hc fun _ => hcomment, turns_iff.1 hturns, List.filter_cons_of_pos rfl,
      List.map_cons, ih]

/-- A character that starts neither of two texts does not start them together. -/
theorem head?_append_ne {before other : Text} {c : Char} (hbefore : before.head? ≠ some c)
    (hother : other.head? ≠ some c) : (before ++ other).head? ≠ some c := by
  cases before with
  | nil => exact hother
  | cons d before => exact hbefore

/-- A character that does not start two texts together does not start the first. -/
theorem head?_ne_of_append {before other : Text} {c : Char}
    (h : (before ++ other).head? ≠ some c) : before.head? ≠ some c := by
  intro hbefore
  rw [List.head?_append, hbefore] at h
  exact h rfl

namespace Nesting

variable {before other : Text}

/-- A text that is read to its end is passed, whatever text without a star in front is behind it. -/
theorem Reads.reaches (h : nesting.Reads text code .whole after)
    (hrest : rest.head? ≠ some '*') : nesting.Reaches text rest .whole after := by
  generalize hending : Ending.whole = ending at h ⊢
  induction h with
  | nil => exact hending ▸ .here
  | backslash => cases hending
  | unclosed => cases hending
  | comment hquote hbody _ ih => exact .comment hquote hbody (ih hending)
  | escape _ ih => exact .escape (ih hending)
  | char hc hcomment hturns _ ih =>
    exact .char hc (fun hquote hslash => head?_append_ne (hcomment hquote hslash) hrest) hturns
      (ih hending)

/-- What is passed up to a place is passed with other text behind it too. -/
theorem Reaches.change (h : nesting.Reaches before rest .whole after)
    (hother : other.head? ≠ some '*') : nesting.Reaches before other .whole after := by
  generalize hending : Ending.whole = ending at h ⊢
  induction h with
  | here => exact .here
  | unclosed => cases hending
  | comment hquote hbody _ ih => exact .comment hquote hbody (ih hending)
  | escape _ ih => exact .escape (ih hending)
  | char hc hcomment hturns _ ih =>
    refine .char hc (fun hquote hslash => ?_) hturns (ih hending)
    exact head?_append_ne (head?_ne_of_append (hcomment hquote hslash)) hother

/-- From a place that its reading comes to, the scan of a text goes on with what is open there. -/
theorem Reaches.scan_append (h : nesting.Reaches before rest .whole after) :
    scan true (.code nesting) (before ++ rest) =
      ((scan true (.code nesting) before).1 ++ (scan true (.code after) rest).1,
        (scan true (.code after) rest).2) := by
  generalize hending : Ending.whole = ending at h
  induction h with
  | here => rfl
  | unclosed => cases hending
  | comment hquote hbody _ ih =>
    rw [List.cons_append, List.cons_append, List.append_assoc, List.cons_append, List.cons_append,
      scan_comment hquote hbody, scan_comment hquote hbody, ih hending, List.append_assoc]
  | escape _ ih =>
    rw [List.cons_append, List.cons_append, scan_escape, scan_escape, ih hending]
    rfl
  | char hc hcomment hturns _ ih =>
    rw [List.cons_append, scan_char hc fun _ => hcomment,
      scan_char hc fun _ hquote hslash => head?_ne_of_append (hcomment hquote hslash),
      turns_iff.1 hturns, ih hending]
    rfl

/-- Behind a text that is read to its end a scan goes on from what the text leaves open. -/
theorem Reads.scan_append (h : nesting.Reads text code .whole after)
    (hrest : rest.head? ≠ some '*') :
    scan true (.code nesting) (text ++ rest) =
      ((scan true (.code nesting) text).1 ++ (scan true (.code after) rest).1,
        (scan true (.code after) rest).2) :=
  (h.reaches hrest).scan_append

end Nesting

/-- A plain mark stands behind the marks that are not plain. -/
theorem exists_eq_append_of_plain {marks others first last : List Mark} {mark : Mark}
    (h : marks ++ others = first ++ mark :: last) (hmarks : ∀ mark ∈ marks, mark.part ≠ .plain)
    (hplain : mark.part = .plain) :
    ∃ between, first = marks ++ between ∧ others = between ++ mark :: last := by
  rcases List.append_eq_append_iff.1 h with ⟨between, hfirst, hothers⟩ | ⟨between, hsplit, hothers⟩
  · exact ⟨between, hfirst, hothers⟩
  · cases between with
    | nil => exact ⟨[], by simpa using hsplit.symm, hothers.symm⟩
    | cons inner between =>
      obtain ⟨rfl, -⟩ := List.cons.inj hothers
      exact absurd hplain (hmarks mark (by rw [hsplit]; simp))

/-- Where a scan finds a plain character, the text before it is read to its end and leaves open what
the mark says. -/
theorem Nesting.reads_of_scan_plain {first last : List Mark} {mark : Mark}
    (h : (scan true (.code nesting) text).1 = first ++ mark :: last) (hplain : mark.part = .plain) :
    ∃ code, nesting.Reads (first.map Mark.char) code .whole mark.nesting := by
  obtain ⟨code, ending, after, hreads⟩ := nesting.exists_reads text
  induction hreads generalizing first with
  | nil => simp [scan] at h
  | @backslash nesting =>
    rw [scan_backslash, ← List.append_nil [_]] at h
    obtain ⟨between, -, hnone⟩ := exists_eq_append_of_plain h (by simp) hplain
    simp at hnone
  | @unclosed nesting body hquote hbody =>
    rw [scan_unclosed hquote hbody, ← List.append_nil (commentMarks _ _)] at h
    obtain ⟨between, -, hnone⟩ := exists_eq_append_of_plain h
      (fun mark hmark => by simp [part_of_mem_commentMarks hmark]) hplain
    simp at hnone
  | @comment nesting after body rest code ending hquote hbody _ ih =>
    rw [scan_comment hquote hbody] at h
    obtain ⟨between, rfl, hrest⟩ := exists_eq_append_of_plain h
      (fun mark hmark => by simp [part_of_mem_commentMarks hmark]) hplain
    obtain ⟨code, hbetween⟩ := ih hrest
    refine ⟨code, ?_⟩
    rw [List.map_append, map_char_commentMarks]
    simpa using Reads.comment hquote hbody hbetween
  | @escape nesting after c rest code ending _ ih =>
    have hescape : ∀ mark ∈ [Mark.mk '\\' .escape nesting, ⟨c, .escape, nesting⟩],
        mark.part ≠ .plain := by simp
    rw [scan_escape] at h
    obtain ⟨between, rfl, hrest⟩ := exists_eq_append_of_plain h hescape hplain
    obtain ⟨code, hbetween⟩ := ih hrest
    exact ⟨_, .escape hbetween⟩
  | @char nesting next after c rest code ending hc hcomment hturns _ ih =>
    rw [scan_char hc fun _ => hcomment, turns_iff.1 hturns] at h
    cases first with
    | nil =>
      cases h
      exact ⟨[], .nil⟩
    | cons mark first =>
      rw [List.cons_append, List.cons.injEq] at h
      obtain ⟨rfl, hrest⟩ := h
      obtain ⟨code, hfirst⟩ := ih hrest
      refine ⟨c :: code, .char hc (fun hquote hslash => ?_) hturns hfirst⟩
      have htext := congrArg (List.map Mark.char) hrest
      rw [map_char_scan, List.map_append] at htext
      have hstar := hcomment hquote hslash
      rw [htext] at hstar
      exact head?_ne_of_append hstar

end Scan

end ClassLint
