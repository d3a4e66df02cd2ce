import ClassLint.Proofs.Json.RoundTrip

/-!
# The characters of a print

A printed value consists of line breaks and of the characters of ASCII that are shown, whatever
texts it holds. So there are no control sequences in it.
-/

namespace ClassLint.Json

/-- Line breaks, and the characters of ASCII that are shown. -/
def isShown (c : Char) : Bool := c == '\n' || (' ' ≤ c && c ≤ '~')

/-- A text of line breaks and characters that are shown. -/
abbrev Shown (text : Text) : Prop := ∀ c ∈ text, isShown c = true

/-- A given text is shown if a test of its characters says so. -/
theorem shown_of_all {text : Text} (h : text.all isShown = true) : Shown text :=
  List.all_eq_true.1 h

/-- Texts that are shown one after the other. -/
theorem Shown.append {first second : Text} (hfirst : Shown first) (hsecond : Shown second) :
    Shown (first ++ second) :=
  List.forall_mem_append.2 ⟨hfirst, hsecond⟩

/-- Texts that are shown with a separator between them. -/
theorem Shown.join {between : Text} {texts : List Text} (hbetween : Shown between)
    (htexts : ∀ text ∈ texts, Shown text) : Shown (Text.join between texts) := by
  induction texts with
  | nil => exact List.forall_mem_nil _
  | cons text texts ih =>
    obtain ⟨htext, hrest⟩ := List.forall_mem_cons.1 htexts
    cases texts with
    | nil => exact htext
    | cons next texts => exact (htext.append hbetween).append (ih hrest)

/-! ## Numbers and strings -/

/-- The digits of an integer are shown. -/
theorem shown_ofInt (value : Int) : Shown (Text.ofInt value) := by
  intro c hc
  obtain hdigit | rfl := Text.isDigit_or_of_mem_ofInt hc
  · rw [Char.isDigit, Bool.and_eq_true, decide_eq_true_eq, decide_eq_true_eq] at hdigit
    have hlow : ' ' ≤ c := Char.le_trans (show ' ' ≤ '0' by decide) hdigit.1
    have hhigh : c ≤ '~' := Char.le_trans hdigit.2 (show '9' ≤ '~' by decide)
    simp [isShown, hlow, hhigh]
  · rfl

/-- The escape of a unit is shown. -/
theorem shown_unitEscape {unit : Nat} (h : unit < 0x10000) : Shown (unitEscape unit) := by
  have hdigit : ∀ n < 16, isShown n.digitChar = true := by decide
  have hlast (n : Nat) : isShown (n % 16).digitChar = true := hdigit _ (Nat.mod_lt n (by decide))
  have hstart : Shown "\\u" := shown_of_all rfl
  refine hstart.append ?_
  rw [Text.hex_four h]
  simp only [Shown, List.forall_mem_cons]
  exact ⟨hdigit _ (by omega), hlast _, hlast _, hlast _, List.forall_mem_nil _⟩

/-- A character is printed by characters that are shown. -/
theorem shown_printChar (c : Char) : Shown (printChar c) := by
  have hvalid : c.toNat < 0xD800 ∨ 0xDFFF < c.toNat ∧ c.toNat < 0x110000 := c.valid
  rw [printChar]
  split_ifs with hquote hbackslash hfeed hreturn htab hform hback hplain hplane
  · exact shown_of_all rfl
  · exact shown_of_all rfl
  · exact shown_of_all rfl
  · exact shown_of_all rfl
  · exact shown_of_all rfl
  · exact shown_of_all rfl
  · exact shown_of_all rfl
  · refine List.forall_mem_singleton.2 ?_
    rw [isShown, hplain, Bool.or_true]
  · exact shown_unitEscape hplane
  · exact (shown_unitEscape (by omega)).append (shown_unitEscape (by omega))

/-- A text is printed by characters that are shown. -/
theorem shown_printText (text : Text) : Shown (printText text) := by
  have hquote : Shown ['"'] := shown_of_all rfl
  have hchars : Shown (text.flatMap printChar) := by
    intro c hc
    obtain ⟨d, -, hd⟩ := List.mem_flatMap.1 hc
    exact shown_printChar d c hd
  exact (hquote.append hchars).append hquote

/-! ## Values -/

/-- Line breaks and indentations are shown. -/
theorem shown_newline (level : Nat) : Shown (newline level) := by
  have hspaces : Shown (List.replicate (2 * level) ' ') := by
    intro c hc
    rw [List.eq_of_mem_replicate hc]
    rfl
  exact List.forall_mem_cons.2 ⟨rfl, hspaces⟩

/-- Entries between brackets are shown if each of them is. -/
theorem shown_enclose (level : Nat) {opening closing : Char} (hopening : isShown opening = true)
    (hclosing : isShown closing = true) {entries : List Text}
    (hentries : ∀ entry ∈ entries, Shown entry) :
    Shown (enclose level opening closing entries) := by
  have hone {c : Char} (hc : isShown c = true) : Shown [c] := List.forall_mem_singleton.2 hc
  cases entries with
  | nil => exact (hone hopening).append (hone hclosing)
  | cons entry entries =>
    have hbetween : Shown (',' :: newline (level + 1)) :=
      List.forall_mem_cons.2 ⟨rfl, shown_newline _⟩
    exact ((((hone hopening).append (shown_newline _)).append (Shown.join hbetween hentries)).append
      (shown_newline _)).append (hone hclosing)

/-- The items of a list are printed one by one. -/
theorem printItems_eq_map (level : Nat) (items : List Json) :
    printItems level items = items.map (print level) := by
  induction items with
  | nil => rfl
  | cons item items ih => rw [printItems, ih, List.map_cons]

/-- The members of an object are printed one by one. -/
theorem printMembers_eq_map (level : Nat) (members : Members) :
    printMembers level members = members.map (printMember level) := by
  induction members with
  | nil => rfl
  | cons entry members ih => rw [printMembers_cons, ih, List.map_cons]

/-- A plain value is printed by characters that are shown. -/
theorem Plain.shown_print {value : Json} (h : value.Plain) (level : Nat) :
    Shown (print level value) := by
  induction h generalizing level with
  | null => exact shown_of_all rfl
  | bool value =>
    cases value with
    | false => exact shown_of_all rfl
    | true => exact shown_of_all rfl
  | @integer value => exact shown_ofInt value
  | text value => exact shown_printText value
  | list _ ih =>
    rw [print, printItems_eq_map]
    refine shown_enclose level rfl rfl (List.forall_mem_map.2 fun item hitem => ?_)
    exact ih item hitem (level + 1)
  | object _ _ ih =>
    have hcolon : Shown ": " := shown_of_all rfl
    rw [print, printMembers_eq_map]
    refine shown_enclose level rfl rfl (List.forall_mem_map.2 fun entry hentry => ?_)
    exact ((shown_printText _).append hcolon).append (ih entry hentry (level + 1))

end ClassLint.Json
