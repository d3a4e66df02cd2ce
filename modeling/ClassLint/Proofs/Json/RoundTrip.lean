import ClassLint.Proofs.Json.Numbers
import ClassLint.Proofs.Json.Strings
import Mathlib.Data.List.Induction

/-!
# Printed values

A value without floating-point numbers, whose integers have not too many digits and whose objects
have distinct keys, is read back from its print. The entries of lists and objects are read one by
one: white space stands around them, and no entry goes on with what follows it.
-/

namespace ClassLint

/-! ## Distinct keys -/

namespace Members

/-- A new key is put at the end. -/
theorem put_of_not_mem {members : Members} {key : Text} (h : key ∉ members.keys) (value : Json) :
    members.put key value = members ++ [(key, value)] := by
  induction members with
  | nil => rfl
  | cons entry members ih =>
    obtain ⟨hfirst, hrest⟩ := not_or.1 (fun hmem => h (List.mem_cons.2 hmem))
    rw [put, if_neg (Ne.symm hfirst), ih hrest]
    rfl

/-- Distinct keys are put one after the other. -/
theorem ofList_of_nodup {members : Members} (h : members.keys.Nodup) :
    ofList members = members := by
  induction members using List.reverseRecOn with
  | nil => rfl
  | append_singleton members entry ih =>
    rw [keys, List.map_append, List.map_singleton, List.nodup_append] at h
    obtain ⟨hmembers, -, hnew⟩ := h
    have hkey : entry.1 ∉ Members.keys members := fun hmem =>
      hnew entry.1 hmem entry.1 List.mem_cons_self rfl
    rw [ofList, List.foldl_append]
    rw [ofList] at ih
    rw [ih hmembers]
    exact put_of_not_mem hkey entry.2

end Members

namespace Json

variable {rest : Text} {level fuel : Nat}

/-- The values that are read back from their print. -/
inductive Plain : Json → Prop
  | null : Plain .null
  | bool (value : Bool) : Plain (.bool value)
  | integer {value : Int} (h : (Text.ofNat value.natAbs).length ≤ Text.digitLimit) :
      Plain (.integer value)
  | text (value : Text) : Plain (.text value)
  | list {items : List Json} (h : ∀ item ∈ items, Plain item) : Plain (.list items)
  | object {members : Members} (hkeys : members.keys.Nodup)
      (h : ∀ entry ∈ members, Plain entry.2) : Plain (.object members)

/-! ## White space -/

/-- White space does not reach beyond a character that is none. -/
theorem skipSpace_cons {c : Char} (h : isSpace c = false) (text : Text) :
    skipSpace (c :: text) = c :: text :=
  List.dropWhile_cons_of_neg (by simp [h])

/-- A line break and an indentation are white space. -/
theorem skipSpace_newline (level : Nat) (text : Text) :
    skipSpace (newline level ++ text) = skipSpace text := by
  have hspace : ∀ c ∈ newline level, isSpace c = true := by
    intro c hc
    obtain rfl | hc := List.mem_cons.1 hc
    · rfl
    · rw [List.eq_of_mem_replicate hc]
      rfl
  exact List.dropWhile_append_of_pos hspace

/-- A number does not go on with a line break. -/
theorem endsNumber_newline (level : Nat) (text : Text) : EndsNumber (newline level ++ text) := by
  intro c hc
  cases hc
  decide

/-- A number does not go on with a comma. -/
theorem endsNumber_comma (text : Text) : EndsNumber (',' :: text) := by
  intro c hc
  cases hc
  decide

/-! ## The start of a value -/

/-- A text starts as a value may: not with white space, a closing bracket or a byte order mark. -/
def StartsValue (text : Text) : Prop :=
  ∃ c after, text = c :: after ∧ isSpace c = false ∧ c ≠ ']' ∧ c ≠ '\x7d' ∧ c ≠ '\uFEFF'

/-- A start stays one when something follows the text. -/
theorem StartsValue.append {text : Text} (h : StartsValue text) (rest : Text) :
    StartsValue (text ++ rest) := by
  obtain ⟨c, after, rfl, hc⟩ := h
  exact ⟨c, after ++ rest, rfl, hc⟩

/-- There is no white space to skip before a value. -/
theorem StartsValue.skipSpace_eq {text : Text} (h : StartsValue text) : skipSpace text = text := by
  obtain ⟨c, after, rfl, hc, -⟩ := h
  exact skipSpace_cons hc after

/-- Joined texts start as the first of them. -/
theorem StartsValue.join {entry : Text} (h : StartsValue entry) (between : Text)
    (entries : List Text) : StartsValue (Text.join between (entry :: entries)) := by
  cases entries with
  | nil => exact h
  | cons next entries => exact (h.append between).append _

/-- Entries between brackets, with what follows them. -/
theorem enclose_append (level : Nat) (opening closing : Char) (entry : Text) (entries : List Text)
    (rest : Text) :
    enclose level opening closing (entry :: entries) ++ rest =
      opening :: (newline (level + 1) ++
        (Text.join (',' :: newline (level + 1)) (entry :: entries) ++
          (newline level ++ closing :: rest))) := by
  simp [enclose]

/-- The first of several joined entries, with what follows them. -/
theorem join_cons_append (level : Nat) (entry next : Text) (entries : List Text) (rest : Text) :
    Text.join (',' :: newline level) (entry :: next :: entries) ++ rest =
      entry ++ ',' :: (newline level ++
        (Text.join (',' :: newline level) (next :: entries) ++ rest)) := by
  simp [Text.join]

/-- Joined entries are longer than the first and the others. -/
theorem length_join_cons (level : Nat) (entry next : Text) (entries : List Text) :
    entry.length + (Text.join (',' :: newline level) (next :: entries)).length <
      (Text.join (',' :: newline level) (entry :: next :: entries)).length := by
  simp only [Text.join, List.length_append, List.length_cons]
  omega

/-- Entries between brackets are longer than the joined entries. -/
theorem length_join_lt_enclose (level : Nat) (opening closing : Char) (entries : List Text) :
    (Text.join (',' :: newline (level + 1)) entries).length + 1 <
      (enclose level opening closing entries).length := by
  cases entries with
  | nil => exact Nat.lt_succ_self 1
  | cons entry entries =>
    simp only [enclose, List.length_append, List.length_singleton]
    omega

/-- Entries between brackets start with the opening one. -/
theorem exists_enclose_cons (level : Nat) (opening closing : Char) (entries : List Text) :
    ∃ after, enclose level opening closing entries = opening :: after := by
  cases entries with
  | nil => exact ⟨[closing], rfl⟩
  | cons entry entries =>
    have hstart := enclose_append level opening closing entry entries []
    rw [List.append_nil] at hstart
    exact ⟨_, hstart⟩

/-- A value may start with a digit. -/
theorem isSpace_of_isDigit {c : Char} (h : c.isDigit = true) :
    isSpace c = false ∧ c ≠ ']' ∧ c ≠ '\x7d' ∧ c ≠ '\uFEFF' := by
  have hne (d : Char) (hd : d.isDigit = false) : c ≠ d := by
    intro hsame
    rw [← hsame, h] at hd
    cases hd
  have hspace : isSpace c = false := by
    simp [isSpace, hne ' ' rfl, hne '\t' rfl, hne '\n' rfl, hne '\r' rfl]
  exact ⟨hspace, hne ']' rfl, hne '\x7d' rfl, hne '\uFEFF' rfl⟩

/-- A plain value starts with no white space. -/
theorem Plain.startsValue {value : Json} (h : value.Plain) (level : Nat) :
    StartsValue (print level value) := by
  cases h with
  | null => exact ⟨'n', _, rfl, by decide⟩
  | bool value =>
    cases value with
    | false => exact ⟨'f', _, rfl, by decide⟩
    | true => exact ⟨'t', _, rfl, by decide⟩
  | @integer value =>
    obtain ⟨c, digits, hdigits, hdigit | rfl⟩ := exists_ofInt_cons value
    · exact ⟨c, digits, hdigits, isSpace_of_isDigit hdigit⟩
    · exact ⟨'-', digits, hdigits, by decide⟩
  | text value => exact ⟨'"', _, rfl, by decide⟩
  | list =>
    obtain ⟨after, hafter⟩ := exists_enclose_cons level '[' ']' _
    exact ⟨'[', after, hafter, by decide⟩
  | object =>
    obtain ⟨after, hafter⟩ := exists_enclose_cons level '\x7b' '\x7d' _
    exact ⟨'\x7b', after, hafter, by decide⟩

/-! ## Entries -/

/-- A value is read back from its print at a level, whatever follows it. -/
def ReadBack (level : Nat) (value : Json) : Prop :=
  StartsValue (print level value) ∧
    ∀ fuel rest, 2 * (print level value).length ≤ fuel → EndsNumber rest →
      readValue fuel (print level value ++ rest) = .ok (value, rest)

/-- The last item of a list. -/
theorem readItems_of_bracket {text after : Text} {item : Json}
    (hitem : readValue fuel text = .ok (item, after)) (hafter : skipSpace after = ']' :: rest) :
    readItems (fuel + 1) text = .ok ([item], rest) := by
  rw [readItems, hitem]
  dsimp only [bind, Except.bind]
  rw [hafter]
  rfl

/-- An item of a list with further items behind it. -/
theorem readItems_of_comma {text after tail : Text} {item : Json} {items : List Json}
    (hitem : readValue fuel text = .ok (item, after)) (hafter : skipSpace after = ',' :: rest)
    (hitems : readItems fuel (skipSpace rest) = .ok (items, tail)) :
    readItems (fuel + 1) text = .ok (item :: items, tail) := by
  rw [readItems, hitem]
  dsimp only [bind, Except.bind]
  rw [hafter]
  simp only [hitems]

/-- The printed items of a list are read back up to the closing bracket. -/
theorem readItems_join {items : List Json} (hsome : items ≠ [])
    (hitems : ∀ item ∈ items, ReadBack level item)
    (hfuel : 2 * (Text.join (',' :: newline level) (printItems level items)).length < fuel)
    (outer : Nat) (rest : Text) :
    readItems fuel (Text.join (',' :: newline level) (printItems level items) ++
      (newline outer ++ ']' :: rest)) = .ok (items, rest) := by
  induction items generalizing fuel with
  | nil => exact absurd rfl hsome
  | cons item items ih =>
    obtain ⟨⟨hstart, hread⟩, hitems⟩ := List.forall_mem_cons.1 hitems
    obtain ⟨fuel, rfl⟩ := Nat.exists_eq_succ_of_ne_zero (Nat.ne_of_gt (Nat.zero_lt_of_lt hfuel))
    cases items with
    | nil =>
      have hitem := hread fuel (newline outer ++ ']' :: rest) (Nat.le_of_lt_succ hfuel)
        (endsNumber_newline outer _)
      have hclose : skipSpace (newline outer ++ ']' :: rest) = ']' :: rest :=
        (skipSpace_newline outer _).trans (skipSpace_cons rfl rest)
      exact readItems_of_bracket hitem hclose
    | cons next items =>
      have hnext : StartsValue (Text.join (',' :: newline level)
          (print level next :: printItems level items) ++ (newline outer ++ ']' :: rest)) :=
        ((hitems next List.mem_cons_self).1.join _ _).append _
      have hlength := length_join_cons level (print level item) (print level next)
        (printItems level items)
      rw [printItems, printItems] at hfuel ⊢
      have hfewer : 2 * (Text.join (',' :: newline level) (printItems level (next :: items))).length <
          fuel := by
        rw [printItems]
        omega
      rw [join_cons_append]
      refine readItems_of_comma (hread fuel _ (by omega) (endsNumber_comma _))
        (skipSpace_cons rfl _) ?_
      rw [skipSpace_newline, hnext.skipSpace_eq]
      exact ih (List.cons_ne_nil _ _) hitems hfewer

/-- The text of a member at a level. -/
def printMember (level : Nat) (entry : Text × Json) : Text :=
  printText entry.1 ++ ": " ++ print level entry.2

/-- A member starts with the quote of its key. -/
theorem startsValue_printMember (level : Nat) (entry : Text × Json) :
    StartsValue (printMember level entry) :=
  ⟨'"', _, rfl, by decide⟩

/-- A text starts with a member of an object: its key, a colon and its value, up to what follows. -/
def StartsMember (fuel : Nat) (text : Text) (entry : Text × Json) (after : Text) : Prop :=
  ∃ afterQuote afterKey afterColon, text = '"' :: afterQuote ∧
    readText text afterQuote = .ok (entry.1, afterKey) ∧ skipSpace afterKey = ':' :: afterColon ∧
    readValue fuel (skipSpace afterColon) = .ok (entry.2, after)

/-- The last member of an object. -/
theorem readMembers_of_brace {text after : Text} {entry : Text × Json}
    (hentry : StartsMember fuel text entry after) (hafter : skipSpace after = '\x7d' :: rest) :
    readMembers (fuel + 1) text = .ok ([entry], rest) := by
  obtain ⟨afterQuote, afterKey, afterColon, rfl, hkey, hcolon, hvalue⟩ := hentry
  rw [readMembers]
  simp only [bind, Except.bind, hkey, hcolon, hvalue, hafter]

/-- A member of an object with further members behind it. -/
theorem readMembers_of_comma {text after tail : Text} {entry : Text × Json} {members : Members}
    (hentry : StartsMember fuel text entry after) (hafter : skipSpace after = ',' :: rest)
    (hmembers : readMembers fuel (skipSpace rest) = .ok (members, tail)) :
    readMembers (fuel + 1) text = .ok (entry :: members, tail) := by
  obtain ⟨afterQuote, afterKey, afterColon, rfl, hkey, hcolon, hvalue⟩ := hentry
  rw [readMembers]
  simp only [bind, Except.bind, hkey, hcolon, hvalue, hafter, hmembers]

/-- The print of a member starts with it. -/
theorem startsMember_printMember {entry : Text × Json} {after : Text}
    (hentry : ReadBack level entry.2) (hfuel : 2 * (printMember level entry).length ≤ fuel)
    (hafter : EndsNumber after) :
    StartsMember fuel (printMember level entry ++ after) entry after := by
  obtain ⟨hstart, hread⟩ := hentry
  have htext : printMember level entry ++ after =
      '"' :: (entry.1.flatMap printChar ++ '"' :: ':' :: ' ' :: (print level entry.2 ++ after)) := by
    simp [printMember, printText]
  have hspace : skipSpace (' ' :: (print level entry.2 ++ after)) = print level entry.2 ++ after :=
    (hstart.append after).skipSpace_eq
  have hshorter : (print level entry.2).length ≤ (printMember level entry).length := by
    rw [printMember, List.length_append]
    exact Nat.le_add_left _ _
  refine ⟨_, _, _, htext, readText_flatMap_printChar _ _ _, skipSpace_cons rfl _, ?_⟩
  rw [hspace]
  exact hread fuel after (by omega) hafter

/-- The members of an object are printed one by one. -/
theorem printMembers_cons (level : Nat) (entry : Text × Json) (members : Members) :
    printMembers level (entry :: members) =
      printMember level entry :: printMembers level members := by
  rw [printMembers]
  rfl

/-- The printed members of an object are read back up to the closing brace. -/
theorem readMembers_join {members : Members} (hsome : members ≠ [])
    (hmembers : ∀ entry ∈ members, ReadBack level entry.2)
    (hfuel : 2 * (Text.join (',' :: newline level) (printMembers level members)).length < fuel)
    (outer : Nat) (rest : Text) :
    readMembers fuel (Text.join (',' :: newline level) (printMembers level members) ++
      (newline outer ++ '\x7d' :: rest)) = .ok (members, rest) := by
  induction members generalizing fuel with
  | nil => exact absurd rfl hsome
  | cons entry members ih =>
    obtain ⟨hentry, hmembers⟩ := List.forall_mem_cons.1 hmembers
    obtain ⟨fuel, rfl⟩ := Nat.exists_eq_succ_of_ne_zero (Nat.ne_of_gt (Nat.zero_lt_of_lt hfuel))
    cases members with
    | nil =>
      have hmember := startsMember_printMember hentry (Nat.le_of_lt_succ hfuel)
        (endsNumber_newline outer ('\x7d' :: rest))
      have hclose : skipSpace (newline outer ++ '\x7d' :: rest) = '\x7d' :: rest :=
        (skipSpace_newline outer _).trans (skipSpace_cons rfl rest)
      exact readMembers_of_brace hmember hclose
    | cons next members =>
      have hnext : StartsValue (Text.join (',' :: newline level)
          (printMember level next :: printMembers level members) ++
            (newline outer ++ '\x7d' :: rest)) :=
        ((startsValue_printMember level next).join _ _).append _
      have hlength := length_join_cons level (printMember level entry) (printMember level next)
        (printMembers level members)
      rw [printMembers_cons, printMembers_cons] at hfuel ⊢
      have hfewer : 2 * (Text.join (',' :: newline level)
          (printMembers level (next :: members))).length < fuel := by
        rw [printMembers_cons]
        omega
      rw [join_cons_append]
      refine readMembers_of_comma (startsMember_printMember hentry (by omega) (endsNumber_comma _))
        (skipSpace_cons rfl _) ?_
      rw [skipSpace_newline, hnext.skipSpace_eq]
      exact ih (List.cons_ne_nil _ _) hmembers hfewer

/-! ## Values -/

/-- A value that starts with no quote and no opening bracket, and with no word, is a number. -/
theorem readValue_of_number {c : Char} {text : Text} (hquote : c ≠ '"') (hbracket : c ≠ '[')
    (hbrace : c ≠ '\x7b') (hword : readWord? (c :: text) = none) :
    readValue (fuel + 1) (c :: text) = readNumber (c :: text) := by
  unfold readValue
  split
  · rename_i hcons
    exact absurd (List.cons.inj hcons).1 hquote
  · rename_i hcons
    exact absurd (List.cons.inj hcons).1 hbracket
  · rename_i hcons
    exact absurd (List.cons.inj hcons).1 hbrace
  · rw [hword]

/-- A printed integer is read back. -/
theorem readValue_ofInt {value : Int} (hlimit : (Text.ofNat value.natAbs).length ≤ Text.digitLimit)
    (hrest : EndsNumber rest) :
    readValue (fuel + 1) (Text.ofInt value ++ rest) = .ok (.integer value, rest) := by
  have hword := readWord?_ofInt value rest
  have hnumber := readNumber_ofInt hlimit hrest
  obtain ⟨c, digits, hdigits, hfirst⟩ := exists_ofInt_cons value
  have hne (d : Char) (hd : d.isDigit = false) (hminus : d ≠ '-') : c ≠ d := by
    intro hsame
    subst hsame
    obtain hdigit | hsign := hfirst
    · rw [hd] at hdigit
      cases hdigit
    · exact hminus hsign
  rw [hdigits] at hword hnumber ⊢
  exact (readValue_of_number (hne '"' rfl (by decide)) (hne '[' rfl (by decide))
    (hne '\x7b' rfl (by decide)) hword).trans hnumber

/-- A list that is not empty is read from its first item on. -/
theorem readValue_list {items : List Json} {text inner : Text} (hinner : skipSpace text = inner)
    (hstart : StartsValue inner) (hitems : readItems fuel inner = .ok (items, rest)) :
    readValue (fuel + 1) ('[' :: text) = .ok (.list items, rest) := by
  obtain ⟨c, after, rfl, -, hc, -⟩ := hstart
  rw [readValue]
  simp only [hinner]
  split
  · rename_i hcons
    exact absurd (List.cons.inj hcons).1 hc
  · rw [hitems]
    rfl

/-- An object that is not empty is read from its first member on. -/
theorem readValue_object {members : Members} {text inner : Text} (hinner : skipSpace text = inner)
    (hstart : StartsValue inner) (hkeys : members.keys.Nodup)
    (hmembers : readMembers fuel inner = .ok (members, rest)) :
    readValue (fuel + 1) ('\x7b' :: text) = .ok (.object members, rest) := by
  obtain ⟨c, after, rfl, -, -, hc, -⟩ := hstart
  rw [readValue]
  simp only [hinner]
  split
  · rename_i hcons
    exact absurd (List.cons.inj hcons).1 hc
  · rw [hmembers]
    change Except.ok (object (Members.ofList members), rest) = _
    rw [Members.ofList_of_nodup hkeys]

/-- A print is not empty, so that there is fuel for a first step. -/
theorem readBack_of_succ {value : Json} (hstart : StartsValue (print level value))
    (h : ∀ fuel rest, 2 * (print level value).length ≤ fuel + 1 → EndsNumber rest →
      readValue (fuel + 1) (print level value ++ rest) = .ok (value, rest)) :
    ReadBack level value := by
  refine ⟨hstart, fun fuel rest hfuel hrest => ?_⟩
  have hsome : fuel ≠ 0 := by
    obtain ⟨c, after, hcons, -⟩ := hstart
    rw [hcons, List.length_cons] at hfuel
    omega
  obtain ⟨fuel, rfl⟩ := Nat.exists_eq_succ_of_ne_zero hsome
  exact h fuel rest hfuel hrest

/-- Plain values are read back from their print at every level. -/
theorem Plain.readBack {value : Json} (h : value.Plain) (level : Nat) : ReadBack level value := by
  have hstart := h.startsValue level
  induction h generalizing level with
  | null => exact readBack_of_succ hstart fun fuel rest _ _ => rfl
  | bool value =>
    cases value with
    | false => exact readBack_of_succ hstart fun fuel rest _ _ => rfl
    | true => exact readBack_of_succ hstart fun fuel rest _ _ => rfl
  | integer hlimit =>
    exact readBack_of_succ hstart fun fuel rest _ hrest => readValue_ofInt hlimit hrest
  | text value =>
    refine readBack_of_succ hstart fun fuel rest _ _ => ?_
    have htext : print level (.text value) ++ rest =
        '"' :: (value.flatMap printChar ++ '"' :: rest) := by
      simp [print, printText]
    rw [htext, readValue, readText_flatMap_printChar]
    rfl
  | @list items hitems ih =>
    refine readBack_of_succ hstart fun fuel rest hfuel _ => ?_
    cases items with
    | nil => rfl
    | cons item items =>
      have hback (other : Json) (hother : other ∈ item :: items) : ReadBack (level + 1) other :=
        ih other hother (level + 1) ((hitems other hother).startsValue (level + 1))
      have hinner : StartsValue (Text.join (',' :: newline (level + 1))
          (printItems (level + 1) (item :: items)) ++ (newline level ++ ']' :: rest)) := by
        rw [printItems]
        exact ((hback item List.mem_cons_self).1.join _ _).append _
      have hlength := length_join_lt_enclose level '[' ']' (printItems (level + 1) (item :: items))
      have hread := readItems_join (List.cons_ne_nil item items) hback
        (show _ < fuel by rw [print] at hfuel; omega) level rest
      rw [print, printItems, enclose_append]
      rw [printItems] at hinner hread
      exact readValue_list ((skipSpace_newline _ _).trans hinner.skipSpace_eq) hinner hread
  | @object members hkeys hmembers ih =>
    refine readBack_of_succ hstart fun fuel rest hfuel _ => ?_
    cases members with
    | nil => rfl
    | cons entry members =>
      have hback (other : Text × Json) (hother : other ∈ entry :: members) :
          ReadBack (level + 1) other.2 :=
        ih other hother (level + 1) ((hmembers other hother).startsValue (level + 1))
      have hinner : StartsValue (Text.join (',' :: newline (level + 1))
          (printMembers (level + 1) (entry :: members)) ++ (newline level ++ '\x7d' :: rest)) := by
        rw [printMembers_cons]
        exact ((startsValue_printMember (level + 1) entry).join _ _).append _
      have hlength := length_join_lt_enclose level '\x7b' '\x7d'
        (printMembers (level + 1) (entry :: members))
      have hread := readMembers_join (List.cons_ne_nil entry members) hback
        (show _ < fuel by rw [print] at hfuel; omega) level rest
      rw [print, printMembers_cons, enclose_append]
      rw [printMembers_cons] at hinner hread
      exact readValue_object ((skipSpace_newline _ _).trans hinner.skipSpace_eq) hinner hkeys hread

/-- A plain value is read back from its print on a line of its own. -/
theorem Plain.read_print {value : Json} (h : value.Plain) :
    read (print 0 value ++ ['\n']) = .ok value := by
  have hstart : StartsValue (print 0 value ++ ['\n']) := (h.startsValue 0).append _
  have hvalue := (h.readBack 0).2 (2 * (print 0 value ++ ['\n']).length + 2) ['\n']
    (by rw [List.length_append]; omega) (endsNumber_newline 0 [])
  have hskip := hstart.skipSpace_eq
  obtain ⟨c, after, hcons, -, -, -, hmark⟩ := hstart
  rw [hcons] at hvalue hskip ⊢
  unfold read
  split
  · rename_i hfirst
    exact absurd (List.cons.inj hfirst).1 hmark
  · rw [hskip, hvalue]
    rfl

end Json

end ClassLint
