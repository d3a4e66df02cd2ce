import ClassLint.Files.Tree

/-!
# Tidied paths in file trees

A path that names a file names the same file when it is tidied. Tidying only takes characters away,
so that the tidied path is not too long either, and the parts that it drops lead nowhere else.
-/

namespace ClassLint

namespace Path

/-! ## Parts -/

/-- A path has a part before its first slash. -/
theorem parts_append_slash {part : Text} (rest : Text) (h : '/' ∉ part) :
    parts (part ++ '/' :: rest) = part :: parts rest := by
  induction part with
  | nil => simp [parts]
  | cons c part ih =>
    obtain ⟨hc, hpart⟩ := List.ne_and_not_mem_of_not_mem_cons h
    rw [List.cons_append, parts, if_neg hc.symm, ih hpart]

/-- A path without slashes is its only part. -/
theorem parts_of_not_mem {part : Text} (h : '/' ∉ part) : parts part = [part] := by
  induction part with
  | nil => rfl
  | cons c part ih =>
    obtain ⟨hc, hpart⟩ := List.ne_and_not_mem_of_not_mem_cons h
    rw [parts, if_neg hc.symm, ih hpart]

/-- A path is a part without slashes, or such a part and the path behind the slash that follows it.
-/
theorem exists_part (path : Text) :
    '/' ∉ path ∨ ∃ part rest, path = part ++ '/' :: rest ∧ '/' ∉ part := by
  by_cases h : '/' ∈ path
  · obtain ⟨part, rest, rfl, hpart⟩ := List.eq_append_cons_of_mem h
    exact .inr ⟨part, rest, rfl, hpart⟩
  · exact .inl h

/-- Induction over the parts of a path. -/
theorem partsInduction {motive : Text → Prop} (last : ∀ part, '/' ∉ part → motive part)
    (slash : ∀ part rest, '/' ∉ part → motive rest → motive (part ++ '/' :: rest)) (path : Text) :
    motive path := by
  induction hlength : path.length using Nat.strongRecOn generalizing path with
  | ind length ih =>
    obtain hpart | ⟨part, rest, rfl, hpart⟩ := exists_part path
    · exact last path hpart
    · refine slash part rest hpart (ih rest.length ?_ rest rfl)
      simp only [List.length_append, List.length_cons] at hlength
      omega

/-- The parts of a path that are kept when it is tidied. -/
def kept (path : Text) : List Text :=
  (parts path).filter fun part => part ≠ [] ∧ part ≠ ['.']

/-- A slash in front of a path adds no parts that are kept. -/
theorem kept_slash_cons (rest : Text) : kept ('/' :: rest) = kept rest := by
  simp [kept, parts]

/-- A part that is kept is not empty and has no slashes. -/
theorem of_mem_kept {path part : Text} (h : part ∈ kept path) : part ≠ [] ∧ '/' ∉ part := by
  obtain ⟨hmem, hkept⟩ := List.mem_filter.1 h
  refine ⟨(of_decide_eq_true hkept).1, ?_⟩
  clear h hkept
  induction path using partsInduction with
  | last only honly =>
    rw [parts_of_not_mem honly, List.mem_singleton] at hmem
    exact hmem ▸ honly
  | slash first rest hfirst ih =>
    rw [parts_append_slash rest hfirst, List.mem_cons] at hmem
    obtain rfl | hmem := hmem
    · exact hfirst
    · exact ih hmem

/-- The parts of texts that are joined by slashes are these texts. -/
theorem parts_join {texts : List Text} (hne : texts ≠ []) (h : ∀ text ∈ texts, '/' ∉ text) :
    parts (Text.join ['/'] texts) = texts := by
  induction texts with
  | nil => exact absurd rfl hne
  | cons text texts ih =>
    obtain ⟨htext, htexts⟩ := List.forall_mem_cons.1 h
    cases texts with
    | nil => exact parts_of_not_mem htext
    | cons next others =>
      rw [Text.join, List.append_assoc]
      exact (parts_append_slash _ htext).trans (congrArg (text :: ·) (ih (by simp) htexts))

/-- Joining a text to others puts it before them, with a slash if there are others. -/
theorem join_cons_sublist {text rest : Text} {others : List Text}
    (h : (Text.join ['/'] others).Sublist rest) :
    (Text.join ['/'] (text :: others)).Sublist (text ++ '/' :: rest) := by
  cases others with
  | nil => exact List.sublist_append_left text ('/' :: rest)
  | cons next others =>
    rw [Text.join, List.append_assoc]
    exact (List.Sublist.refl text).append (h.cons_cons '/')

/-- Dropping parts of a path only takes characters away. -/
theorem join_kept_sublist (path : Text) : (Text.join ['/'] (kept path)).Sublist path := by
  induction path using partsInduction with
  | last part hpart =>
    rw [kept, parts_of_not_mem hpart, List.filter_cons]
    split
    · exact List.Sublist.refl part
    · exact List.nil_sublist part
  | slash part rest hpart ih =>
    rw [kept, parts_append_slash rest hpart, List.filter_cons]
    split
    · exact join_cons_sublist ih
    · exact (ih.cons '/').trans (List.sublist_append_right part ('/' :: rest))

/-! ## Tidied paths -/

variable {path : Text}

/-- Parts that are kept, joined by slashes, do not start with a slash. -/
theorem exists_join_kept (h : kept path ≠ []) :
    ∃ c rest, Text.join ['/'] (kept path) = c :: rest ∧ c ≠ '/' := by
  cases hkept : kept path with
  | nil => exact absurd hkept h
  | cons part others =>
    obtain ⟨hpart, hslash⟩ := of_mem_kept (hkept ▸ List.mem_cons_self : part ∈ kept path)
    cases part with
    | nil => exact absurd rfl hpart
    | cons c part =>
      have hc := (List.ne_and_not_mem_of_not_mem_cons hslash).1.symm
      cases others with
      | nil => exact ⟨c, part, rfl, hc⟩
      | cons next others => exact ⟨c, _, rfl, hc⟩

/-- A path with parts to keep is tidied to its slashes at the start and these parts. -/
theorem normalize_of_kept (h : kept path ≠ []) :
    normalize path = root path ++ Text.join ['/'] (kept path) := by
  obtain ⟨c, rest, hjoin, -⟩ := exists_join_kept h
  unfold normalize
  dsimp only
  split
  · rename_i hnil
    rw [List.append_eq_nil_iff] at hnil
    exact absurd (hjoin.symm.trans hnil.2) (List.cons_ne_nil c rest)
  · rfl

/-- Tidying only takes characters away. -/
theorem normalize_sublist (h : kept path ≠ []) : (normalize path).Sublist path := by
  rw [normalize_of_kept h]
  unfold root
  split
  · rw [kept_slash_cons]
    exact (join_kept_sublist _).cons_cons '/'
  · rw [kept_slash_cons, kept_slash_cons]
    exact ((join_kept_sublist _).cons_cons '/').cons_cons '/'
  · rw [kept_slash_cons]
    exact (join_kept_sublist _).cons_cons '/'
  · exact join_kept_sublist path

/-- A path from the root is tidied to one or two slashes and its parts. -/
theorem root_slash_cons (rest : Text) :
    root ('/' :: rest) = ['/'] ∨ root ('/' :: rest) = ['/', '/'] := by
  unfold root
  split
  · exact .inl rfl
  · exact .inr rfl
  · exact .inl rfl
  · rename_i hother
    exact absurd rfl (hother rest)

/-- A path that does not start at the root has no slashes at the start. -/
theorem root_of_ne {c : Char} {rest : Text} (h : c ≠ '/') : root (c :: rest) = [] := by
  unfold root
  split
  · rename_i heq
    exact absurd (List.cons.inj heq).1 h
  · rename_i heq
    exact absurd (List.cons.inj heq).1 h
  · rename_i heq
    exact absurd (List.cons.inj heq).1 h
  · rfl

end Path

namespace FileTree

variable {tree : FileTree} {directory : Option (List Text)} {bytes : List UInt8}

/-- The bytes of a text are those of its first character and those of the others. -/
theorem byteCount_cons (c : Char) (text : Text) :
    byteCount (c :: text) = c.utf8Size + byteCount text := by
  have hfrom (start : Nat) : text.foldl (fun count c => count + c.utf8Size) start =
      start + byteCount text := by
    rw [byteCount]
    induction text generalizing start with
    | nil => rfl
    | cons d text ih =>
      rw [List.foldl_cons, List.foldl_cons, ih, ih (0 + d.utf8Size), Nat.zero_add, Nat.add_assoc]
  rw [byteCount, List.foldl_cons, hfrom, Nat.zero_add]

/-- A part of a text has no more bytes. -/
theorem byteCount_le_of_sublist {inner text : Text} (h : inner.Sublist text) :
    byteCount inner ≤ byteCount text := by
  induction h with
  | slnil => exact Nat.le_refl 0
  | cons c h ih =>
    rw [byteCount_cons]
    exact Nat.le_trans ih (Nat.le_add_left _ _)
  | cons_cons c h ih =>
    rw [byteCount_cons, byteCount_cons]
    exact Nat.add_le_add_left ih _

/-- A part that stays where it is leads nowhere else. -/
theorem follow_cons_of_stay {part : Text} (h : part = [] ∨ part = ['.']) (rest : List Text) :
    tree.follow directory (part :: rest) = tree.follow directory rest := by
  rw [follow.eq_def _ _ (part :: rest)]
  exact if_pos h

/-- A part that does not stay where it is leads to no file, or on to a directory, or to a file that
must be the end. -/
theorem follow_cons_cases (tree : FileTree) (directory : Option (List Text)) {part : Text}
    (h : ¬ (part = [] ∨ part = ['.'])) :
    (∀ rest bytes, tree.follow directory (part :: rest) ≠ .file bytes) ∨
      (∃ next, ∀ rest, tree.follow directory (part :: rest) = tree.follow next rest) ∨
      ∃ bytes, ∀ rest, tree.follow directory (part :: rest) =
        if rest.isEmpty then .file bytes else .belowFile := by
  have hfollow (rest : List Text) := follow.eq_def tree directory (part :: rest)
  simp only [if_neg h] at hfollow
  by_cases hup : part = ['.', '.']
  · simp only [if_pos hup] at hfollow
    match directory with
    | none | some [] => exact .inr (.inl ⟨none, hfollow⟩)
    | some (first :: inside) => exact .inr (.inl ⟨some (first :: inside).dropLast, hfollow⟩)
  simp only [if_neg hup] at hfollow
  -- Above the current directory nothing has a name, and below it the entry decides.
  by_cases hlong : nameLimit < byteCount part
  · exact .inl fun rest bytes hfile => by simp [hfollow, hlong] at hfile
  simp only [if_neg hlong] at hfollow
  cases directory with
  | none => exact .inl fun rest bytes hfile => by simp [hfollow] at hfile
  | some inside =>
    dsimp only at hfollow
    cases hentry : tree.entryAt (inside ++ [part]) with
    | file bytes => exact .inr (.inr ⟨bytes, fun rest => by rw [hfollow, hentry]⟩)
    | directory => exact .inr (.inl ⟨some (inside ++ [part]), fun rest => by rw [hfollow, hentry]⟩)
    | missing | belowFile | nameTooLong | nullInPath =>
      exact .inl fun rest bytes hfile => by simp [hfollow, hentry] at hfile

/-- The way to a file does not depend on the parts that stay where they are. -/
theorem follow_filter {parts : List Text} (h : tree.follow directory parts = .file bytes) :
    tree.follow directory (parts.filter fun part => part ≠ [] ∧ part ≠ ['.']) = .file bytes := by
  induction parts generalizing directory with
  | nil => exact h
  | cons part rest ih =>
    by_cases hstay : part = [] ∨ part = ['.']
    · rw [follow_cons_of_stay hstay] at h
      rw [List.filter_cons_of_neg (by simpa using fun hne => hstay.resolve_left hne)]
      exact ih h
    · rw [List.filter_cons_of_pos (by simpa [not_or] using hstay)]
      obtain hnone | ⟨next, hnext⟩ | ⟨found, hfound⟩ := follow_cons_cases tree directory hstay
      · exact absurd h (hnone rest bytes)
      · rw [hnext] at h ⊢
        exact ih h
      · rw [hfound] at h ⊢
        split at h
        · rename_i hlast
          rw [List.isEmpty_iff.1 hlast]
          exact h
        · cases h

/-- A path that names a file has parts to keep. -/
theorem kept_ne_nil_of_follow {path : Text}
    (h : tree.follow directory (Path.parts path) = .file bytes) : Path.kept path ≠ [] := by
  intro hnil
  have hfollow := follow_filter h
  rw [← Path.kept, hnil, follow] at hfollow
  cases hfollow

/-- The way to a file is that along the parts that are kept. -/
theorem follow_join_kept {path : Text}
    (h : tree.follow directory (Path.parts path) = .file bytes) :
    tree.follow directory (Path.parts (Text.join ['/'] (Path.kept path))) = .file bytes := by
  rw [Path.parts_join (kept_ne_nil_of_follow h) fun part hpart => (Path.of_mem_kept hpart).2]
  exact follow_filter h

/-- A path can be asked for: it has no null character, and it is not too long. -/
def Askable (path : Text) : Prop := '\x00' ∉ path ∧ byteCount path < pathLimit

/-- A part of a path that can be asked for can be asked for. -/
theorem Askable.of_sublist {inner path : Text} (h : Askable path) (hsublist : inner.Sublist path) :
    Askable inner := by
  exact ⟨fun hmem => h.1 (hsublist.subset hmem),
    Nat.lt_of_le_of_lt (byteCount_le_of_sublist hsublist) h.2⟩

/-- A path from the root is followed in what every system has. -/
theorem files_slash_cons {rest : Text} (h : Askable ('/' :: rest)) :
    tree.files ('/' :: rest) = system.follow (some []) (Path.parts rest) := by
  rw [files, if_neg (mt List.contains_iff_mem.1 h.1), if_neg (Nat.not_le_of_lt h.2)]

/-- Any other path is followed in the tree. -/
theorem files_of_ne {c : Char} {rest : Text} (h : Askable (c :: rest)) (hc : c ≠ '/') :
    tree.files (c :: rest) = tree.follow (some []) (Path.parts (c :: rest)) := by
  unfold files
  rw [if_neg (mt List.contains_iff_mem.1 h.1), if_neg (Nat.not_le_of_lt h.2)]
  split
  · rename_i hnil
    cases hnil
  · rename_i hslash
    cases hslash
    exact absurd rfl hc
  · rfl

/-- A path that names a file can be asked for. -/
theorem askable_of_files {path : Text} (h : tree.files path = .file bytes) : Askable path := by
  unfold files at h
  split at h
  · cases h
  · rename_i hnull
    split at h
    · cases h
    · rename_i hshort
      exact ⟨by simpa using hnull, Nat.lt_of_not_le hshort⟩

/-- A path that names a file names it when it is tidied, too. -/
theorem files_normalize {path : Text} (h : tree.files path = .file bytes) :
    tree.files (Path.normalize path) = .file bytes := by
  have haskable := askable_of_files h
  cases path with
  | nil => cases h
  | cons c rest =>
    by_cases hc : c = '/'
    · subst hc
      rw [files_slash_cons haskable] at h
      have hkept : Path.kept ('/' :: rest) ≠ [] := by
        rw [Path.kept_slash_cons]
        exact kept_ne_nil_of_follow h
      have htidied := haskable.of_sublist (Path.normalize_sublist hkept)
      rw [Path.normalize_of_kept hkept, Path.kept_slash_cons] at htidied ⊢
      obtain hroot | hroot := Path.root_slash_cons rest
      · rw [hroot] at htidied ⊢
        exact (files_slash_cons htidied).trans (follow_join_kept h)
      · rw [hroot] at htidied ⊢
        exact (files_slash_cons htidied).trans
          ((follow_cons_of_stay (.inl rfl) _).trans (follow_join_kept h))
    · rw [files_of_ne haskable hc] at h
      have hkept := kept_ne_nil_of_follow h
      have htidied := haskable.of_sublist (Path.normalize_sublist hkept)
      obtain ⟨d, others, hjoin, hd⟩ := Path.exists_join_kept hkept
      have hfollow := follow_join_kept h
      rw [Path.normalize_of_kept hkept, Path.root_of_ne hc, List.nil_append] at htidied ⊢
      rw [hjoin] at htidied hfollow ⊢
      exact (files_of_ne htidied hd).trans hfollow

end FileTree

end ClassLint
