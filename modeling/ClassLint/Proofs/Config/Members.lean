import ClassLint.Proofs.Config.Reports
import Mathlib.Data.List.Nodup

/-!
# What is read of an object

Options and configurations are read from an object by its keys. So two objects in which every key
has the same value are read alike, whatever the order of their members, and mistakes about unknown
keys name them in an order of their own. What is accepted is said key by key.
-/

namespace ClassLint

/-! ## Distinct texts in order -/

namespace Text

/-- Of two texts one comes before the other in the order of code points, or they are equal. -/
theorem le_total (first second : Text) : (le first second || le second first) = true := by
  induction first generalizing second with
  | nil => simp [le]
  | cons a first ih =>
    cases second with
    | nil => simp [le]
    | cons b second =>
      by_cases hsame : a = b
      · subst hsame
        simpa [le] using ih second
      · have hcode : a.toNat ≠ b.toNat := fun h => hsame (Char.toNat_inj.1 h)
        simp only [le, hsame, Ne.symm hsame, if_false, Bool.or_eq_true, decide_eq_true_eq]
        omega

/-- Texts that come before each other are equal. -/
theorem le_antisymm {first second : Text} (h : le first second = true)
    (hback : le second first = true) : first = second := by
  induction first generalizing second with
  | nil =>
    cases second with
    | nil => rfl
    | cons b second => cases hback
  | cons a first ih =>
    cases second with
    | nil => cases h
    | cons b second =>
      by_cases hsame : a = b
      · subst hsame
        simp only [le, if_true] at h hback
        rw [ih h hback]
      · simp only [le, hsame, Ne.symm hsame, if_false, decide_eq_true_eq] at h hback
        omega

/-- The order of texts is transitive. -/
theorem le_trans {first second third : Text} (h : le first second = true)
    (hnext : le second third = true) : le first third = true := by
  induction first generalizing second third with
  | nil => rfl
  | cons a first ih =>
    cases second with
    | nil => cases h
    | cons b second =>
      cases third with
      | nil => cases hnext
      | cons c third =>
        simp only [le] at h hnext ⊢
        by_cases hab : a = b
        · subst hab
          by_cases hac : a = c
          · subst hac
            simp only [if_true] at h hnext ⊢
            exact ih h hnext
          · simpa only [hac, if_false] using hnext
        · by_cases hbc : b = c
          · subst hbc
            simpa only [hab, if_false] using h
          · simp only [hab, hbc, if_false, decide_eq_true_eq] at h hnext
            have hac : a ≠ c := by
              rintro rfl
              omega
            simp only [hac, if_false, decide_eq_true_eq]
            omega

/-- Dropping repeated texts leaves each of them once. -/
theorem nodup_eraseDups : (texts : List Text) → texts.eraseDups.Nodup
  | [] => List.nodup_nil
  | text :: texts => by
    rw [List.eraseDups_cons, List.nodup_cons, List.mem_eraseDups]
    exact ⟨by simp, nodup_eraseDups (texts.filter fun other => !other == text)⟩
  termination_by texts => texts.length
  decreasing_by exact Nat.lt_succ_of_le (List.length_filter_le _ _)

/-- The distinct texts in order depend only on which texts there are. -/
theorem sortUnique_congr {first second : List Text} (h : ∀ text, text ∈ first ↔ text ∈ second) :
    sortUnique first = sortUnique second := by
  have hperm : first.eraseDups.Perm second.eraseDups := by
    refine (List.perm_ext_iff_of_nodup (nodup_eraseDups _) (nodup_eraseDups _)).2 ?_
    simpa only [List.mem_eraseDups] using h
  have hsorted (texts : List Text) :
      (texts.eraseDups.mergeSort le).Pairwise fun a b => le a b = true :=
    @List.pairwise_mergeSort _ le (fun _ _ _ => le_trans) le_total _
  refine List.Perm.eq_of_pairwise (fun _ _ _ _ => le_antisymm) (hsorted first) (hsorted second) ?_
  exact (List.mergeSort_perm _ _).trans (hperm.trans (List.mergeSort_perm _ _).symm)

end Text

/-! ## Values of keys -/

namespace Members

variable {members first second : Members} {key : Text}

/-- Without members no key has a value. -/
@[simp] theorem get?_nil (key : Text) : get? [] key = none := rfl

/-- The value of a key is that of the first member, if the key is its own, and else that of the
others. -/
theorem get?_cons (entry : Text × Json) (members : Members) (key : Text) :
    get? (entry :: members) key = if key = entry.1 then some entry.2 else members.get? key := by
  rw [get?, get?, List.lookup_cons]
  split
  · rename_i h
    rw [if_pos (beq_iff_eq.1 h)]
  · rename_i h
    rw [if_neg (beq_eq_false_iff_ne.1 h)]

/-- A key that is given a value has it, and the others keep theirs. -/
theorem get?_put (members : Members) (key other : Text) (value : Json) :
    (members.put key value).get? other = if other = key then some value else members.get? other := by
  induction members with
  | nil => rw [put, get?_cons]
  | cons entry members ih =>
    obtain ⟨present, old⟩ := entry
    rw [put]
    split
    · rename_i hpresent
      subst hpresent
      simp only [get?_cons]
      split <;> rfl
    · rename_i hpresent
      simp only [get?_cons, ih]
      split
      · rename_i hother
        rw [hother, if_neg hpresent]
      · rfl

/-- Give a key a value, if there is one. -/
def putAny (members : Members) (key : Text) (value : Option Json) : Members :=
  value.elim members (members.put key)

/-- A key that may be given a value has this value, if there is one, and the others keep theirs. -/
theorem get?_putAny (members : Members) (key other : Text) (value : Option Json) :
    (members.putAny key value).get? other =
      if other = key then value.or (members.get? other) else members.get? other := by
  cases value with
  | none => exact (ite_self _).symm
  | some value => exact members.get?_put key other value

/-- The keys without a value are those that are no keys of the members. -/
theorem get?_eq_none_iff : members.get? key = none ↔ key ∉ members.keys := by
  induction members with
  | nil => simp [keys]
  | cons entry members ih =>
    rw [get?_cons]
    by_cases h : key = entry.1
    · simp [h, keys]
    · simp only [h, if_false, ih]
      simp [keys, h]

/-- A key that has the same value in both is a key of both or of neither. -/
theorem mem_keys_congr (h : first.get? key = second.get? key) :
    key ∈ first.keys ↔ key ∈ second.keys := by
  rw [← not_iff_not, ← get?_eq_none_iff, ← get?_eq_none_iff, h]

/-- Which keys are unknown depends on the values of unknown keys only. -/
theorem unknownKeys_congr {known : List Text}
    (h : ∀ key ∉ known, first.get? key = second.get? key) :
    first.unknownKeys known = second.unknownKeys known := by
  refine Text.sortUnique_congr fun key => ?_
  simp only [List.mem_filter, Bool.not_eq_true', List.contains_eq_mem, decide_eq_false_iff_not]
  by_cases hkey : key ∈ known
  · simp [hkey]
  · rw [mem_keys_congr (h key hkey)]

/-- The members but for some keys. -/
def without (members : Members) (keys : List Text) : Members :=
  members.filter fun (key, _) => key ∉ keys

/-- A key that is taken out has no value, and the others keep theirs. -/
theorem get?_without (members : Members) (keys : List Text) (key : Text) :
    (members.without keys).get? key = if key ∈ keys then none else members.get? key := by
  induction members with
  | nil => simp [without]
  | cons entry members ih =>
    rw [without] at ih
    rw [without, List.filter_cons, get?_cons]
    by_cases hentry : entry.1 ∈ keys
    · rw [if_neg (by simpa using hentry), ih]
      by_cases hkey : key = entry.1
      · simp [hkey, hentry]
      · rw [if_neg hkey]
    · rw [if_pos (by simpa using hentry), get?_cons, ih]
      by_cases hkey : key = entry.1
      · simp [hkey, hentry]
      · simp [hkey]

end Members

/-! ## Options -/

/-- Formats are those that they give to the roles. -/
theorem Formats.ext_get {first second : Formats} (h : ∀ role, first.get role = second.get role) :
    first = second := by
  obtain ⟨_, _, _, _⟩ := first
  obtain ⟨_, _, _, _⟩ := second
  cases h .component
  cases h .element
  cases h .variant
  cases h .helper
  rfl

namespace Options

variable {members first second : Members} {options : Options}

/-- Objects in which every key has the same value are read as the same options. -/
theorem ofMembers_congr (h : ∀ key, first.get? key = second.get? key) :
    ofMembers first = ofMembers second := by
  have hformats (roles : List Role) (formats : Formats) :
      readFormats first roles formats = readFormats second roles formats := by
    induction roles generalizing formats with
    | nil => rfl
    | cons role roles ih =>
      rw [readFormats, readFormats, h]
      simp only [ih]
  have hknown : ofKnownMembers first = ofKnownMembers second := by
    rw [ofKnownMembers, ofKnownMembers, hformats, readMaxDepth, readMaxDepth, readWhitelist,
      readWhitelist, readCounting, readCounting, h, h, h]
  rw [ofMembers, ofMembers, Members.unknownKeys_congr fun key _ => h key, hknown]

/-- An object is read by its members, also if it has none. -/
theorem ofJson_object (members : Members) : ofJson (.object members) = ofMembers members := by
  cases members with
  | nil =>
    have hnone : Members.unknownKeys [] keys = [] := Members.unknownKeys_eq_nil_iff.2 (by simp)
    rw [ofMembers, hnone]
    rfl
  | cons entry members => rfl

/-- The format that the members give to a role, or the default. -/
def roleFormat (members : Members) (role : Role) : Except ConfigFailure Format :=
  match members.get? role.name with
  | none => .ok (({} : Formats).get role)
  | some value => Format.ofJson value role.name

/-- The formats are read exactly if that of each role is, which is then its own or the default. -/
theorem readFormats_eq_ok_iff {formats : Formats} :
    readFormats members Role.all {} = .ok formats ↔
      ∀ role, roleFormat members role = .ok (formats.get role) := by
  have hroles {result : Formats} (h : readFormats members Role.all {} = .ok result) (role : Role) :
      roleFormat members role = .ok (result.get role) := by
    have hall : role ∈ Role.all := by cases role <;> decide
    obtain ⟨hnone, hsame⟩ | ⟨value, hvalue, hformat⟩ := get_of_readFormats h role
    · rw [roleFormat, hnone.resolve_left (not_not.2 hall), hsame]
    · rw [roleFormat, hvalue, ← hformat]
  refine ⟨hroles, fun h => ?_⟩
  obtain ⟨result, hresult⟩ : ∃ result, readFormats members Role.all {} = .ok result := by
    refine exists_readFormats_iff.2 fun role value hvalue => ⟨formats.get role, ?_⟩
    rw [← h role, roleFormat, hvalue]
  rw [hresult, Formats.ext_get fun role => Except.ok.inj ((hroles hresult role).symm.trans (h role))]

/-- Options are accepted exactly if all keys are known and each of them can be read. -/
theorem ofMembers_eq_ok_iff :
    ofMembers members = .ok options ↔ members.unknownKeys keys = [] ∧
      (∀ role, roleFormat members role = .ok (options.formats.get role)) ∧
      readMaxDepth members = .ok options.maxDepth ∧
      readWhitelist members = .ok options.whitelist ∧
      readCounting members = .ok options.whitelistCounts := by
  rw [ofMembers, ← readFormats_eq_ok_iff]
  split
  · rename_i hknown
    simp only [hknown, true_and, ofKnownMembers, bind_eq_ok_iff]
    constructor
    · rintro ⟨formats, hformats, depth, hdepth, names, hnames, counts, hcounts, h⟩
      cases h
      exact ⟨hformats, hdepth, hnames, hcounts⟩
    · rintro ⟨hformats, hdepth, hnames, hcounts⟩
      exact ⟨_, hformats, _, hdepth, _, hnames, _, hcounts, rfl⟩
  · rename_i hunknown
    exact iff_of_false (by rintro ⟨⟩) fun h => hunknown h.1

end Options

/-! ## Configurations -/

namespace Config

variable {members first second : Members} {config : Config}

/-- Which keys are unknown and what the rules are does not depend on the options. -/
theorem rules_congr (h : ∀ key, key ≠ "options".toList → first.get? key = second.get? key) :
    first.unknownKeys ["rules", "options"] = second.unknownKeys ["rules", "options"] ∧
      rulesOfMembers first = rulesOfMembers second := by
  constructor
  · exact Members.unknownKeys_congr fun key hkey => h key fun hoptions => hkey (by simp [hoptions])
  · rw [rulesOfMembers, rulesOfMembers, h _ (by decide)]

/-- Objects with the same options in which every other key has the same value are read as the same
configuration. -/
theorem ofMembers_congr (h : ∀ key, key ≠ "options".toList → first.get? key = second.get? key)
    (hoptions : optionsOfMembers first = optionsOfMembers second) :
    ofMembers first = ofMembers second := by
  obtain ⟨hunknown, hrules⟩ := rules_congr h
  rw [ofMembers, ofMembers, hunknown, hrules, hoptions]

/-- A configuration is accepted exactly if its keys are known and its rules and options are read. -/
theorem ofMembers_eq_ok_iff :
    ofMembers members = .ok config ↔ members.unknownKeys ["rules", "options"] = [] ∧
      rulesOfMembers members = .ok config.rules ∧
      optionsOfMembers members = .ok config.options := by
  rw [ofMembers]
  split
  · rename_i hknown
    simp only [hknown, true_and, bind_eq_ok_iff]
    constructor
    · rintro ⟨rules, hrules, options, hoptions, h⟩
      cases h
      exact ⟨hrules, hoptions⟩
    · rintro ⟨hrules, hoptions⟩
      exact ⟨_, hrules, _, hoptions, rfl⟩
  · rename_i hunknown
    exact iff_of_false (by rintro ⟨⟩) fun h => hunknown h.1

end Config

end ClassLint
