import ClassLint.Proofs.Check.Stages

/-!
# Growing the whitelist

A name that is put on the whitelist is accepted where it names a component, and nothing else
changes in how tokens are classified. So reports of invalid component names go away and all others
stay, but for one case: names on the whitelist that count as components can make a compound name two
of them, and then this is all that is reported.
-/

namespace ClassLint

namespace Options

/-- The relaxed options differ in the whitelist only, which has all names of the other. -/
structure Relaxes (options relaxed : Options) : Prop where
  same : relaxed = { options with whitelist := relaxed.whitelist }
  grows : options.whitelist ⊆ relaxed.whitelist

namespace Relaxes

variable {options relaxed : Options}

/-- A larger whitelist changes no formats. -/
theorem formats_eq (h : Relaxes options relaxed) : relaxed.formats = options.formats := by
  rw [h.same]

/-- A larger whitelist changes no limit on the depth. -/
theorem maxDepth_eq (h : Relaxes options relaxed) : relaxed.maxDepth = options.maxDepth := by
  rw [h.same]

/-- A larger whitelist changes nothing about how its names are counted. -/
theorem whitelistCounts_eq (h : Relaxes options relaxed) :
    relaxed.whitelistCounts = options.whitelistCounts := by
  rw [h.same]

/-- The larger whitelist accepts its names as components, and no others that were refused. -/
theorem accepts_iff (h : Relaxes options relaxed) (name : Text) (role : Role) :
    relaxed.accepts name role = true ↔
      options.accepts name role = true ∨ role = .component ∧ name ∈ relaxed.whitelist := by
  have hgrows : name ∈ options.whitelist → name ∈ relaxed.whitelist := fun hname => h.grows hname
  simp only [accepts, nameMatches, h.formats_eq, Bool.or_eq_true, Bool.and_eq_true, beq_iff_eq,
    List.contains_iff_mem]
  tauto

/-- A token becomes valid exactly if it is a component with a name on the larger whitelist. -/
theorem valid_iff (h : Relaxes options relaxed) (level : Nat) (token : ClassToken) :
    (token.classify level relaxed).valid = true ↔ (token.classify level options).valid = true ∨
      token.role level = .component ∧ token.name ∈ relaxed.whitelist := by
  -- a plain word that names a helper is no component, so no whitelist makes it valid
  have hcomponent : token.role level = .component →
      (decide (token.sigil = .none) && isHelperWord token.name) = false := by
    intro hrole
    unfold ClassToken.role at hrole
    split at hrole
    · cases hrole
    · cases hrole
    · split at hrole
      · cases hrole
      · rename_i hword
        simp [hword]
  simp only [ClassToken.classify, Bool.and_eq_true, Bool.not_eq_true', h.accepts_iff]
  constructor
  · rintro ⟨hword, haccepts | hlisted⟩
    · exact .inl ⟨hword, haccepts⟩
    · exact .inr hlisted
  · rintro (⟨hword, haccepts⟩ | ⟨hrole, hname⟩)
    · exact ⟨hword, .inl haccepts⟩
    · exact ⟨hcomponent hrole, .inr ⟨hrole, hname⟩⟩

end Relaxes

end Options

/-- The report of a component's name that does not fit. -/
def invalidComponent (name : Text) : Finding := ⟨.invalidComponentName, [("selector", '.' :: name)]⟩

namespace Selector

open Options (Relaxes)

variable {selector : Selector} {options relaxed : Options}

/-- A token is a valid component if its role is that of one and it is valid. -/
theorem classify_eq_component_iff {level : Nat} {token : ClassToken} :
    token.classify level options = ⟨.component, true⟩ ↔
      token.role level = .component ∧ (token.classify level options).valid = true := by
  constructor
  · intro h
    exact ⟨congrArg Classification.role h, congrArg Classification.valid h⟩
  · rintro ⟨hrole, hvalid⟩
    calc token.classify level options
        = ⟨token.role level, (token.classify level options).valid⟩ := rfl
      _ = ⟨.component, true⟩ := by rw [hrole, hvalid]

/-- What names a component still does with a larger whitelist. -/
theorem NamesComponent.relax (h : Relaxes options relaxed) {level : Nat} {token : ClassToken}
    (hnames : NamesComponent options level token) : NamesComponent relaxed level token := by
  obtain ⟨hclassify, hfits⟩ := hnames
  obtain ⟨hrole, hvalid⟩ := classify_eq_component_iff.1 hclassify
  refine ⟨classify_eq_component_iff.2 ⟨hrole, (h.valid_iff level token).2 (.inl hvalid)⟩, ?_⟩
  rw [h.whitelistCounts_eq, h.formats_eq]
  exact hfits

/-- If names on the whitelist do not count, a larger one makes no name a component that counts. -/
theorem NamesComponent.of_relaxed (h : Relaxes options relaxed)
    (hcounts : options.whitelistCounts = false) {level : Nat} {token : ClassToken}
    (hnames : NamesComponent relaxed level token) : NamesComponent options level token := by
  obtain ⟨hclassify, hfits⟩ := hnames
  rw [h.whitelistCounts_eq, h.formats_eq] at hfits
  refine ⟨classify_eq_component_iff.2 ?_, hfits⟩
  obtain ⟨hrole, hvalid⟩ := classify_eq_component_iff.1 hclassify
  refine ⟨hrole, ?_⟩
  obtain hvalid | - := (h.valid_iff level token).1 hvalid
  · exact hvalid
  · -- the component format accepts the name by itself
    have haccepts : options.accepts token.name .component = true := by
      simp [Options.accepts, nameMatches, matchedName, Role.sigil?, Formats.get, hfits hcounts]
    simp only [ClassToken.classify, Bool.and_eq_true] at hvalid ⊢
    exact ⟨hvalid.1, hrole ▸ haccepts⟩

/-- Two components of a compound stay two with a larger whitelist. -/
theorem OneComponentEach.of_relaxed (h : Relaxes options relaxed)
    (hone : selector.OneComponentEach relaxed) : selector.OneComponentEach options := by
  intro level compound hcompound
  refine (hone level compound hcompound).imp fun hnot hboth => ?_
  exact hnot ⟨hboth.1.relax h, hboth.2.relax h⟩

/-- If names on the whitelist do not count, a larger one makes no second component. -/
theorem OneComponentEach.relax (h : Relaxes options relaxed)
    (hcounts : options.whitelistCounts = false) (hone : selector.OneComponentEach options) :
    selector.OneComponentEach relaxed := by
  intro level compound hcompound
  refine (hone level compound hcompound).imp fun hnot hboth => ?_
  exact hnot ⟨hboth.1.of_relaxed h hcounts, hboth.2.of_relaxed h hcounts⟩

/-- Where all tokens are valid, a larger whitelist makes no second component either. -/
theorem OneComponentEach.relax_of_allValid (h : Relaxes options relaxed)
    (hvalid : selector.AllValid options) (hone : selector.OneComponentEach options) :
    selector.OneComponentEach relaxed := by
  intro level compound hcompound
  have hback : ∀ token ∈ compound.tokens,
      NamesComponent relaxed level token → NamesComponent options level token := by
    intro token htoken hnames
    obtain ⟨hrole, -⟩ := classify_eq_component_iff.1 hnames.1
    have hmem : (level, token) ∈ selector.leveledTokens :=
      List.mem_flatMap.2 ⟨(level, compound), hcompound, List.mem_map.2 ⟨token, htoken, rfl⟩⟩
    refine ⟨classify_eq_component_iff.2 ⟨hrole, hvalid level token hmem⟩, ?_⟩
    rw [← h.whitelistCounts_eq, ← h.formats_eq]
    exact hnames.2
  refine (hone level compound hcompound).imp_of_mem fun ha hb hnot hboth => ?_
  exact hnot ⟨hback _ ha hboth.1, hback _ hb hboth.2⟩

/-- A token is reported as an invalid component with a given name exactly if it is a component and
has that name. -/
theorem invalidToken_eq_iff {level : Nat} {token : ClassToken} {name : Text} :
    invalidToken options level token = invalidComponent name ↔
      token.role level = .component ∧ token.name = name := by
  have hkind : (token.role level).invalidName = .invalidComponentName ↔
      token.role level = .component := by
    cases token.role level <;> simp [Role.invalidName]
  simp [invalidToken, invalidComponent, ClassToken.classify, hkind]

/-- With a larger whitelist the last check reports the same tokens, but for components with a name
on it. -/
theorem checkTokens_relaxed (h : Relaxes options relaxed) :
    selector.checkTokens relaxed =
      (selector.checkTokens options).filter (· ∉ relaxed.whitelist.map invalidComponent) := by
  rw [checkTokens_eq, checkTokens_eq, List.filter_map, List.filter_filter]
  -- the report of a token does not depend on the whitelist, only whether there is one
  refine congrArg (List.map _) (List.filter_congr fun entry _ => ?_)
  obtain ⟨level, token⟩ := entry
  have hlisted : invalidToken options level token ∈ relaxed.whitelist.map invalidComponent ↔
      token.role level = .component ∧ token.name ∈ relaxed.whitelist := by
    simp only [List.mem_map, eq_comm (a := invalidComponent _), invalidToken_eq_iff]
    constructor
    · rintro ⟨name, hname, hrole, rfl⟩
      exact ⟨hrole, hname⟩
    · rintro ⟨hrole, hname⟩
      exact ⟨token.name, hname, hrole, rfl⟩
  have hvalid := h.valid_iff level token
  rw [← hlisted] at hvalid
  rw [Bool.eq_iff_iff]
  simp only [Function.comp_apply, Bool.and_eq_true, Bool.not_eq_true', decide_eq_true_eq,
    ← Bool.not_eq_true, hvalid]
  tauto

/-- A finding of another kind than an invalid component stays. -/
theorem filter_singleton_of_kind {finding : Finding} {names : List Text}
    (hkind : finding.kind ≠ .invalidComponentName) :
    [finding].filter (· ∉ names.map invalidComponent) = [finding] := by
  refine List.filter_eq_self.2 fun other hother => ?_
  rw [List.mem_singleton.1 hother, decide_eq_true_eq, List.mem_map]
  rintro ⟨name, -, rfl⟩
  exact hkind rfl

/-- No token is reported as two components in a compound. -/
theorem onlyOneComponentName_not_mem_checkTokens (data : Values) :
    (⟨.onlyOneComponentName, data⟩ : Finding) ∉ selector.checkTokens options := by
  intro h
  cases isOfWhole_of_mem_checkTokens h

/-- With a larger whitelist a selector is reported for the same but for invalid components on it,
or a compound now has two components, some token was invalid, and names on the whitelist count. -/
theorem check_relaxed_cases (selector : Selector) (h : Relaxes options relaxed) :
    selector.check relaxed =
        (selector.check options).filter (· ∉ relaxed.whitelist.map invalidComponent) ∨
      selector.check relaxed = [⟨.onlyOneComponentName, [("selector", selector.text)]⟩] ∧
        selector.check options = selector.checkTokens options ∧ selector.check options ≠ [] ∧
        options.whitelistCounts = true := by
  by_cases hdescendant : selector.NoDescendant
  swap
  · rw [check_of_descendant hdescendant, check_of_descendant hdescendant,
      filter_singleton_of_kind (by rintro ⟨⟩)]
    exact .inl rfl
  have hshallow : selector.Shallow relaxed ↔ selector.Shallow options := by
    rw [Shallow, Shallow, h.maxDepth_eq]
  by_cases hdepth : selector.Shallow options
  swap
  · rw [check_of_depth hdescendant hdepth, check_of_depth hdescendant (mt hshallow.1 hdepth),
      h.maxDepth_eq, filter_singleton_of_kind (by rintro ⟨⟩)]
    exact .inl rfl
  by_cases hone : selector.OneComponentEach options
  swap
  · rw [check_of_components hdescendant hdepth hone,
      check_of_components hdescendant (hshallow.2 hdepth) (mt (·.of_relaxed h) hone),
      filter_singleton_of_kind (by rintro ⟨⟩)]
    exact .inl rfl
  rw [check_of_tokens hdescendant hdepth hone]
  by_cases honeRelaxed : selector.OneComponentEach relaxed
  · rw [check_of_tokens hdescendant (hshallow.2 hdepth) honeRelaxed, checkTokens_relaxed h]
    exact .inl rfl
  · refine .inr ⟨check_of_components hdescendant (hshallow.2 hdepth) honeRelaxed, rfl, ?_, ?_⟩
    · intro hnone
      exact honeRelaxed (hone.relax_of_allValid h (checkTokens_eq_nil_iff.1 hnone))
    · by_contra hcounts
      exact honeRelaxed (hone.relax h (by simpa using hcounts))

end Selector

/-- Growing the whitelist only relaxes naming. If names on it do not count as components, the
findings become a sublist of those before; if they count, this or the one finding that a compound
has two components, and no finding comes up where there was none. Wherever the findings become a
sublist, those that go away are the invalid components with a name on the larger whitelist. -/
theorem growing_whitelist_relaxes (text : Text) {options relaxed : Options}
    (h : options.Relaxes relaxed) :
    (options.whitelistCounts = false →
      (checkSelector text relaxed).Sublist (checkSelector text options)) ∧
    (options.whitelistCounts = true →
      (checkSelector text relaxed).Sublist (checkSelector text options) ∨
        checkSelector text relaxed =
          [⟨.onlyOneComponentName, [("selector", (Selector.ofText text).text)]⟩]) ∧
    (checkSelector text options = [] → checkSelector text relaxed = []) ∧
    ((checkSelector text relaxed).Sublist (checkSelector text options) →
      checkSelector text relaxed = (checkSelector text options).filter
        (· ∉ relaxed.whitelist.map invalidComponent)) := by
  unfold checkSelector
  obtain hfiltered | ⟨htwo, htokens, hfound, hcounts⟩ :=
    Selector.check_relaxed_cases (Selector.ofText text) h
  · have hsublist : ((Selector.ofText text).check relaxed).Sublist
        ((Selector.ofText text).check options) := by
      rw [hfiltered]
      exact List.filter_sublist
    exact ⟨fun _ => hsublist, fun _ => .inl hsublist, fun hnone => by simpa [hnone] using hsublist,
      fun _ => hfiltered⟩
  · refine ⟨fun hnot => ?_, fun _ => .inr htwo, fun hnone => absurd hnone hfound,
      fun hsublist => ?_⟩
    · rw [hcounts] at hnot
      cases hnot
    · rw [htwo, htokens, List.singleton_sublist] at hsublist
      exact absurd hsublist (Selector.onlyOneComponentName_not_mem_checkTokens _)

/-- One name of three is put on the whitelist; where it counts as a component, a selector with
another component is reported for having two. -/
theorem growing_whitelist_relaxes_app :
    (checkSelector ".app.Other>.X".toList { whitelist := ["app"], whitelistCounts := false }).Sublist
      (checkSelector ".app.Other>.X".toList { whitelistCounts := false }) ∧
    checkSelector ".app.Other>.X".toList { whitelist := ["app"], whitelistCounts := false } =
      [⟨.invalidComponentName, [("selector", ".Other".toList)]⟩,
        ⟨.invalidElementName, [("selector", ".X".toList)]⟩] ∧
    checkSelector ".app.my-component".toList { whitelist := ["app"] } =
      [⟨.onlyOneComponentName, [("selector", ".app.my-component".toList)]⟩] := by
  have hrelaxes (counts : Bool) : Options.Relaxes { whitelistCounts := counts }
      { whitelist := ["app"], whitelistCounts := counts } := ⟨rfl, List.nil_subset _⟩
  have hsublist :=
    (growing_whitelist_relaxes ".app.Other>.X".toList (hrelaxes false)).1 rfl
  refine ⟨hsublist, ?_, ?_⟩
  · rw [(growing_whitelist_relaxes ".app.Other>.X".toList (hrelaxes false)).2.2.2 hsublist]
    with_unfolding_all decide
  · refine ((growing_whitelist_relaxes ".app.my-component".toList (hrelaxes true)).2.1
      rfl).resolve_left ?_
    with_unfolding_all decide

end ClassLint
