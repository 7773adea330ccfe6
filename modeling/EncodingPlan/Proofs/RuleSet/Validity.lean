import EncodingPlan.Proofs.RuleSet.Declarations

/-! Valid registries. The root is always declared, and no other declared set lacks a parent. So a
walk over declared sets that does not come back to one of them can only end at the root, and a
registry has neither a loop nor an undeclared parent exactly if all its declared sets are under the
root. What the root grants applies under all of them then. -/

namespace EncodingPlan.Registry

variable {registry : Registry} {name : RuleSetName}

/-! ## The standard registry -/

/-- What declares the standard rules and encoding rules. -/
def standardOperations : List Operation :=
  (Standard.names Standard.coreRules).flatMap
      (fun rule => [Operation.declareRule rule, .grant rule .root])
    ++ Standard.encodingRules.flatMap (fun rule =>
        (Standard.names rule.rules).map Operation.declareRule
          ++ [Operation.declareRuleSet (.ofText rule.name) (some (.ofText rule.parent))
            (Standard.names rule.rules)])
    ++ (Standard.names Standard.optionalRules).map Operation.declareRule

theorem declareRules_eq_run (rules : List RuleName) : registry.declareRules rules =
    (rules.map Operation.declareRule).foldl Operation.apply registry := by
  rw [List.foldl_map]
  rfl

theorem standard_eq_run : standard = standardOperations.foldl Operation.apply bare := by
  have hencoding : declareEncodingRule = fun registry rule =>
      ((Standard.names rule.rules).map Operation.declareRule
        ++ [Operation.declareRuleSet (.ofText rule.name) (some (.ofText rule.parent))
          (Standard.names rule.rules)]).foldl Operation.apply registry := by
    funext registry rule
    rw [List.foldl_concat, ← declareRules_eq_run]
    rfl
  rw [standardOperations, List.foldl_append, List.foldl_append, List.foldl_flatMap,
    List.foldl_flatMap, ← declareRules_eq_run, standard, hencoding]
  simp only [List.foldl_cons, List.foldl_nil, Operation.apply]

/-- Every history can be told from the registry that holds the root alone. -/
theorem Reachable.exists_run (h : registry.Reachable) :
    ∃ ops : List Operation, registry = ops.foldl Operation.apply Registry.bare := by
  induction h with
  | bare => exact ⟨[], rfl⟩
  | standard => exact ⟨_, standard_eq_run⟩
  | step op _ ih =>
    obtain ⟨ops, rfl⟩ := ih
    exact ⟨ops ++ [op], by rw [List.foldl_concat]⟩

/-- No history takes the root away. -/
theorem Reachable.hasRuleSet_root (h : registry.Reachable) :
    registry.hasRuleSet .root = true := by
  obtain ⟨ops, rfl⟩ := h.exists_run
  exact (hasRuleSet_run ops).mpr (.inl (by rfl))

/-! ## Lines that end at the root -/

/-- Every declared set has the root for its last ancestor. -/
def Rooted (registry : Registry) : Prop :=
  ∀ name, registry.hasRuleSet name = true → (registry.ancestors name).getLast? = some .root

/-- A member of a line without a parent is the last one. -/
theorem IsLine.getLast?_eq {members : List RuleSetName} (h : registry.IsLine name members)
    {last : RuleSetName} (hmem : last ∈ members) (hparent : registry.parent? last = none) :
    members.getLast? = some last := by
  obtain ⟨before, after, rfl⟩ := List.append_of_mem hmem
  cases after with
  | nil => exact List.getLast?_concat
  | cons next after =>
    have hstep := (List.isChain_append_cons_cons.mp h.linked).2.1
    rw [Extends, hparent] at hstep
    cases hstep

/-- The parent of a set is read off its declaration. -/
theorem undeclaredParents_eq : registry.undeclaredParents =
    registry.ruleSetNames.filterMap fun name => (registry.parent? name).bind fun parent =>
      if registry.hasRuleSet parent then none else some (.unknownBase name parent) := by
  rw [undeclaredParents, ruleSetNames, Dict.keys, List.filterMap_map]
  refine List.filterMap_congr fun entry hentry => ?_
  obtain ⟨name, ruleSet⟩ := entry
  have hset : registry.ruleSet? name = some ruleSet := Dict.mem_entries.mp hentry
  rw [Function.comp_apply, parent?, hset]
  rfl

theorem unknownRule_notMem_undeclaredParents {rule : RuleName} {name : RuleSetName} :
    .unknownRule rule name ∉ registry.undeclaredParents := by
  intro h
  obtain ⟨_, _, hfound⟩ := List.mem_filterMap.mp h
  obtain ⟨parent, _, hfound⟩ := Option.bind_eq_some_iff.mp hfound
  split at hfound <;> cases hfound

theorem validate_eq_ok {findings : Findings} (h : registry.validate = .ok findings) :
    findings = registry.undeclaredParents := by
  rw [validate] at h
  cases hfind : registry.ruleSetNames.find? registry.isCyclic with
  | none => simpa [hfind] using h.symm
  | some cyclic => simp [hfind] at h

theorem undeclaredParents_eq_nil_iff : registry.undeclaredParents = [] ↔
    ∀ name parent, registry.Extends name parent → registry.hasRuleSet parent = true := by
  rw [undeclaredParents_eq, List.filterMap_eq_nil_iff]
  constructor
  · intro hnone name parent hparent
    have hname := hnone name (mem_ruleSetNames.mpr hparent.hasRuleSet)
    rw [show registry.parent? name = some parent from hparent] at hname
    by_contra hundeclared
    simp [hundeclared] at hname
  · intro hdeclared name _
    cases hparent : registry.parent? name with
    | none => rfl
    | some parent => exact if_pos (hdeclared name parent hparent)

theorem validate_eq_ok_nil_iff : registry.validate = .ok [] ↔
    (∃ findings, registry.validate = .ok findings) ∧ registry.undeclaredParents = [] := by
  rw [validate]
  split <;> simp

namespace Coherent

variable (h : registry.Coherent)
include h

/-- Without undeclared parents, the last set of a line without a loop is declared and has no
parent. -/
theorem rooted_of_validate (hvalid : registry.validate = .ok []) : registry.Rooted := by
  obtain ⟨hacyclic, hparents⟩ := validate_eq_ok_nil_iff.mp hvalid
  rw [validate_eq_ok_iff] at hacyclic
  rw [undeclaredParents_eq_nil_iff] at hparents
  intro name hname
  have hline := h.isLine_ancestors name
  have hne : registry.ancestors name ≠ [] := List.ne_nil_of_mem (List.mem_of_mem_head? hline.head)
  have hlast := List.getLast?_eq_some_getLast hne
  have hreach := hline.mem_iff.mp (List.mem_of_getLast? hlast)
  have hdeclared : registry.hasRuleSet ((registry.ancestors name).getLast hne) = true := by
    rcases Relation.ReflTransGen.cases_tail hreach with heq | ⟨before, _, hstep⟩
    · rwa [heq]
    · exact hparents before _ hstep
  have hparent : registry.parent? ((registry.ancestors name).getLast hne) = none := by
    by_contra hsome
    have hcyclic := h.isCyclic_iff.mpr ⟨_, hlast, hsome⟩
    rw [hacyclic name hname] at hcyclic
    cases hcyclic
  rcases h.parent?_eq_none_iff.mp hparent with hroot | hundeclared
  · rw [hlast, hroot]
  · rw [hdeclared] at hundeclared
    cases hundeclared

/-- A set whose parent is not declared has a line that ends at this parent. -/
theorem validate_of_rooted (hroot : registry.hasRuleSet .root = true) (hrooted : registry.Rooted) :
    registry.validate = .ok [] := by
  refine validate_eq_ok_nil_iff.mpr ⟨validate_eq_ok_iff.mpr fun name hname => ?_,
    undeclaredParents_eq_nil_iff.mpr fun name parent hparent => ?_⟩
  · rw [← Bool.not_eq_true, h.isCyclic_iff, hrooted name hname]
    rintro ⟨last, hlast, hparent⟩
    rw [Option.mem_some_iff] at hlast
    exact hparent (h.parent?_eq_none_iff.mpr (.inl hlast.symm))
  · by_contra hundeclared
    rw [Bool.not_eq_true] at hundeclared
    have hend : registry.parent? parent = none := h.parent?_eq_none_iff.mpr (.inr hundeclared)
    have hline := h.isLine_ancestors name
    have hmem := hline.parent_mem (List.mem_of_mem_head? hline.head) hparent
    have hlast := hline.getLast?_eq hmem hend
    rw [hrooted name hparent.hasRuleSet, Option.some.injEq] at hlast
    rw [← hlast, hroot] at hundeclared
    cases hundeclared

end Coherent

/-- After every history the registry is valid, and nothing is reported, exactly if the ancestors of
every declared set lead up to the root; all of them inherit what the root grants then. The root is
declared in any case, and it is the only declared set without a parent. -/
theorem Reachable.validate_iff_rooted (h : registry.Reachable) :
    (registry.validate = .ok [] ↔ registry.Rooted) ∧
      (registry.validate = .ok [] → ∀ rule, registry.Grants .root rule →
        ∀ name, registry.hasRuleSet name = true → registry.appliesUnder rule name = true) ∧
      registry.hasRuleSet .root = true ∧
      ∀ name ruleSet, registry.ruleSet? name = some ruleSet →
        (ruleSet.parent = none ↔ name = .root) := by
  have hc := h.coherent
  have hroot := h.hasRuleSet_root
  refine ⟨⟨hc.rooted_of_validate, hc.validate_of_rooted hroot⟩,
    fun hvalid rule hgrants name hname => ?_, hroot, hc.parentless⟩
  have hlast := hc.rooted_of_validate hvalid name hname
  exact appliesUnder_iff.mpr ⟨.root, List.mem_of_getLast? hlast, hgrants⟩

/-- A set is declared before its parent, and the root is declared as if it had one. -/
theorem Reachable.validate_iff_rooted_of_late_parent :
    let rule : RuleName := .ofText "rule"
    let low : RuleSetName := .ofText "low"
    let high : RuleSetName := .ofText "high"
    let early := [.declareRuleSet low (some high) [], .declareRuleSet .root (some low) [rule],
      .ask].foldl Operation.apply Registry.bare
    let late := [.declareRuleSet high none []].foldl Operation.apply early
    early.validate = .ok [.unknownBase low high] ∧ ¬ early.Rooted ∧
      early.appliesUnder rule low = false ∧ late.validate = .ok [] ∧ late.Rooted ∧
      late.appliesUnder rule low = true := by
  intro rule low high early late
  have hearly : early.Reachable := Reachable.bare.run _
  have hlate : late.Reachable := hearly.run _
  have hfound : early.validate = .ok [.unknownBase low high] := by rfl
  have hvalid : late.validate = .ok [] := by rfl
  obtain ⟨hiff, hinherit, _⟩ := hlate.validate_iff_rooted
  refine ⟨hfound, ?_, by rfl, hvalid, hiff.mp hvalid, hinherit hvalid rule ?_ low (by rfl)⟩
  · rw [← hearly.validate_iff_rooted.1, hfound]
    simp
  · exact ⟨⟨none, [rule]⟩, by rfl, List.mem_singleton_self rule⟩

end EncodingPlan.Registry
