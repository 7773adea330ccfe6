import EncodingPlan.Proofs.RuleSet.Declarations

/-! The order of declarations and grants. What two runs of the same operations declare can differ
only where one set is declared with two parents, and everything that a registry answers is read off
what it declares. So operations that declare no set twice can be done in any order, children before
their parents and grants before the declarations of their sets. -/

namespace EncodingPlan.Registry

variable {registry other : Registry} {name : RuleSetName} {rule : RuleName}

/-- The registries give the same answers. Findings and the order of the sets are not among them. -/
structure AnswersAlike (registry other : Registry) : Prop where
  hasRule : ∀ rule, registry.hasRule rule = other.hasRule rule
  hasRuleSet : ∀ name, registry.hasRuleSet name = other.hasRuleSet name
  grants : ∀ name rule, (registry.ruleSet? name).map (·.grants rule) =
    (other.ruleSet? name).map (·.grants rule)
  ancestors : ∀ name, registry.ancestors name = other.ancestors name
  appliesUnder : ∀ rule name, registry.appliesUnder rule name = other.appliesUnder rule name
  isUnder : ∀ name base, registry.isUnder name base = other.isUnder name base
  effectiveRules : ∀ name, registry.effectiveRules name = other.effectiveRules name
  validate : (∃ findings, registry.validate = .ok findings) ↔
    ∃ findings, other.validate = .ok findings

/-- The registries declare the same. -/
structure Agrees (registry other : Registry) : Prop where
  hasRule : ∀ rule, registry.hasRule rule = true ↔ other.hasRule rule = true
  hasRuleSet : ∀ name, registry.hasRuleSet name = true ↔ other.hasRuleSet name = true
  parent? : ∀ name, registry.parent? name = other.parent? name
  grants : ∀ name rule, registry.Grants name rule ↔ other.Grants name rule

/-! ## From declarations to answers -/

namespace Agrees

variable (hagrees : registry.Agrees other)
include hagrees

theorem isLine {members : List RuleSetName} (h : registry.IsLine name members) :
    other.IsLine name members := by
  have hextends : registry.Extends = other.Extends := by
    funext name parent
    rw [Extends, Extends, hagrees.parent?]
  exact ⟨h.head, hextends ▸ h.linked, h.nodup, hextends ▸ h.closed⟩

theorem grants_eq (name : RuleSetName) (rule : RuleName) :
    (registry.ruleSet? name).map (·.grants rule) = (other.ruleSet? name).map (·.grants rule) := by
  have hdeclared := hagrees.hasRuleSet name
  have hgrants := hagrees.grants name rule
  rw [hasRuleSet_eq, hasRuleSet_eq] at hdeclared
  cases hset : registry.ruleSet? name with
  | none =>
    have hset' : other.ruleSet? name = none := by simpa [hset] using hdeclared
    rw [hset']
  | some ruleSet =>
    obtain ⟨ruleSet', hset'⟩ := Option.isSome_iff_exists.mp (hdeclared.mp (by simp [hset]))
    have hmem : rule ∈ ruleSet.rules ↔ rule ∈ ruleSet'.rules := by
      simpa [Grants, hset, hset'] using hgrants
    rw [hset', Option.map_some, Option.map_some, RuleSet.grants, RuleSet.grants, Option.some.injEq,
      Bool.eq_iff_iff, List.contains_iff_mem, List.contains_iff_mem, hmem]

variable (h : registry.Coherent) (hother : other.Coherent)
include h hother

theorem ancestors_eq (name : RuleSetName) : registry.ancestors name = other.ancestors name :=
  (hagrees.isLine (h.isLine_ancestors name)).unique (hother.isLine_ancestors name)

theorem isCyclic_eq (name : RuleSetName) : registry.isCyclic name = other.isCyclic name := by
  rw [Bool.eq_iff_iff, h.isCyclic_iff, hother.isCyclic_iff, hagrees.ancestors_eq h hother]
  simp only [hagrees.parent?]

theorem answersAlike : registry.AnswersAlike other where
  hasRule rule := Bool.eq_iff_iff.mpr (hagrees.hasRule rule)
  hasRuleSet name := Bool.eq_iff_iff.mpr (hagrees.hasRuleSet name)
  grants := hagrees.grants_eq
  ancestors := hagrees.ancestors_eq h hother
  appliesUnder rule name := by
    rw [Bool.eq_iff_iff, appliesUnder_iff, appliesUnder_iff, hagrees.ancestors_eq h hother]
    simp only [hagrees.grants]
  isUnder name base := by rw [isUnder, isUnder, hagrees.ancestors_eq h hother]
  effectiveRules name := by
    refine Text.sorted_eq_of_mem_iff fun rule => ?_
    have hmem : rule ∈ registry.effectiveRules name ↔ rule ∈ other.effectiveRules name := by
      rw [mem_effectiveRules_iff, mem_effectiveRules_iff, hagrees.ancestors_eq h hother]
      simp only [hagrees.grants]
    exact Text.mem_sorted.symm.trans (hmem.trans Text.mem_sorted)
  validate := by
    simp only [validate_eq_ok_iff, hagrees.hasRuleSet, hagrees.isCyclic_eq h hother]

end Agrees

/-! ## Permuted runs -/

/-- A set is named a parent once for each of its declarations. -/
theorem Operation.length_parentsNamed (name : RuleSetName) (ops : List Operation) :
    (parentsNamed name ops).length = (ops.filterMap declared?).count name := by
  induction ops with
  | nil => rfl
  | cons op ops ih =>
    rw [parentsNamed] at ih ⊢
    cases op with
    | declareRuleSet written parent rules =>
      by_cases hname : written = name <;> simp [parentNamed?, declared?, hname, ih]
    | declareRule _ => exact ih
    | grant _ _ => exact ih
    | ask => exact ih

theorem Operation.parentsNamed_perm {ops others : List Operation} (hperm : ops.Perm others)
    (honce : (ops.filterMap declared?).Nodup) (name : RuleSetName) :
    parentsNamed name ops = parentsNamed name others := by
  have hnamed : (parentsNamed name ops).Perm (parentsNamed name others) := hperm.filterMap _
  have hlength : (parentsNamed name ops).length ≤ 1 := by
    rw [length_parentsNamed]
    exact List.nodup_iff_count_le_one.mp honce name
  match hfirst : parentsNamed name ops with
  | [] => exact (List.nil_perm.mp (hfirst ▸ hnamed)).symm
  | [parent] => exact (List.singleton_perm.mp (hfirst ▸ hnamed))
  | _ :: _ :: _ => simp [hfirst] at hlength

theorem agrees_of_perm (registry : Registry) {ops others : List Operation}
    (hperm : ops.Perm others) (honce : (ops.filterMap Operation.declared?).Nodup) :
    Agrees (ops.foldl Operation.apply registry) (others.foldl Operation.apply registry) where
  hasRule rule := by simp only [hasRule_run, hperm.mem_iff]
  hasRuleSet name := by simp only [hasRuleSet_run, hperm.mem_iff]
  parent? name := by
    simp only [parent?_run, hperm.mem_iff, Operation.parentsNamed_perm hperm honce]
  grants name rule := by simp only [grants_run, hperm.mem_iff]

/-- Operations of which no two declare one set have the same answers in every order. -/
theorem Reachable.answersAlike_of_perm (h : registry.Reachable) {ops others : List Operation}
    (hperm : ops.Perm others) (honce : (ops.filterMap Operation.declared?).Nodup) :
    AnswersAlike (ops.foldl Operation.apply registry) (others.foldl Operation.apply registry) :=
  (agrees_of_perm registry hperm honce).answersAlike (h.run ops).coherent (h.run others).coherent

/-- A set is granted a rule and declared before its parent, next to two sets that extend each other;
and then the same from the last to the first. -/
theorem Reachable.answersAlike_of_reverse :
    let rule : RuleName := .ofText "rule"
    let low : RuleSetName := .ofText "low"
    let high : RuleSetName := .ofText "high"
    let left : RuleSetName := .ofText "left"
    let right : RuleSetName := .ofText "right"
    let ops : List Operation := [.grant (.ofText "extra") low, .declareRuleSet low (some high) [],
      .declareRuleSet left (some right) [], .declareRuleSet high none [rule], .declareRule rule,
      .declareRuleSet right (some left) []]
    let there := ops.foldl Operation.apply Registry.bare
    let back := ops.reverse.foldl Operation.apply Registry.bare
    there.AnswersAlike back ∧ back.appliesUnder rule low = true ∧
      ¬ ∃ findings, back.validate = .ok findings := by
  intro rule low high left right ops there back
  have halike : there.AnswersAlike back :=
    Reachable.bare.answersAlike_of_perm (List.reverse_perm ops).symm (by decide)
  refine ⟨halike, (halike.appliesUnder rule low).symm.trans (by rfl), ?_⟩
  rw [← halike.validate, validate_eq_ok_iff]
  intro hvalid
  exact absurd (hvalid left (by rfl)) (by decide)

end EncodingPlan.Registry
