import EncodingPlan.Proofs.RuleSet.Loops

/-! What a set inherits. Being under a set is the order of going to parents, so it is reflexive and
transitive, and rules cascade down along it, on loops as elsewhere. Two sets are under each other
only on a loop, and a registry with a loop is not valid. -/

namespace EncodingPlan.Registry

variable {registry : Registry} {a b c : RuleSetName} {rule : RuleName}

/-- The set is declared and was granted the rule itself. -/
def Grants (registry : Registry) (name : RuleSetName) (rule : RuleName) : Prop :=
  ∃ ruleSet, registry.ruleSet? name = some ruleSet ∧ rule ∈ ruleSet.rules

theorem appliesUnder_iff :
    registry.appliesUnder rule a = true ↔ ∃ b ∈ registry.ancestors a, registry.Grants b rule := by
  simp [appliesUnder, RuleSet.grants, Grants, Option.any_eq_true]

theorem mem_effectiveRules_iff :
    rule ∈ registry.effectiveRules a ↔ ∃ b ∈ registry.ancestors a, registry.Grants b rule := by
  rw [effectiveRules, Text.mem_sorted, List.mem_flatMap]
  refine exists_congr fun b => and_congr_right fun _ => ?_
  cases hset : registry.ruleSet? b with
  | none => simp [Grants, hset]
  | some ruleSet => simp [Grants, hset]

namespace Coherent

variable (h : registry.Coherent)
include h

theorem isUnder_iff :
    registry.isUnder a b = true ↔ Relation.ReflTransGen registry.Extends a b := by
  rw [isUnder, List.contains_iff_mem]
  exact (h.isLine_ancestors a).mem_iff

theorem ancestors_subset (hab : registry.isUnder a b = true) :
    registry.ancestors b ⊆ registry.ancestors a := by
  intro c hc
  rw [h.isUnder_iff] at hab
  rw [(h.isLine_ancestors a).mem_iff]
  exact hab.trans ((h.isLine_ancestors b).mem_iff.mp hc)

/-! ## Loops -/

theorem not_loop_of_validate {findings : Findings} (hvalid : registry.validate = .ok findings) :
    ¬ Relation.TransGen registry.Extends a a := by
  intro hloop
  obtain ⟨parent, hparent, _⟩ := Relation.TransGen.head'_iff.mp hloop
  have hmem : a ∈ registry.ruleSetNames := (Dict.contains_iff _ _).mp hparent.hasRuleSet
  rw [validate] at hvalid
  split at hvalid
  · cases hvalid
  · rename_i hfind
    exact List.find?_eq_none.mp hfind a hmem (h.isCyclic_of_loop hloop)

end Coherent

/-- Which rules apply under which sets, after every history. Two sets of a valid registry are under
each other only if they are one. -/
theorem Reachable.cascade (h : registry.Reachable) :
    (∀ rule a, registry.appliesUnder rule a = true ↔ rule ∈ registry.effectiveRules a) ∧
      (∀ a, registry.isUnder a a = true) ∧
      (∀ a b c, registry.isUnder a b = true → registry.isUnder b c = true →
        registry.isUnder a c = true) ∧
      (∀ a b, registry.isUnder a b = true →
        registry.effectiveRules b ⊆ registry.effectiveRules a ∧
        ∀ rule, registry.appliesUnder rule b = true → registry.appliesUnder rule a = true) ∧
      (∀ findings, registry.validate = .ok findings → ∀ a b, registry.isUnder a b = true →
        registry.isUnder b a = true → a = b) := by
  have hc := h.coherent
  refine ⟨fun rule a => appliesUnder_iff.trans mem_effectiveRules_iff.symm,
    fun a => hc.isUnder_iff.mpr .refl, fun a b c hab hbc => ?_, fun a b hab => ⟨?_, ?_⟩,
    fun findings hvalid a b hab hba => ?_⟩
  · exact hc.isUnder_iff.mpr ((hc.isUnder_iff.mp hab).trans (hc.isUnder_iff.mp hbc))
  · intro rule hrule
    obtain ⟨d, hd, hgrants⟩ := mem_effectiveRules_iff.mp hrule
    exact mem_effectiveRules_iff.mpr ⟨d, hc.ancestors_subset hab hd, hgrants⟩
  · intro rule hrule
    obtain ⟨d, hd, hgrants⟩ := appliesUnder_iff.mp hrule
    exact appliesUnder_iff.mpr ⟨d, hc.ancestors_subset hab hd, hgrants⟩
  · rw [hc.isUnder_iff] at hab hba
    rcases Relation.reflTransGen_iff_eq_or_transGen.mp hab with heq | hstrict
    · exact heq.symm
    · exact absurd (hstrict.trans_left hba) (hc.not_loop_of_validate hvalid)

/-- A rule granted on one of two declared sets applies under the set that extends it, and the two
are not under each other. -/
theorem Reachable.cascade_of_declared_parent :
    let rule : RuleName := .ofText "rule"
    let low : RuleSetName := .ofText "low"
    let high : RuleSetName := .ofText "high"
    let registry := [.declareRule rule, .declareRuleSet high none [rule], .ask,
      .declareRuleSet low (some high) []].foldl Operation.apply Registry.bare
    registry.appliesUnder rule low = true ∧ rule ∈ registry.effectiveRules low ∧
      registry.isUnder low .root = true ∧ registry.isUnder high low = false := by
  intro rule low high registry
  have hreach : registry.Reachable := Reachable.bare.run _
  have hup : registry.isUnder low high = true := by rfl
  obtain ⟨happlies, _, htrans, hinherit, hantisymm⟩ := hreach.cascade
  have hlow := (hinherit low high hup).2 rule (by rfl)
  refine ⟨hlow, (happlies rule low).mp hlow, htrans low high .root hup (by rfl), ?_⟩
  by_contra hdown
  rw [Bool.not_eq_false] at hdown
  exact absurd (hantisymm [] (by rfl) low high hup hdown) (by decide)

end EncodingPlan.Registry
