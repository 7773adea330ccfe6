import EncodingPlan.Proofs.RuleSet.Validity
import EncodingPlan.Proofs.Text.NormalForm

/-! The standard vocabulary: the rules that the standard registry knows are those of its tables. -/

namespace EncodingPlan.Registry

/-- The standard rules as the tables spell them. -/
def standardTexts : List String :=
  Standard.coreRules ++ Standard.encodingRules.flatMap (·.rules) ++ Standard.optionalRules

def standardRules : List RuleName := Standard.names standardTexts

theorem hasRule_standard_iff {rule : RuleName} :
    standard.hasRule rule = true ↔ rule ∈ standardRules := by
  have hknown : standardOperations.filterMap Operation.known? = standardRules := by
    have hgrant (rule : RuleName) :
        [Operation.declareRule rule, .grant rule .root].filterMap Operation.known? = [rule] := rfl
    have hdeclare (rules : List RuleName) :
        (rules.map Operation.declareRule).filterMap Operation.known? = rules := by
      rw [List.filterMap_map]
      exact List.filterMap_some
    have hset (name : RuleSetName) (parent : Option RuleSetName) (rules : List RuleName) :
        [Operation.declareRuleSet name parent rules].filterMap Operation.known? = [] := rfl
    simp only [standardOperations, standardRules, standardTexts, Standard.names,
      List.filterMap_append, List.filterMap_flatMap, hgrant, hdeclare, hset, List.append_nil,
      List.flatMap_singleton', List.map_append, List.map_flatMap]
  rw [standard_eq_run, hasRule_run, ← hknown, List.mem_filterMap]
  exact or_iff_right Bool.false_ne_true

theorem exists_eq_ofList : ∀ text ∈ standardTexts, ∃ cs, text = .ofList ('r' :: cs) := by
  simp only [standardTexts, Standard.coreRules, Standard.encodingRules, Standard.gmlRules,
    Standard.iso19136Rules, Standard.gml33Rules, Standard.iso19139Rules, Standard.sweCommonRules,
    Standard.gml21Rules, Standard.sqlRules, Standard.optionalRules, List.flatMap_cons,
    List.flatMap_nil, List.forall_mem_append, List.forall_mem_cons, List.not_mem_nil,
    false_imp_iff, implies_true, and_true]
  repeat' constructor

/-- Tells many other rules from the standard ones without going through the tables. -/
theorem head?_of_mem_standardRules {rule : RuleName} (h : rule ∈ standardRules) :
    rule.text.toList.head? = some 'r' := by
  obtain ⟨text, htext, rfl⟩ := List.mem_map.mp h
  obtain ⟨cs, rfl⟩ := exists_eq_ofList text htext
  have hr : Text.lowerChar 'r' = ['r'] := by decide +kernel
  obtain ⟨rest, hrest⟩ : Text.lowerChar 'r' <+: (Text.normalForm (.ofList ('r' :: cs))).toList :=
    Text.isPrefix_normalForm (by decide +kernel) (by decide)
  rw [Name.ofText, ← hrest, hr]
  rfl

end EncodingPlan.Registry
