import EncodingPlan.Proofs.Resolution.DeclaredRuleSets
import EncodingPlan.Proofs.RuleSet.Vocabulary

/-! What loading finds. The rules that the targets that run name and that are not known come first,
in the order of the targets, as often as they are named. They are granted all the same. Then come
the declared rule sets with an undeclared parent, in the order of their first declarations. They are
judged at the end, when a later declaration may have replaced the parent, or declared it. -/

namespace EncodingPlan

namespace Registry

variable {registry : Registry} {declarations : List (String × RuleSetDeclaration)}

/-- The rules that declarations name, each with the set it is named for. -/
def rulesNamed (declarations : List (String × RuleSetDeclaration)) :
    List (RuleName × RuleSetName) :=
  declarations.flatMap fun (written, declaration) =>
    declaration.additionalRules.map fun rule => (.ofText rule, .ofText written)

/-- The sets that declarations are about, as often as they are declared. -/
def setsNamed (declarations : List (String × RuleSetDeclaration)) : List RuleSetName :=
  declarations.map fun (written, _) => .ofText written

theorem mem_rulesNamed {rule : RuleName} {name : RuleSetName} :
    (rule, name) ∈ rulesNamed declarations ↔
      ∃ declaration ∈ declarationsOf name declarations,
        rule ∈ declaration.additionalRules.map Name.ofText := by
  simp only [rulesNamed, List.mem_flatMap, mem_declarationsOf, List.mem_map, Prod.mk.injEq]
  constructor
  · rintro ⟨⟨written, declaration⟩, hmem, text, htext, hrule, hname⟩
    exact ⟨declaration, ⟨written, hmem, hname⟩, text, htext, hrule⟩
  · rintro ⟨declaration, ⟨written, hmem, hname⟩, text, htext, hrule⟩
    exact ⟨(written, declaration), hmem, text, htext, hrule, hname⟩

/-! ## Unknown rules -/

theorem findings_declareAll_singleton (entry : String × RuleSetDeclaration) :
    (registry.declareAll [entry]).2 =
      ((rulesNamed [entry]).filter fun (rule, _) => !registry.hasRule rule).map
        fun (rule, name) => .unknownRule rule name := by
  simp [declareAll, declare, declareRuleSet, rulesNamed, List.filter_map, Function.comp_def]

/-- No declaration makes a rule known, so all of them are judged alike. -/
theorem findings_declareAll : (registry.declareAll declarations).2 =
    ((rulesNamed declarations).filter fun (rule, _) => !registry.hasRule rule).map
      fun (rule, name) => .unknownRule rule name := by
  induction declarations using List.reverseRecOn with
  | nil => rfl
  | append_singleton declarations entry ih =>
    have hknown (rule : RuleName) :
        (registry.declareAll declarations).1.hasRule rule = registry.hasRule rule := by
      rw [hasRule, hasRule, rules_declareAll]
    simp only [findings_declareAll_append, ih, findings_declareAll_singleton, hknown, rulesNamed,
      List.flatMap_append, List.filter_append, List.map_append]

/-! ## Undeclared parents -/

theorem ruleSetNames_declareAll : (registry.declareAll declarations).1.ruleSetNames =
    (registry.ruleSetNames ++ setsNamed declarations).eraseDups := by
  have hsets : (declarations.map declaring).filterMap Operation.subject? =
      setsNamed declarations := by
    rw [List.filterMap_map, setsNamed, ← List.filterMap_eq_map]
    rfl
  rw [declareAll_eq_run, ruleSetNames_run, hsets]

end Registry

/-! ## The findings of a load -/

namespace Configuration

variable (configuration : Configuration)

/-- The rules that the targets that run add to rule sets, as often as they do: in the order of the
targets, of the rule sets of each and of the rules of each set. -/
def rulesNamed : List (RuleName × RuleSetName) :=
  Registry.rulesNamed (configuration.targets.flatMap TargetSection.activeRuleSets)

/-- The declared sets in the order of their first declarations, the standard ones first. -/
def declaredSets : List RuleSetName :=
  (Registry.standard.ruleSetNames
    ++ Registry.setsNamed (configuration.targets.flatMap TargetSection.activeRuleSets)).eraseDups

/-- The parent of a set after the last of its declarations. -/
def finalParent? (name : RuleSetName) : Option RuleSetName :=
  match (configuration.declarationsOf name).getLast? with
  | some declaration =>
    if name = .root then none
    else some ((declaration.parent.map Name.ofText).getD RuleSetName.root)
  | none => Registry.standard.parent? name

theorem ruleSetNames_registry :
    configuration.registry.ruleSetNames = configuration.declaredSets :=
  Registry.ruleSetNames_declareAll

theorem unknownRules_eq :
    configuration.unknownRules =
      (configuration.rulesNamed.filter fun (rule, _) => rule ∉ Registry.standardRules).map
        fun (rule, name) => .unknownRule rule name := by
  have hknown (rule : RuleName) :
      (!Registry.standard.hasRule rule) = decide (rule ∉ Registry.standardRules) := by
    rw [decide_not, Bool.not_inj_iff, Bool.eq_iff_iff, Registry.hasRule_standard_iff,
      decide_eq_true_iff]
  rw [unknownRules, Registry.findings_declareAll, rulesNamed]
  simp only [hknown]

/-- The targets that run make no rule known, so that a rule they name is judged at the end as it was
when it was named. -/
theorem mem_unknownRules {rule : RuleName} {name : RuleSetName} :
    .unknownRule rule name ∈ configuration.unknownRules ↔
      (rule, name) ∈ configuration.rulesNamed ∧ configuration.registry.hasRule rule = false := by
  have hrules : configuration.registry.rules = Registry.standard.rules :=
    (Resolution.ruleSetsFrom_registry configuration).rules
  rw [unknownRules_eq, Registry.hasRule, hrules, ← Registry.hasRule, Bool.eq_false_iff, ne_eq,
    Registry.hasRule_standard_iff]
  simp

theorem undeclaredParents_registry :
    configuration.registry.undeclaredParents =
      configuration.declaredSets.filterMap fun name =>
        (configuration.finalParent? name).bind fun parent =>
          if parent ∈ configuration.declaredSets then none
          else some (.unknownBase name parent) := by
  have hparent (name : RuleSetName) :
      configuration.registry.parent? name = configuration.finalParent? name :=
    (Resolution.ruleSetsFrom_registry configuration).parent name
  simp only [Registry.undeclaredParents_eq, configuration.ruleSetNames_registry, hparent,
    ← Registry.mem_ruleSetNames]

end Configuration

namespace Resolution

/-- The findings are the references to unknown rules, and after them the declared sets whose parent
is not declared in the end. A rule that is unknown applies all the same. -/
structure FindingsFrom (configuration : Configuration) (resolution : Resolution)
    (findings : Findings) : Prop where
  listed : findings =
    ((configuration.rulesNamed.filter fun (rule, _) => rule ∉ Registry.standardRules).map
      fun (rule, name) => .unknownRule rule name)
    ++ configuration.declaredSets.filterMap fun name =>
      (configuration.finalParent? name).bind fun parent =>
        if parent ∈ configuration.declaredSets then none else some (.unknownBase name parent)
  applied : ∀ rule name, .unknownRule rule name ∈ findings →
    resolution.registry.hasRule rule = false ∧ resolution.registry.appliesUnder rule name = true

variable {configuration : Configuration} {replacements : Replacements} {known : Implementations}
  {resolution : Resolution} {findings : Findings}

/-- A set is its own first ancestor. -/
theorem appliesUnder_registry {rule : RuleName} {name : RuleSetName}
    (h : (rule, name) ∈ configuration.rulesNamed) :
    configuration.registry.resolved.appliesUnder rule name = true := by
  have hline := configuration.coherent_registry.resolved.isLine_ancestors name
  refine Registry.appliesUnder_iff.mpr ⟨name, List.mem_of_head? hline.head, ?_⟩
  exact ((ruleSetsFrom_registry configuration).granted name rule).mpr
    (.inr (Registry.mem_rulesNamed.mp h))

/-- Loading finds every reference to an unknown rule and every declared set with an undeclared
parent, each once and in this order, and nothing else. -/
theorem findingsFrom_of_load
    (h : load configuration replacements known = .ok (resolution, findings)) :
    FindingsFrom configuration resolution findings := by
  have hloaded := load_eq_ok h
  obtain ⟨undeclaredParents, hvalid, hfindings⟩ := hloaded.findings
  obtain rfl := Registry.validate_eq_ok hvalid
  refine ⟨?_, fun rule name hfound => ?_⟩
  · rw [hfindings, configuration.unknownRules_eq, configuration.undeclaredParents_registry]
  · rw [hfindings, List.mem_append,
      or_iff_left Registry.unknownRule_notMem_undeclaredParents] at hfound
    obtain ⟨hnamed, hunknown⟩ := configuration.mem_unknownRules.mp hfound
    rw [hloaded.registry]
    exact ⟨hunknown, appliesUnder_registry hnamed⟩

/-- An unknown rule is named three times, in different spellings, next to a known one. The second
target that runs gives one of the sets of the first another parent, which is declared. -/
theorem findingsFrom_of_late_parent :
    let known : Implementations := .ofList [("Schema", .target .xmlSchema),
      ("Table", .target .sqlDdl)]
    let configuration : Configuration := {
      targets := [
        { implementation := "Schema",
          ruleSets := .ofList
            [("Mine", { parent := some "missing",
                        additionalRules := ["My-Rule", "rule-sql-cls-feature-types", "my-rule "] }),
              ("other", { parent := some "absent" })] },
        { implementation := "Schema", mode := some "disabled",
          ruleSets := .ofList
            [("idle", { parent := some "missing", additionalRules := ["your-rule"] })] },
        { implementation := "Table",
          ruleSets := .ofList
            [("mine", { parent := some "OTHER", additionalRules := ["my-rule"] })] }] }
    let rule : RuleName := .ofText "my-rule"
    let mine : RuleSetName := .ofText "mine"
    ∃ resolution, load configuration ∅ known = .ok (resolution,
        [.unknownRule rule mine, .unknownRule rule mine, .unknownRule rule mine,
          .unknownBase (.ofText "other") (.ofText "absent")]) ∧
      resolution.registry.appliesUnder rule mine = true := by
  intro known configuration rule mine
  have hvalid : configuration.registry.validate =
      .ok [.unknownBase (.ofText "other") (.ofText "absent")] := by decide +kernel
  have hsections : configuration.SectionsLoadable ∅ known := by decide +kernel
  obtain ⟨resolution, findings, hload⟩ := hsections.exists_load hvalid
  obtain ⟨hlisted, happlied⟩ := findingsFrom_of_load hload
  have hfindings : findings = [.unknownRule rule mine, .unknownRule rule mine,
      .unknownRule rule mine, .unknownBase (.ofText "other") (.ofText "absent")] := by
    have hnamed : configuration.rulesNamed =
        [(rule, mine), (.ofText "rule-sql-cls-feature-types", mine), (rule, mine),
          (rule, mine)] := by decide +kernel
    have hmine : rule ∉ Registry.standardRules := fun hmem =>
      absurd (Registry.head?_of_mem_standardRules hmem) (by decide +kernel)
    have hsql : Name.ofText "rule-sql-cls-feature-types" ∈ Registry.standardRules :=
      List.mem_map_of_mem (by simp [Registry.standardTexts, Standard.encodingRules,
        Standard.sqlRules])
    have hunknown : (configuration.rulesNamed.filter fun (rule, _) =>
        rule ∉ Registry.standardRules) = [(rule, mine), (rule, mine), (rule, mine)] := by
      simp [hnamed, hmine, hsql]
    rw [hlisted, hunknown, ← configuration.undeclaredParents_registry,
      ← Registry.validate_eq_ok hvalid]
    rfl
  subst hfindings
  exact ⟨resolution, hload, (happlied rule mine (by simp)).2⟩

end Resolution

end EncodingPlan
