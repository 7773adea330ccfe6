import EncodingPlan.Proofs.Resolution.UnreadParts
import EncodingPlan.Proofs.RuleSet.Declarations

/-! The rule sets of a resolution. Loading declares those of the targets that run on top of the
standard ones, in the order of the targets and of their declarations. Declarations of one set add
their rules up, however they spell its name, and the last of them gives its parent. -/

namespace EncodingPlan

namespace Registry

variable {registry : Registry} {name : RuleSetName} {rule : RuleName}
  {declarations : List (String × RuleSetDeclaration)} {declaration : RuleSetDeclaration}

/-- The declarations of one set. Names are compared in normal form. -/
def declarationsOf (name : RuleSetName) (declarations : List (String × RuleSetDeclaration)) :
    List RuleSetDeclaration :=
  declarations.filterMap fun (written, declaration) =>
    if Name.ofText written = name then some declaration else none

/-- What is done to the registry for a declaration. -/
def declaring : String × RuleSetDeclaration → Operation
  | (written, declaration) =>
    .declareRuleSet (.ofText written) (declaration.parent.map .ofText)
      (declaration.additionalRules.map .ofText)

theorem declareAll_eq_run : (registry.declareAll declarations).1 =
    (declarations.map declaring).foldl Operation.apply registry := by
  rw [declareAll_fst, List.foldl_map]
  rfl

theorem mem_declarationsOf : declaration ∈ declarationsOf name declarations ↔
    ∃ written, (written, declaration) ∈ declarations ∧ Name.ofText written = name := by
  simp [declarationsOf]

theorem exists_declaring_iff {P : Operation → Prop} :
    (∃ op ∈ declarations.map declaring, op.subject? = some name ∧ P op) ↔
      ∃ declaration ∈ declarationsOf name declarations,
        P (.declareRuleSet name (declaration.parent.map .ofText)
          (declaration.additionalRules.map .ofText)) := by
  simp only [List.mem_map, mem_declarationsOf]
  constructor
  · rintro ⟨_, ⟨⟨written, declaration⟩, hmem, rfl⟩, hsubject, hop⟩
    obtain rfl := Option.some.inj hsubject
    exact ⟨declaration, ⟨written, hmem, rfl⟩, hop⟩
  · rintro ⟨declaration, ⟨written, hmem, rfl⟩, hop⟩
    exact ⟨_, ⟨_, hmem, rfl⟩, rfl, hop⟩

theorem exists_subject?_iff : (∃ op ∈ declarations.map declaring, op.subject? = some name) ↔
    declarationsOf name declarations ≠ [] := by
  have h : (∃ op ∈ declarations.map declaring, op.subject? = some name ∧ True) ↔
      ∃ declaration ∈ declarationsOf name declarations, True := exists_declaring_iff
  simpa [List.eq_nil_iff_forall_not_mem] using h

/-! ## What declarations leave -/

theorem rules_declareAll : (registry.declareAll declarations).1.rules = registry.rules := by
  rw [declareAll_fst]
  exact List.foldlRecOn declarations _
    (motive := fun declared : Registry => declared.rules = registry.rules) rfl
    fun _ hfold _ _ => hfold

theorem hasRuleSet_declareAll : (registry.declareAll declarations).1.hasRuleSet name = true ↔
    registry.hasRuleSet name = true ∨ declarationsOf name declarations ≠ [] := by
  rw [declareAll_eq_run, hasRuleSet_run, exists_subject?_iff]

theorem grants_declareAll : (registry.declareAll declarations).1.Grants name rule ↔
    registry.Grants name rule ∨ ∃ declaration ∈ declarationsOf name declarations,
      rule ∈ declaration.additionalRules.map Name.ofText := by
  rw [declareAll_eq_run, grants_run, exists_declaring_iff]
  rfl

theorem parentsNamed_declaring : Operation.parentsNamed name (declarations.map declaring) =
    (declarationsOf name declarations).map (·.parent.map .ofText) := by
  rw [Operation.parentsNamed, List.filterMap_map, declarationsOf, List.map_filterMap]
  refine List.filterMap_congr fun entry _ => ?_
  obtain ⟨written, declaration⟩ := entry
  by_cases hname : Name.ofText written = name
  · simp only [Function.comp_apply, declaring, Operation.parentNamed?, hname, if_true,
      Option.map_some]
  · simp only [Function.comp_apply, declaring, Operation.parentNamed?, hname, if_false,
      Option.map_none]

theorem parent?_declareAll : (registry.declareAll declarations).1.parent? name =
    match (declarationsOf name declarations).getLast? with
    | some declaration => parentFor name (declaration.parent.map .ofText)
    | none => registry.parent? name := by
  rw [declareAll_eq_run, parent?_run, parentsNamed_declaring, List.getLast?_map]
  simp only [exists_subject?_iff]
  cases hlast : (declarationsOf name declarations).getLast? with
  | some declaration => rfl
  | none => simp [List.getLast?_eq_none_iff.mp hlast]

end Registry

/-! ## The rule sets of a resolution -/

/-- The declarations of one set by the targets that run, in the order in which they are made. -/
def Configuration.declarationsOf (configuration : Configuration) (name : RuleSetName) :
    List RuleSetDeclaration :=
  Registry.declarationsOf name (configuration.targets.flatMap TargetSection.activeRuleSets)

namespace Resolution

/-- The rules and rule sets are the standard ones and what the targets that run add to them. -/
structure RuleSetsFrom (configuration : Configuration) (registry : Registry) : Prop where
  rules : registry.rules = Registry.standard.rules
  declared : ∀ name, registry.hasRuleSet name = true ↔
    Registry.standard.hasRuleSet name = true ∨ configuration.declarationsOf name ≠ []
  granted : ∀ name rule, registry.Grants name rule ↔
    Registry.standard.Grants name rule ∨
      ∃ declaration ∈ configuration.declarationsOf name,
        rule ∈ declaration.additionalRules.map Name.ofText
  /-- The last declaration decides; one that extends nothing extends the root. -/
  parent : ∀ name, registry.parent? name =
    match (configuration.declarationsOf name).getLast? with
    | some declaration =>
      if name = .root then none
      else some ((declaration.parent.map Name.ofText).getD RuleSetName.root)
    | none => Registry.standard.parent? name

/-- Both answer every question about rules, rule sets and mappings alike. -/
structure AnswersAlike (resolution other : Resolution) : Prop where
  hasRule : ∀ rule, resolution.registry.hasRule rule = other.registry.hasRule rule
  appliesUnder : ∀ rule name,
    resolution.registry.appliesUnder rule name = other.registry.appliesUnder rule name
  isUnder : ∀ name base, resolution.registry.isUnder name base = other.registry.isUnder name base
  mapping : ∀ kind key, resolution.mapping? kind key = other.mapping? kind key
  targetMapping : ∀ target key,
    resolution.targetMapping? target key = other.targetMapping? target key

theorem AnswersAlike.of_eq {resolution other : Resolution}
    (hregistry : resolution.registry = other.registry)
    (hmappings : resolution.mappings = other.mappings) : resolution.AnswersAlike other where
  hasRule _ := by rw [hregistry]
  appliesUnder _ _ := by rw [hregistry]
  isUnder _ _ := by rw [hregistry]
  mapping _ _ := by rw [mapping?, mapping?, hregistry, hmappings]
  targetMapping _ _ := by rw [targetMapping?, targetMapping?, hregistry, hmappings]

variable {configuration : Configuration} {replacements : Replacements} {known : Implementations}
  {resolution : Resolution} {findings : Findings}

theorem ruleSetsFrom_registry (configuration : Configuration) :
    RuleSetsFrom configuration configuration.registry where
  rules := Registry.rules_declareAll
  declared _ := Registry.hasRuleSet_declareAll
  granted _ _ := Registry.grants_declareAll
  parent name := by
    rw [Configuration.registry, Registry.parent?_declareAll, Configuration.declarationsOf]
    simp only [Registry.parentFor_eq]

/-- A resolution has the standard rules and rule sets, together with what the targets that run
declare. What transformers and idle targets declare can be exchanged without a difference to any
answer. -/
theorem ruleSets_of_load (h : load configuration replacements known = .ok (resolution, findings)) :
    RuleSetsFrom configuration resolution.registry ∧
      ∀ other : Configuration, other.withoutIdleRuleSets = configuration.withoutIdleRuleSets →
        ∃ resolution', load other replacements known = .ok (resolution', findings) ∧
          resolution'.AnswersAlike resolution := by
  constructor
  · rw [(load_eq_ok h).registry]
    -- asking for the chains changes neither the rules nor the declarations
    obtain ⟨hrules, hdeclared, hgranted, hparent⟩ := ruleSetsFrom_registry configuration
    exact ⟨hrules, hdeclared, hgranted, hparent⟩
  · intro other hsame
    obtain ⟨resolution', hload, halike⟩ := exists_load_of_withoutIdleRuleSets_eq hsame h
    exact ⟨resolution', hload, .of_eq (congrArg Resolution.registry halike :)
      (congrArg Resolution.mappings halike :)⟩

/-- Two targets that run declare one set in two spellings, and the second one also the root. Sets of
a transformer and of a target that does not run can be left out. -/
theorem ruleSets_of_two_declarations :
    let known : Implementations := .ofList [("Schema", .target .xmlSchema),
      ("Table", .target .sqlDdl), ("Change", .transformer .flattener)]
    let configuration : Configuration := {
      transformers := [
        { id := "t", implementation := "Change",
          ruleSets := .ofList [("mine", { additionalRules := ["rule-a"] })] }]
      targets := [
        { implementation := "Schema",
          ruleSets := .ofList
            [("Mine", { parent := some "gml21", additionalRules := ["rule-b"] })] },
        { implementation := "Schema", mode := some "disabled",
          ruleSets := .ofList [("mine", { parent := some "sql" })] },
        { implementation := "Table",
          ruleSets := .ofList
            [(" MINE ", { additionalRules := ["rule-c"] }), ("*", { parent := some "mine" })] }] }
    let mine : RuleSetName := .ofText "mine"
    ∃ resolution findings, load configuration ∅ known = .ok (resolution, findings) ∧
      resolution.registry.Grants mine (.ofText "rule-b") ∧
      resolution.registry.Grants mine (.ofText "rule-c") ∧
      resolution.registry.parent? mine = some .root ∧
      resolution.registry.parent? .root = none ∧
      ∃ resolution', load configuration.withoutIdleRuleSets ∅ known =
        .ok (resolution', findings) ∧ resolution'.AnswersAlike resolution := by
  intro known configuration mine
  have hvalid : configuration.registry.validate = .ok [] := by decide +kernel
  obtain ⟨hglobals, htargets, htransformers, hplan, hversion⟩ :
      (∀ values ∈ configuration.globalSections, values.checkGmlVersion = .ok ()) ∧
      (∀ declaration ∈ configuration.targets, (declaration.target? known).isSome = true ∧
        declaration.parameters.checkGmlVersion = .ok ()) ∧
      (∀ declaration ∈ configuration.transformers,
        (declaration.transformer? known).isSome = true ∧
          declaration.parameters.checkGmlVersion = .ok ()) ∧
      (configuration.plan known).problems = [] ∧
      GmlVersion.parse (configuration.storedVersion ∅ known) = .ok .v32 := by
    decide +kernel
  obtain ⟨⟨resolution, findings⟩, hload⟩ := Configuration.loads_iff.mpr
    ⟨hglobals, htargets, htransformers, ⟨_, hvalid⟩, hplan, _, hversion⟩
  obtain ⟨hsets, hidle⟩ := ruleSets_of_load hload
  have hmine : configuration.declarationsOf mine =
      [{ parent := some "gml21", additionalRules := ["rule-b"] },
        { additionalRules := ["rule-c"] }] := by decide +kernel
  have hroot : configuration.declarationsOf .root = [{ parent := some "mine" }] := by
    decide +kernel
  refine ⟨resolution, findings, hload, (hsets.granted _ _).mpr (.inr ?_),
    (hsets.granted _ _).mpr (.inr ?_), ?_, ?_, hidle _ (by decide +kernel)⟩
  · simp [hmine]
  · simp [hmine]
  · rw [hsets.parent, hmine]
    exact if_neg (by decide)
  · rw [hsets.parent, hroot]
    exact if_pos rfl

end Resolution

end EncodingPlan
