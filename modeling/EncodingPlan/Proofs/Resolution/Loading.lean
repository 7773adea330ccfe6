import EncodingPlan.Proofs.Resolution.Refusal
import Mathlib.Control.Monad.Basic

/-! What loading leaves of a configuration that is not refused. Every part of the resolution is what
a reader gathers from the sections: the shared parameters hold what the standard values, the global
sections and the targets write, in this order, and the pipeline is made of the stages that the
sections describe. -/

namespace EncodingPlan

namespace Configuration

variable (configuration : Configuration) (replacements : Replacements) (known : Implementations)

/-- The sections of global parameters, in the order in which they are written. -/
def globalSections : List ParameterValues :=
  [configuration.input.parameters, configuration.dialogParameters, configuration.logParameters]

/-- All that is written to the shared parameters. -/
def parameterWrites : List (ParameterKey × String) :=
  ParameterStore.standardValues
    ++ configuration.globalSections.flatMap (ParameterValues.writes · .global)
    ++ configuration.targets.flatMap (TargetSection.parameterWrites known)

def sharedParameters : ParameterStore :=
  ParameterStore.setAll { replacements } (configuration.parameterWrites known)

/-- What is drafted before the targets are added. -/
def opening : Draft where
  parameters := ParameterStore.setAll (Draft.start replacements).parameters
    (configuration.globalSections.flatMap (ParameterValues.writes · .global))
  vocabulary := Vocabulary.addInput ∅ configuration.input

/-- What the input and the targets for XML schemas name. -/
def vocabulary : Vocabulary :=
  (Vocabulary.addInput ∅ configuration.input).addNamespaces
    (configuration.targets.flatMap (TargetSection.activeNamespaces known))

/-- The rules that targets add and that are not known. -/
def unknownRules : Findings :=
  (Registry.standard.declareAll
    (configuration.targets.flatMap TargetSection.activeRuleSets)).2

end Configuration

namespace Resolution

/-- The resolution and the findings that loading answers. -/
structure LoadedFrom (configuration : Configuration) (replacements : Replacements)
    (known : Implementations) (resolution : Resolution) (findings : Findings) : Prop where
  registry : resolution.registry = configuration.registry.resolved
  parameters : resolution.parameters = configuration.sharedParameters replacements known
  vocabulary : resolution.vocabulary = configuration.vocabulary known
  pipeline : (configuration.plan known).assemble = .ok resolution.pipeline
  declarations : resolution.declarations = stageDeclarations configuration
  settings : ∃ settings, Settings.derive resolution.parameters
      (configuration.input.parameters.get? ParameterName.language) = .ok settings ∧
    resolution.settings =
      settings.withGmlNamespace ((resolution.vocabulary.namespaceOf? "gml").map (·.ns))
  /-- Unknown rules come before the undeclared parents of rule sets. -/
  findings : ∃ undeclaredParents, configuration.registry.validate = .ok undeclaredParents ∧
    findings = configuration.unknownRules ++ undeclaredParents

variable {configuration : Configuration} {replacements : Replacements} {known : Implementations}
  {resolution : Resolution} {findings : Findings}

/-- The draft that loading makes, and the resolution and the findings that it answers from it. -/
structure DraftedFrom (configuration : Configuration) (replacements : Replacements)
    (known : Implementations) (draft : Draft) (resolution : Resolution) (findings : Findings) :
    Prop where
  added : configuration.targets.foldlM (Draft.addTarget known)
    (configuration.opening replacements) = .ok draft
  registry : resolution.registry = draft.registry.resolved
  mappings : resolution.mappings = draft.mappings
  parameters : resolution.parameters = draft.parameters
  vocabulary : resolution.vocabulary = draft.vocabulary
  targetModes : resolution.targetModes = draft.targetModes
  pipeline : ∃ transformers,
    configuration.transformers.mapM (TransformerSection.configure known) = .ok transformers ∧
      StagePlan.assemble ⟨configuration.input.stage, transformers, draft.targets⟩ =
        .ok resolution.pipeline
  declarations : resolution.declarations = stageDeclarations configuration
  settings : ∃ settings, Settings.derive resolution.parameters
      (configuration.input.parameters.get? ParameterName.language) = .ok settings ∧
    resolution.settings =
      settings.withGmlNamespace ((resolution.vocabulary.namespaceOf? "gml").map (·.ns))
  findings : ∃ undeclaredParents, draft.registry.validate = .ok undeclaredParents ∧
    findings = draft.findings ++ undeclaredParents

theorem exists_draft_of_load
    (h : load configuration replacements known = .ok (resolution, findings)) :
    ∃ draft, DraftedFrom configuration replacements known draft resolution findings := by
  obtain ⟨draft₁, h₁, h⟩ := bind_eq_ok.mp h
  obtain ⟨draft₂, h₂, h⟩ := bind_eq_ok.mp h
  obtain ⟨draft₃, h₃, h⟩ := bind_eq_ok.mp h
  obtain ⟨draft, hdraft, h⟩ := bind_eq_ok.mp h
  obtain ⟨transformers, htransformers, h⟩ := bind_eq_ok.mp h
  obtain ⟨undeclaredParents, hvalid, h⟩ := bind_eq_ok.mp h
  obtain ⟨pipeline, hpipeline, h⟩ := bind_eq_ok.mp h
  obtain ⟨settings, hsettings, h⟩ := bind_eq_ok.mp h
  obtain ⟨rfl, rfl⟩ := Prod.mk.inj (Except.ok.inj h)
  obtain rfl := Draft.addGlobals_eq_ok h₁
  obtain rfl := Draft.addGlobals_eq_ok h₂
  obtain rfl := Draft.addGlobals_eq_ok h₃
  refine ⟨draft, ?_, rfl, rfl, rfl, rfl, rfl, ⟨transformers, htransformers, hpipeline⟩, rfl,
    ⟨settings, hsettings, rfl⟩, undeclaredParents, hvalid, rfl⟩
  rw [Configuration.opening, Configuration.globalSections]
  simp only [List.flatMap_cons, List.flatMap_nil, List.append_nil, ParameterStore.setAll_append]
  exact hdraft

theorem load_eq_ok (h : load configuration replacements known = .ok (resolution, findings)) :
    LoadedFrom configuration replacements known resolution findings := by
  obtain ⟨draft, hdrafted⟩ := exists_draft_of_load h
  obtain ⟨transformers, htransformers, hpipeline⟩ := hdrafted.pipeline
  obtain ⟨undeclaredParents, hvalid, hfindings⟩ := hdrafted.findings
  have hadds := Draft.foldlM_addTarget_adds hdrafted.added
  have hregistry : draft.registry = configuration.registry := hadds.registry
  have hplan : StagePlan.mk configuration.input.stage transformers draft.targets =
      configuration.plan known := by
    rw [TransformerSection.mapM_configure_eq_ok htransformers, hadds.targets]
    rfl
  rw [hregistry] at hvalid
  rw [hplan] at hpipeline
  refine ⟨hdrafted.registry.trans (congrArg Registry.resolved hregistry), ?_,
    hdrafted.vocabulary.trans hadds.vocabulary, hpipeline, hdrafted.declarations,
    hdrafted.settings, undeclaredParents, hvalid, ?_⟩
  · rw [hdrafted.parameters, hadds.parameters, Configuration.sharedParameters,
      Configuration.parameterWrites, ParameterStore.setAll_append, ParameterStore.setAll_append]
    rfl
  · rw [hfindings, hadds.findings]
    rfl

end Resolution

/-! ## What is loaded -/

/-- No standard rule set leads onto a loop, and none names an undeclared parent. -/
theorem Registry.validate_standard : Registry.standard.validate = .ok [] := by
  decide +kernel

theorem ParameterValues.version_passes_iff {values : ParameterValues} :
    (Check.unsupportedVersionIn values).Passes ↔ values.checkGmlVersion = .ok () := by
  have hok := (ParameterValues.checkGmlVersion_guards values).ok_iff
  rw [List.forall_mem_singleton] at hok
  exact hok.symm.trans ⟨fun ⟨_, h⟩ => h, fun h => ⟨(), h⟩⟩

theorem Check.ofStage_pass_iff {κ : Type} {known : Implementations} {role : Role} {name : String}
    {mode : Option String} {parameters : ParameterValues} {resolved : Except Problem κ}
    (h : Guards [.unknownImplementation known name, .wrongRole known role name] resolved) :
    (∀ check ∈ ofStage known role name mode parameters, check.Passes) ↔
      ((∃ kind, resolved = .ok kind) ∧ ∃ declared, Mode.declared? mode = some declared) ∧
        parameters.checkGmlVersion = .ok () := by
  have hmode := (Mode.ofDeclaration_guards mode).ok_iff
  simp only [Mode.ofDeclaration_eq_ok_iff] at hmode
  have hchecks : ofStage known role name mode parameters =
      ([unknownImplementation known name, wrongRole known role name] ++ [invalidMode mode]) ++
        [unsupportedVersionIn parameters] := rfl
  rw [hchecks, List.forall_mem_append, List.forall_mem_append, ← h.ok_iff, ← hmode,
    List.forall_mem_singleton, ParameterValues.version_passes_iff]

/-- A section describes a stage if its implementation and its mode are known. -/
private theorem isSome_stage_iff {κ μ σ : Type} {kind : Option κ} {mode : Option μ}
    {stage : κ → μ → σ} : (kind.bind fun kind => mode.map (stage kind)).isSome = true ↔
      (∃ found, kind = some found) ∧ ∃ declared, mode = some declared := by
  cases kind <;> cases mode <;> simp

theorem TargetSection.checks_pass_iff {known : Implementations} {declaration : TargetSection} :
    (∀ check ∈ declaration.checks known, check.Passes) ↔
      (declaration.target? known).isSome = true ∧
        declaration.parameters.checkGmlVersion = .ok () := by
  rw [checks, Check.ofStage_pass_iff (known.target_guards declaration.implementation), target?,
    isSome_stage_iff]
  simp only [Implementations.target_eq_ok_iff]

theorem TransformerSection.checks_pass_iff {known : Implementations}
    {declaration : TransformerSection} :
    (∀ check ∈ declaration.checks known, check.Passes) ↔
      (declaration.transformer? known).isSome = true ∧
        declaration.parameters.checkGmlVersion = .ok () := by
  rw [checks, Check.ofStage_pass_iff (known.transformer_guards declaration.implementation),
    transformer?, isSome_stage_iff]
  simp only [Implementations.transformer_eq_ok_iff]

namespace Configuration

variable {configuration : Configuration} {replacements : Replacements} {known : Implementations}

/-- Nothing stands in the way of loading. -/
structure Loadable (configuration : Configuration) (replacements : Replacements)
    (known : Implementations) : Prop where
  globals : ∀ values ∈ configuration.globalSections, values.checkGmlVersion = .ok ()
  targets : ∀ declaration ∈ configuration.targets, (declaration.target? known).isSome = true ∧
    declaration.parameters.checkGmlVersion = .ok ()
  transformers : ∀ declaration ∈ configuration.transformers,
    (declaration.transformer? known).isSome = true ∧
      declaration.parameters.checkGmlVersion = .ok ()
  registry : ∃ undeclaredParents, configuration.registry.validate = .ok undeclaredParents
  plan : (configuration.plan known).problems = []
  storedVersion : ∃ version,
    GmlVersion.parse (configuration.storedVersion replacements known) = .ok version

theorem loads_iff : (∃ loaded, Resolution.load configuration replacements known = .ok loaded) ↔
    configuration.Loadable replacements known := by
  have hregistry := configuration.coherent_registry.validate_guards.ok_iff
  have hplan : (Check.unsoundPlan (configuration.plan known)).Passes ↔
      (configuration.plan known).problems = [] := by
    rw [← List.head?_eq_none_iff, Option.eq_none_iff_forall_ne_some]
    rfl
  have hversion := (GmlVersion.parse_guards (configuration.storedVersion replacements known)).ok_iff
  rw [List.forall_mem_singleton] at hregistry hversion
  rw [(Resolution.load_guards configuration replacements known).ok_iff, allChecks, checks]
  simp only [List.forall_mem_append, List.forall_mem_flatMap, TargetSection.checks_pass_iff,
    TransformerSection.checks_pass_iff, List.mem_cons, List.not_mem_nil, or_false,
    forall_eq_or_imp, forall_eq, ParameterValues.version_passes_iff, hplan, ← hregistry, ← hversion]
  constructor
  · rintro ⟨⟨⟨⟨hglobals, htargets⟩, htransformers⟩, hvalid, hsound⟩, hstored⟩
    exact ⟨by simpa [globalSections] using hglobals, htargets, htransformers, hvalid, hsound,
      hstored⟩
  · rintro ⟨hglobals, htargets, htransformers, hvalid, hsound, hstored⟩
    exact ⟨⟨⟨⟨by simpa [globalSections] using hglobals, htargets⟩, htransformers⟩, hvalid, hsound⟩,
      hstored⟩

/-- Nothing but the registry can stand in the way of loading. -/
def SectionsLoadable (configuration : Configuration) (replacements : Replacements)
    (known : Implementations) : Prop :=
  (∀ values ∈ configuration.globalSections, values.checkGmlVersion = .ok ()) ∧
  (∀ declaration ∈ configuration.targets, (declaration.target? known).isSome = true ∧
    declaration.parameters.checkGmlVersion = .ok ()) ∧
  (∀ declaration ∈ configuration.transformers, (declaration.transformer? known).isSome = true ∧
    declaration.parameters.checkGmlVersion = .ok ()) ∧
  (configuration.plan known).problems = [] ∧
  (GmlVersion.parse (configuration.storedVersion replacements known)).isOk = true

instance : Decidable (configuration.SectionsLoadable replacements known) :=
  inferInstanceAs (Decidable (_ ∧ _))

theorem SectionsLoadable.exists_load (h : configuration.SectionsLoadable replacements known)
    {undeclaredParents : Findings}
    (hvalid : configuration.registry.validate = .ok undeclaredParents) :
    ∃ resolution findings,
      Resolution.load configuration replacements known = .ok (resolution, findings) := by
  obtain ⟨hglobals, htargets, htransformers, hplan, hversion⟩ := h
  have hparse : ∃ version,
      GmlVersion.parse (configuration.storedVersion replacements known) = .ok version := by
    cases hraw : GmlVersion.parse (configuration.storedVersion replacements known) with
    | ok version => exact ⟨version, rfl⟩
    | error problem =>
      rw [hraw] at hversion
      cases hversion
  obtain ⟨⟨resolution, findings⟩, hload⟩ :=
    loads_iff.mpr ⟨hglobals, htargets, htransformers, ⟨_, hvalid⟩, hplan, hparse⟩
  exact ⟨resolution, findings, hload⟩

/-- Nothing stands in the way of loading, and the standard rule sets are all there are. Unlike the
check of the registry, this is quickly evaluated. -/
def StandardLoadable (configuration : Configuration) (replacements : Replacements)
    (known : Implementations) : Prop :=
  configuration.targets.flatMap TargetSection.activeRuleSets = [] ∧
    configuration.SectionsLoadable replacements known

instance : Decidable (configuration.StandardLoadable replacements known) :=
  inferInstanceAs (Decidable (_ ∧ _))

theorem StandardLoadable.exists_load (h : configuration.StandardLoadable replacements known) :
    ∃ resolution findings,
      Resolution.load configuration replacements known = .ok (resolution, findings) := by
  obtain ⟨hrules, hsections⟩ := h
  have hregistry : configuration.registry.validate = .ok [] := by
    rw [registry, hrules]
    exact Registry.validate_standard
  exact hsections.exists_load hregistry

variable (configuration replacements known) in
theorem value?_sharedParameters_xmlSchemaVersion :
    ParameterSource.value? (configuration.sharedParameters replacements known) .xmlSchemaVersion =
      some (configuration.storedVersion replacements known) := by
  rw [← configuration.value?_storedVersion replacements known configuration.input.parameters
    configuration.dialogParameters configuration.logParameters]
  simp only [sharedParameters, parameterWrites, globalSections, List.flatMap_cons,
    List.flatMap_nil, List.append_nil, ParameterStore.setAll_append]
  rfl

/-- What the shared parameters answer. -/
theorem value?_sharedParameters (key : ParameterKey) :
    ParameterSource.value? (configuration.sharedParameters replacements known) key =
      (ParameterStore.valuesFor key (configuration.parameterWrites known)).getLast?.map
        replacements.apply := by
  rw [sharedParameters, ParameterStore.value?_setAll, ParameterStore.value?_unwritten]
  cases (ParameterStore.valuesFor key (configuration.parameterWrites known)).getLast? <;> rfl

end Configuration

end EncodingPlan
