import EncodingPlan.Proofs.Resolution.Layers

/-! Replacing values while loading, compared with replacing them before. Values that are written to
parameters pass through the replacements on their way. Two things are read as they are given: the
versions of GML that sections ask for, and the language of the input section. A configuration for
which neither of them is changed by the replacements is loaded as if its values had been replaced
before, and among the configurations that are loaded there are no others. -/

namespace EncodingPlan

/-! ## Configurations with replaced values -/

/-- Passes every value once through the replacements. -/
def ParameterValues.replaced (values : ParameterValues) (replacements : Replacements) :
    ParameterValues :=
  values.mapWithKey fun _ => replacements.apply

def StageDeclaration.replaced (declaration : StageDeclaration) (replacements : Replacements) :
    StageDeclaration :=
  { declaration with parameters := declaration.parameters.replaced replacements }

namespace Configuration

variable (configuration : Configuration) (replacements : Replacements)

/-- Passes every parameter value of every section once through the replacements. -/
def replaced : Configuration where
  input := { configuration.input with
    parameters := configuration.input.parameters.replaced replacements }
  dialogParameters := configuration.dialogParameters.replaced replacements
  logParameters := configuration.logParameters.replaced replacements
  transformers := configuration.transformers.map fun t =>
    { t with parameters := t.parameters.replaced replacements }
  targets := configuration.targets.map fun t =>
    { t with parameters := t.parameters.replaced replacements }

/-- The parameters of all sections. -/
def parameterSections : List ParameterValues :=
  configuration.globalSections ++ configuration.targets.map TargetSection.parameters
    ++ configuration.transformers.map TransformerSection.parameters

/-- Where loading reads values as they are given, replacing them before makes no difference. -/
structure UnmovedBy (configuration : Configuration) (replacements : Replacements) : Prop where
  versions : ∀ values ∈ configuration.parameterSections,
    (values.replaced replacements).checkGmlVersion = values.checkGmlVersion
  language : Settings.languageOf
      ((configuration.input.parameters.replaced replacements).get? ParameterName.language) =
    Settings.languageOf (configuration.input.parameters.get? ParameterName.language)

end Configuration

namespace Resolution

/-- The resolutions have the same stages, and whatever is read of parameters is the same. -/
structure AgreesWith (resolution resolution' : Resolution) : Prop where
  pipeline : resolution.pipeline = resolution'.pipeline
  parameters : ParameterSource.ReadAlike resolution.parameters resolution'.parameters
  views : ∀ stage, Option.Rel
    (fun view view' : StageView => ParameterSource.ReadAlike view.parameters view'.parameters)
    (resolution.view? stage) (resolution'.view? stage)
  settings : resolution.settings = resolution'.settings

/-- Both are refused for the same problem, or both are loaded, with the same findings and with
resolutions that agree. -/
inductive LoadAlike : Except Problem (Resolution × Findings) →
    Except Problem (Resolution × Findings) → Prop where
  | refused (problem : Problem) : LoadAlike (.error problem) (.error problem)
  | loaded {resolution resolution' : Resolution} (findings : Findings) :
    resolution.AgreesWith resolution' →
      LoadAlike (.ok (resolution, findings)) (.ok (resolution', findings))

end Resolution

/-! ## What is written -/

/-- Replaces the values of writes. -/
def Replacements.applyAll (replacements : Replacements) (writes : List (ParameterKey × String)) :
    List (ParameterKey × String) :=
  writes.map fun (key, value) => (key, replacements.apply value)

namespace Replacements

variable (replacements : Replacements)

theorem applyAll_append (writes more : List (ParameterKey × String)) :
    replacements.applyAll (writes ++ more) =
      replacements.applyAll writes ++ replacements.applyAll more :=
  List.map_append

theorem applyAll_flatMap {α : Type} (sources : List α) (f : α → List (ParameterKey × String)) :
    replacements.applyAll (sources.flatMap f) =
      sources.flatMap fun source => replacements.applyAll (f source) :=
  List.map_flatMap

end Replacements

theorem ParameterValues.writes_replaced (values : ParameterValues) (replacements : Replacements)
    (keyOf : String → ParameterKey) :
    (values.replaced replacements).writes keyOf = replacements.applyAll (values.writes keyOf) := by
  simp [writes, replaced, Dict.mapWithKey, Replacements.applyAll, Function.comp_def]

theorem TargetSection.parameterWrites_replaced (known : Implementations)
    (declaration : TargetSection) (replacements : Replacements) :
    parameterWrites known
        { declaration with parameters := declaration.parameters.replaced replacements } =
      replacements.applyAll (declaration.parameterWrites known) := by
  rw [parameterWrites, parameterWrites]
  cases known.target? declaration.implementation with
  | none => rfl
  | some kind => exact ParameterValues.writes_replaced _ _ _

theorem StageView.ownValues_replaced (resolution resolution' : Resolution) (stage : Stage)
    (declaration : StageDeclaration) (replacements : Replacements) :
    ownValues ⟨resolution', stage, declaration.replaced replacements⟩ =
      replacements.applyAll (ownValues ⟨resolution, stage, declaration⟩) := by
  rw [ownValues_eq, ownValues_eq, StageDeclaration.replaced, ParameterValues.writes_replaced,
    ParameterValues.replaced, Dict.get?_mapWithKey, Replacements.applyAll_append]
  refine congrArg₂ (· ++ ·) rfl ?_
  split
  · cases declaration.parameters.get? ParameterName.defaultEncodingRule <;> rfl
  · rfl

/-- The check looks at the version of GML only. -/
theorem Check.unsupportedVersionIn_congr {values values' : ParameterValues}
    (h : values.checkGmlVersion = values'.checkGmlVersion) :
    unsupportedVersionIn values = unsupportedVersionIn values' := by
  funext problem
  have hguards := values.checkGmlVersion_guards problem
  have hguards' := values'.checkGmlVersion_guards problem
  rw [FirstFailure.singleton_iff] at hguards hguards'
  rw [h] at hguards
  exact propext (hguards.symm.trans hguards')

namespace Configuration

variable {configuration : Configuration} {replacements : Replacements} {known : Implementations}

theorem plan_replaced :
    (configuration.replaced replacements).plan known = configuration.plan known := by
  rw [plan, plan, replaced, List.filterMap_map, List.filterMap_map]
  rfl

theorem registry_replaced :
    (configuration.replaced replacements).registry = configuration.registry := by
  rw [registry, registry, replaced, List.flatMap_map]
  rfl

theorem vocabulary_replaced :
    (configuration.replaced replacements).vocabulary known = configuration.vocabulary known := by
  rw [vocabulary, vocabulary, replaced, List.flatMap_map]
  rfl

theorem unknownRules_replaced :
    (configuration.replaced replacements).unknownRules = configuration.unknownRules := by
  rw [unknownRules, unknownRules, replaced, List.flatMap_map]
  rfl

theorem stageDeclarations_replaced :
    Resolution.stageDeclarations (configuration.replaced replacements) =
      (Resolution.stageDeclarations configuration).map (·.replaced replacements) := by
  rw [Resolution.stageDeclarations, Resolution.stageDeclarations, replaced, List.map_append,
    List.map_cons, List.map_map, List.map_map, List.map_map, List.map_map]
  rfl

section
variable (hstandard : ∀ entry ∈ ParameterStore.standardValues, replacements.get? entry.2 = none)
include hstandard

/-- A standard value that is no token is not changed. -/
theorem applyAll_standardValues :
    replacements.applyAll ParameterStore.standardValues = ParameterStore.standardValues := by
  refine (List.map_congr_left fun entry hentry => ?_).trans (List.map_id _)
  have happly : replacements.apply entry.2 = entry.2 := by
    rw [Replacements.apply, hstandard entry hentry]
    rfl
  exact congrArg (Prod.mk entry.1) happly

theorem parameterWrites_replaced : (configuration.replaced replacements).parameterWrites known =
    replacements.applyAll (configuration.parameterWrites known) := by
  have hglobals : (configuration.replaced replacements).globalSections =
      configuration.globalSections.map (·.replaced replacements) := rfl
  rw [parameterWrites, parameterWrites, hglobals, replaced, List.flatMap_map, List.flatMap_map,
    Replacements.applyAll_append, Replacements.applyAll_append, Replacements.applyAll_flatMap,
    Replacements.applyAll_flatMap, applyAll_standardValues hstandard]
  simp only [ParameterValues.writes_replaced, TargetSection.parameterWrites_replaced]

/-- The shared parameters hold the same, whether values are replaced before or while they are
written. -/
theorem value?_sharedParameters_replaced (key : ParameterKey) :
    ParameterSource.value?
        ((configuration.replaced replacements).sharedParameters ∅ known) key =
      ParameterSource.value? (configuration.sharedParameters replacements known) key := by
  rw [value?_sharedParameters, value?_sharedParameters, parameterWrites_replaced hstandard,
    Replacements.applyAll, ParameterStore.valuesFor_map, List.getLast?_map, Option.map_map]
  rfl

theorem storedVersion_replaced : (configuration.replaced replacements).storedVersion ∅ known =
    configuration.storedVersion replacements known := by
  have hvalue : ParameterSource.value?
        ((configuration.replaced replacements).sharedParameters ∅ known) .xmlSchemaVersion =
      ParameterSource.value? (configuration.sharedParameters replacements known)
        .xmlSchemaVersion := value?_sharedParameters_replaced hstandard _
  rw [value?_sharedParameters_xmlSchemaVersion, value?_sharedParameters_xmlSchemaVersion] at hvalue
  exact Option.some.inj hvalue

/-- The same is checked before and after the values are replaced. -/
theorem UnmovedBy.allChecks_replaced (h : configuration.UnmovedBy replacements) :
    (configuration.replaced replacements).allChecks ∅ known =
      configuration.allChecks replacements known := by
  have hversion (values : ParameterValues) (hmem : values ∈ configuration.parameterSections) :
      Check.unsupportedVersionIn (values.replaced replacements) =
        Check.unsupportedVersionIn values :=
    Check.unsupportedVersionIn_congr (h.versions values hmem)
  have htargets : (configuration.replaced replacements).targets.flatMap (TargetSection.checks known) =
      configuration.targets.flatMap (TargetSection.checks known) := by
    rw [replaced, List.flatMap_map]
    refine List.flatMap_congr fun t ht => ?_
    rw [TargetSection.checks, TargetSection.checks, Check.ofStage, Check.ofStage, hversion _ ?_]
    exact List.mem_append_left _ (List.mem_append_right _ (List.mem_map_of_mem ht))
  have htransformers :
      (configuration.replaced replacements).transformers.flatMap (TransformerSection.checks known) =
        configuration.transformers.flatMap (TransformerSection.checks known) := by
    rw [replaced, List.flatMap_map]
    refine List.flatMap_congr fun t ht => ?_
    rw [TransformerSection.checks, TransformerSection.checks, Check.ofStage, Check.ofStage,
      hversion _ ?_]
    exact List.mem_append_right _ (List.mem_map_of_mem ht)
  have hinput := hversion configuration.input.parameters
    (by simp [parameterSections, globalSections])
  have hdialog := hversion configuration.dialogParameters
    (by simp [parameterSections, globalSections])
  have hlog := hversion configuration.logParameters (by simp [parameterSections, globalSections])
  rw [allChecks, allChecks, checks, checks, htargets, htransformers, registry_replaced,
    plan_replaced, storedVersion_replaced hstandard, ← hinput, ← hdialog, ← hlog]
  rfl

end

theorem parameterSections_replaced : (configuration.replaced replacements).parameterSections =
    configuration.parameterSections.map (·.replaced replacements) := by
  rw [parameterSections, parameterSections, List.map_append, List.map_append, replaced,
    List.map_map, List.map_map, List.map_map, List.map_map]
  rfl

theorem Loadable.versions (h : configuration.Loadable replacements known) :
    ∀ values ∈ configuration.parameterSections, values.checkGmlVersion = .ok () := by
  intro values hmem
  rcases List.mem_append.mp hmem with hmem | hmem
  · rcases List.mem_append.mp hmem with hmem | hmem
    · exact h.globals values hmem
    · obtain ⟨declaration, hdeclaration, rfl⟩ := List.mem_map.mp hmem
      exact (h.targets declaration hdeclaration).2
  · obtain ⟨declaration, hdeclaration, rfl⟩ := List.mem_map.mp hmem
    exact (h.transformers declaration hdeclaration).2

end Configuration

/-! ## Settings -/

namespace Settings

theorem derive_congr {parameters parameters' : ParameterStore} {language language' : Option String}
    (h : ∀ key, ParameterSource.value? parameters key = ParameterSource.value? parameters' key)
    (hlanguage : languageOf language = languageOf language') :
    derive parameters language = derive parameters' language' := by
  have hget (name : String) :
      ParameterSource.get? parameters name = ParameterSource.get? parameters' name := h _
  have hversion : gmlVersionOf parameters = gmlVersionOf parameters' := by
    rw [gmlVersionOf, gmlVersionOf, ParameterSource.getScoped?, ParameterSource.getScoped?, h]
  simp only [derive, hget, hversion, hlanguage]

end Settings

namespace Resolution

variable {configuration : Configuration} {replacements : Replacements} {known : Implementations}
  {resolution resolution' : Resolution} {findings findings' : Findings}

theorem language_of_load (h : load configuration replacements known = .ok (resolution, findings)) :
    resolution.settings.language =
      Settings.languageOf (configuration.input.parameters.get? ParameterName.language) := by
  obtain ⟨settings, hsettings, heq⟩ := (load_eq_ok h).settings
  obtain ⟨version, _, hderived⟩ := bind_eq_ok.mp hsettings
  rw [heq, ← Except.ok.inj hderived]
  rfl

section
variable (hstandard : ∀ entry ∈ ParameterStore.standardValues, replacements.get? entry.2 = none)
  (h : load configuration replacements known = .ok (resolution, findings))
  (h' : load (configuration.replaced replacements) ∅ known = .ok (resolution', findings'))
include hstandard h h'

theorem value?_parameters_of_loads (key : ParameterKey) :
    ParameterSource.value? resolution.parameters key =
      ParameterSource.value? resolution'.parameters key := by
  rw [(load_eq_ok h).parameters, (load_eq_ok h').parameters,
    Configuration.value?_sharedParameters_replaced hstandard]

omit hstandard in
theorem pipeline_of_loads : resolution.pipeline = resolution'.pipeline := by
  have hpipeline := (load_eq_ok h).pipeline
  have hpipeline' := (load_eq_ok h').pipeline
  rw [Configuration.plan_replaced, hpipeline] at hpipeline'
  exact Except.ok.inj hpipeline'

theorem readAlike_views_of_loads (stage : Stage) : Option.Rel
    (fun view view' : StageView => ParameterSource.ReadAlike view.parameters view'.parameters)
    (resolution.view? stage) (resolution'.view? stage) := by
  have hpipeline := pipeline_of_loads h h'
  by_cases hmem : stage ∈ resolution.pipeline.stages
  · obtain ⟨position, hstage⟩ := List.mem_iff_getElem?.mp hmem
    obtain ⟨declaration, hdeclaration, hview⟩ := view?_of_load h hstage
    obtain ⟨declaration', hdeclaration', hview'⟩ := view?_of_load h' (hpipeline ▸ hstage)
    rw [Configuration.stageDeclarations_replaced, List.getElem?_map, hdeclaration] at hdeclaration'
    obtain rfl := Option.some.inj hdeclaration'
    rw [hview, hview']
    refine .some (.of_value? fun key => ?_)
    rw [StageView.value?_parameters, StageView.value?_parameters, replacements_of_load h,
      replacements_of_load h', StageView.ownValues_replaced resolution, Replacements.applyAll,
      ParameterStore.valuesFor_map, List.getLast?_map, Option.map_map,
      value?_parameters_of_loads hstandard h h']
    rfl
  · rw [view?_eq_none hmem, view?_eq_none (hpipeline ▸ hmem)]
    exact .none

theorem agreesWith_of_loads
    (hlanguage : resolution.settings.language = resolution'.settings.language) :
    resolution.AgreesWith resolution' where
  pipeline := pipeline_of_loads h h'
  parameters := .of_value? (value?_parameters_of_loads hstandard h h')
  views := readAlike_views_of_loads hstandard h h'
  settings := by
    rw [language_of_load h, language_of_load h'] at hlanguage
    obtain ⟨settings, hsettings, heq⟩ := (load_eq_ok h).settings
    obtain ⟨settings', hsettings', heq'⟩ := (load_eq_ok h').settings
    rw [Settings.derive_congr (value?_parameters_of_loads hstandard h h') hlanguage, hsettings',
      Except.ok.injEq] at hsettings
    rw [heq, heq', (load_eq_ok h).vocabulary, (load_eq_ok h').vocabulary,
      Configuration.vocabulary_replaced, hsettings]

omit hstandard in
theorem findings_of_loads : findings = findings' := by
  obtain ⟨undeclared, hvalid, hfindings⟩ := (load_eq_ok h).findings
  obtain ⟨undeclared', hvalid', hfindings'⟩ := (load_eq_ok h').findings
  rw [Configuration.registry_replaced, hvalid, Except.ok.injEq] at hvalid'
  rw [hfindings, hfindings', Configuration.unknownRules_replaced, hvalid']

end

/-- Replacing values while loading and replacing them before are the same, if the replacements move
neither a version of GML nor the language. Of the configurations that are loaded, the two are the
same for no others. -/
theorem load_replaced_iff
    (hstandard : ∀ entry ∈ ParameterStore.standardValues, replacements.get? entry.2 = none) :
    (configuration.UnmovedBy replacements →
      LoadAlike (load configuration replacements known)
        (load (configuration.replaced replacements) ∅ known)) ∧
    ∀ loaded, load configuration replacements known = .ok loaded →
      LoadAlike (load configuration replacements known)
        (load (configuration.replaced replacements) ∅ known) →
      configuration.UnmovedBy replacements := by
  have hguards := load_guards configuration replacements known
  have hguards' := load_guards (configuration.replaced replacements) ∅ known
  refine ⟨fun hunmoved => ?_, fun loaded hload halike => ?_⟩
  · -- both make the same checks, so that both are refused for the same problem or for none
    rw [hunmoved.allChecks_replaced hstandard] at hguards'
    cases hload : load configuration replacements known with
    | error problem =>
      rw [(hguards' problem).mpr ((hguards problem).mp hload)]
      exact .refused problem
    | ok loaded =>
      obtain ⟨loaded', hload'⟩ := hguards'.ok_iff.mpr (hguards.ok_iff.mp ⟨loaded, hload⟩)
      have hlanguage : loaded.1.settings.language = loaded'.1.settings.language := by
        rw [language_of_load hload, language_of_load hload']
        exact hunmoved.language.symm
      have hagrees := agreesWith_of_loads hstandard hload hload' hlanguage
      have hfindings : loaded.2 = loaded'.2 := findings_of_loads hload hload'
      rw [hload', ← Prod.mk.eta (p := loaded'), ← hfindings]
      exact .loaded loaded.2 hagrees
  · rw [hload] at halike
    cases hload' : load (configuration.replaced replacements) ∅ known with
    | error problem =>
      rw [hload'] at halike
      cases halike
    | ok loaded' =>
      rw [hload'] at halike
      -- whatever was loaded has passed the checks of its versions, as given and replaced
      have hversions := (Configuration.loads_iff.mp ⟨loaded, hload⟩).versions
      have hversions' := (Configuration.loads_iff.mp ⟨loaded', hload'⟩).versions
      refine ⟨fun values hmem => ?_, ?_⟩
      · rw [hversions values hmem]
        refine hversions' _ ?_
        rw [Configuration.parameterSections_replaced]
        exact List.mem_map_of_mem hmem
      · cases halike with
        | loaded findings hagrees =>
          have hlanguage := language_of_load hload'
          rw [← hagrees.settings, language_of_load hload] at hlanguage
          exact hlanguage.symm

/-- The target writes to a directory that a token stands for. -/
theorem load_replaced_of_directory_token :
    let known : Implementations := .ofList [("XmlSchema", .target .xmlSchema)]
    let replacements : Replacements := .ofList [("$out$", "xsd"), ("xsd", "elsewhere")]
    let configuration : Configuration := {
      input := { parameters := .ofList [("language", "DE")] }
      targets := [{
        implementation := "XmlSchema"
        parameters := .ofList [("outputDirectory", "$out$"), ("gmlVersion", "3.1")] }] }
    (∀ entry ∈ ParameterStore.standardValues, replacements.get? entry.2 = none) ∧
      (∃ loaded, load configuration replacements known = .ok loaded) ∧
      LoadAlike (load configuration replacements known)
        (load (configuration.replaced replacements) ∅ known) := by
  intro known replacements configuration
  have hstandard : ∀ entry ∈ ParameterStore.standardValues, replacements.get? entry.2 = none := by
    decide +kernel
  have hloads : configuration.StandardLoadable replacements known := by decide +kernel
  obtain ⟨resolution, findings, hload⟩ := hloads.exists_load
  have hunmoved : configuration.UnmovedBy replacements := {
    versions := by decide +kernel
    language := by decide +kernel }
  exact ⟨hstandard, ⟨_, hload⟩, (load_replaced_iff hstandard).1 hunmoved⟩

/-- The language of the input is read as it is given, and so is not the one that its token stands
for. -/
theorem not_load_replaced_of_language_token :
    let replacements : Replacements := .ofList [("$l$", "DE")]
    let configuration : Configuration := {
      input := { parameters := .ofList [("language", "$l$")] }
      targets := [{ implementation := "XmlSchema" }] }
    (∀ entry ∈ ParameterStore.standardValues, replacements.get? entry.2 = none) ∧
      ∃ resolution resolution' findings findings',
        load configuration replacements .builtIn = .ok (resolution, findings) ∧
        load (configuration.replaced replacements) ∅ .builtIn = .ok (resolution', findings') ∧
        resolution.settings.language = "$l$" ∧ resolution'.settings.language = "de" := by
  intro replacements configuration
  obtain ⟨hloads, hloads'⟩ : configuration.StandardLoadable replacements .builtIn ∧
      (configuration.replaced replacements).StandardLoadable ∅ .builtIn := by decide +kernel
  obtain ⟨resolution, findings, hload⟩ := hloads.exists_load
  obtain ⟨resolution', findings', hload'⟩ := hloads'.exists_load
  refine ⟨by decide +kernel, resolution, resolution', findings, findings', hload, hload', ?_, ?_⟩
  · rw [language_of_load hload]
    decide +kernel
  · rw [language_of_load hload']
    decide +kernel

end Resolution

end EncodingPlan
