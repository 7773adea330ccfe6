import EncodingPlan.Proofs.Resolution.Layers

/-! What the parameters of one stage change for the other ones. Two configurations that differ only
in the parameters of one section are compared by the views of the other stages. Transformers keep
their parameters to themselves. Targets also write theirs to the shared parameters, in the scope of
their implementation; the stages with this scope see them there, and no other stages do. -/

namespace EncodingPlan

/-! ## Lists with one element changed -/

section
variable {α β : Type} {f : α → α} {l : List α} {i : Nat}

theorem flatMap_modify {g : α → List β} (h : ∀ a, l[i]? = some a → g (f a) = g a) :
    (l.modify i f).flatMap g = l.flatMap g := by
  induction l generalizing i with
  | nil => rw [List.modify_nil]
  | cons a l ih =>
    cases i with
    | zero =>
      rw [List.modify_zero_cons, List.flatMap_cons, List.flatMap_cons, h a rfl]
    | succ i =>
      rw [List.modify_succ_cons, List.flatMap_cons, List.flatMap_cons, ih h]

theorem filterMap_modify {g : α → Option β} (h : ∀ a, g (f a) = g a) :
    (l.modify i f).filterMap g = l.filterMap g := by
  rw [List.filterMap_eq_flatMap_toList, List.filterMap_eq_flatMap_toList]
  exact flatMap_modify fun a _ => congrArg Option.toList (h a)

theorem getElem?_map_modify_of_ne {g : α → β} {j : Nat} (h : i ≠ j) :
    ((l.modify i f).map g)[j]? = (l.map g)[j]? := by
  rw [List.getElem?_map, List.getElem?_modify_ne f l h, List.getElem?_map]

end

/-! ## Configurations that differ in the parameters of one section -/

/-- A section of a configuration that stands for a transformer or a target. -/
inductive SectionPlace where
  | transformer (i : Nat)
  | target (i : Nat)

namespace Configuration

variable (configuration : Configuration) (known : Implementations) (values : ParameterValues)

/-- Gives one section other parameters. -/
def setParameters : SectionPlace → Configuration
  | .transformer i => { configuration with
      transformers := configuration.transformers.modify i ({ · with parameters := values }) }
  | .target i => { configuration with
      targets := configuration.targets.modify i ({ · with parameters := values }) }

/-- The position of the section among the stages. -/
def positionOf : SectionPlace → Nat
  | .transformer i => 1 + i
  | .target i => 1 + configuration.transformers.length + i

/-- The scope of the shared parameters that the section writes to, if it is the section of a
target. -/
def sharedScope? : SectionPlace → Option String
  | .transformer _ => none
  | .target i => (configuration.targets[i]?.bind fun declaration =>
      known.target? declaration.implementation).map TargetKind.implementationName

variable {configuration known values} {place : SectionPlace}

theorem plan_setParameters :
    (configuration.setParameters values place).plan known = configuration.plan known := by
  cases place with
  | transformer i => exact congrArg (StagePlan.mk _ · _) (filterMap_modify fun _ => rfl)
  | target i => exact congrArg (StagePlan.mk _ _) (filterMap_modify fun _ => rfl)

theorem getElem?_declaredParameters_setParameters {position : Nat}
    (h : position ≠ configuration.positionOf place) :
    (configuration.setParameters values place).declaredParameters[position]? =
      configuration.declaredParameters[position]? := by
  cases place with
  | transformer i =>
    rw [declaredParameters, declaredParameters, List.getElem?_append, List.getElem?_append]
    simp only [setParameters, List.length_cons, List.length_map, List.length_modify]
    split
    · cases position with
      | zero => rfl
      | succ position => exact getElem?_map_modify_of_ne fun heq => h (by rw [heq, positionOf]; omega)
    · rfl
  | target i =>
    rw [declaredParameters, declaredParameters, List.getElem?_append, List.getElem?_append]
    simp only [setParameters, List.length_cons, List.length_map]
    split
    · rfl
    · exact getElem?_map_modify_of_ne fun heq => h (by rw [heq, positionOf]; omega)

/-- In other scopes than its own, a section writes nothing to the shared parameters. -/
theorem valuesFor_parameterWrites_setParameters {scope : String}
    (h : configuration.sharedScope? known place ≠ some scope) (name : String) :
    ParameterStore.valuesFor (.inScope scope name)
        ((configuration.setParameters values place).parameterWrites known) =
      ParameterStore.valuesFor (.inScope scope name) (configuration.parameterWrites known) := by
  cases place with
  | transformer i => rfl
  | target i =>
    simp only [parameterWrites, ParameterStore.valuesFor_append, ParameterStore.valuesFor_flatMap]
    -- only the changed section could write something else, and it writes in another scope
    refine congrArg (_ ++ ·) (flatMap_modify fun declaration hi => ?_)
    rw [TargetSection.parameterWrites, TargetSection.parameterWrites]
    cases hkind : known.target? declaration.implementation with
    | none => rfl
    | some kind =>
      have hscope : kind.implementationName ≠ scope := fun heq => h (by
        rw [sharedScope?, hi, Option.bind_some, hkind, Option.map_some, heq])
      have hkey (name' : String) :
          ParameterKey.inScope kind.implementationName name' ≠ .inScope scope name :=
        fun heq => hscope (Option.some.inj (ParameterKey.mk.inj heq).1)
      rw [ParameterStore.valuesFor_writes_of_ne _ hkey, ParameterStore.valuesFor_writes_of_ne _ hkey]

theorem getScoped?_sharedParameters_setParameters {replacements : Replacements} {scope : String}
    (h : configuration.sharedScope? known place ≠ some scope) (name : String) :
    ParameterSource.getScoped?
        ((configuration.setParameters values place).sharedParameters replacements known) scope name =
      ParameterSource.getScoped? (configuration.sharedParameters replacements known) scope name := by
  rw [ParameterSource.getScoped?, ParameterSource.getScoped?, value?_sharedParameters,
    value?_sharedParameters, valuesFor_parameterWrites_setParameters h]

end Configuration

/-! ## Views of the other stages -/

/-- Two views answer alike what a stage reads in its scope. -/
structure StageView.ScopeAlike (view view' : StageView) : Prop where
  parameter : ∀ name, view.parameter? name = view'.parameter? name
  namesMatching : ∀ pattern,
    view.parameterNamesMatching pattern = view'.parameterNamesMatching pattern
  defaultEncodingRule : view.defaultEncodingRule? = view'.defaultEncodingRule?

theorem StageView.ScopeAlike.of_parameter {view view' : StageView}
    (hstage : view.stage = view'.stage) (h : ∀ name, view.parameter? name = view'.parameter? name) :
    view.ScopeAlike view' where
  parameter := h
  namesMatching pattern := by
    rw [parameterNamesMatching, parameterNamesMatching, ← hstage]
    refine ParameterSource.namesMatching_congr (fun name => ?_) pattern
    have hname := h name
    rwa [parameter?, parameter?, ← hstage] at hname
  defaultEncodingRule := congrArg (Option.map Name.ofText) (h ParameterName.defaultEncodingRule)

namespace Resolution

variable {configuration : Configuration} {replacements : Replacements} {known : Implementations}
  {values : ParameterValues} {place : SectionPlace} {resolution resolution' : Resolution}
  {findings findings' : Findings}

/-- The parameters that one stage declares do not change what the others read, but for stages that
have the scope to which its section writes: they may see its values where they declare none. -/
theorem isolated_of_load (h : load configuration replacements known = .ok (resolution, findings))
    (h' : load (configuration.setParameters values place) replacements known =
      .ok (resolution', findings'))
    {position : Nat} {stage : Stage} (hstage : resolution.pipeline.stages[position]? = some stage)
    (hother : position ≠ configuration.positionOf place) :
    ∃ declared view view', configuration.declaredParameters[position]? = some declared ∧
      resolution.view? stage = some view ∧ resolution'.view? stage = some view' ∧
      (∀ name, (declared.get? name).isSome = true → view.parameter? name = view'.parameter? name) ∧
      (configuration.sharedScope? known place ≠ some stage.scope → view.ScopeAlike view') := by
  have hstage' : resolution'.pipeline.stages[position]? = some stage := by
    rwa [stages_of_load h', Configuration.plan_setParameters, ← stages_of_load h]
  obtain ⟨declared, view, hdeclared, hview, hown, hlayers⟩ := layers_of_load h hstage
  obtain ⟨declared', view', hdeclared', hview', hown', hlayers'⟩ := layers_of_load h' hstage'
  rw [Configuration.getElem?_declaredParameters_setParameters hother, hdeclared] at hdeclared'
  obtain rfl := Option.some.inj hdeclared'
  refine ⟨declared, view, view', hdeclared, hview, hview', fun name hname => ?_, fun hscope => ?_⟩
  · obtain ⟨value, hvalue⟩ := Option.isSome_iff_exists.mp hname
    rw [hlayers.parameter?_eq, hlayers'.parameter?_eq, hvalue]
    rfl
  · refine .of_parameter (hown.trans hown'.symm) fun name => ?_
    rw [hlayers.parameter?_eq, hlayers'.parameter?_eq, hown, hown', (load_eq_ok h).parameters,
      (load_eq_ok h').parameters,
      Configuration.getScoped?_sharedParameters_setParameters hscope]

/-- The target for XML schemas is given another value, and the other target has a value of the same
name. -/
theorem isolated_of_other_scope :
    let known : Implementations := .ofList
      [("XmlSchema", .target .xmlSchema), ("FOL2Schematron", .target .folSchematron)]
    let configuration : Configuration := {
      targets := [
        { implementation := "XmlSchema", parameters := .ofList [("outputDirectory", "xsd")] },
        { implementation := "FOL2Schematron",
          parameters := .ofList [("outputDirectory", "fol")] }] }
    let values : ParameterValues := .ofList [("outputDirectory", "elsewhere")]
    ∃ resolution resolution' findings findings',
      load configuration ∅ known = .ok (resolution, findings) ∧
      load (configuration.setParameters values (.target 0)) ∅ known =
        .ok (resolution', findings') ∧
      ∃ stage, resolution.pipeline.stages[2]? = some stage ∧
        ∃ view view', resolution.view? stage = some view ∧ resolution'.view? stage = some view' ∧
          view.ScopeAlike view' := by
  intro known configuration values
  have hloads : configuration.StandardLoadable ∅ known := by decide +kernel
  have hloads' : (configuration.setParameters values (.target 0)).StandardLoadable ∅ known := by
    decide +kernel
  obtain ⟨resolution, findings, hload⟩ := hloads.exists_load
  obtain ⟨resolution', findings', hload'⟩ := hloads'.exists_load
  have hstage : resolution.pipeline.stages[2]? =
      some (.target 1 { kind := .folSchematron }) := by
    rw [stages_of_load hload]
    decide +kernel
  obtain ⟨declared, view, view', _, hview, hview', _, hisolated⟩ :=
    isolated_of_load hload hload' hstage (by decide)
  exact ⟨resolution, resolution', findings, findings', hload, hload', _, hstage, view, view', hview,
    hview', hisolated (by decide +kernel)⟩

/-- Of two targets of one kind, the second one sees the value that only the first one declares, and
no longer sees it once the first one declares nothing. -/
theorem not_isolated_of_equal_scope :
    let configuration : Configuration := {
      targets := [
        { implementation := "XmlSchema", parameters := .ofList [("p", "a")] },
        { implementation := "XmlSchema" }] }
    ∃ resolution resolution' findings findings',
      load configuration ∅ .builtIn = .ok (resolution, findings) ∧
      load (configuration.setParameters ∅ (.target 0)) ∅ .builtIn = .ok (resolution', findings') ∧
      ∃ stage, resolution.pipeline.stages[2]? = some stage ∧
        configuration.positionOf (.target 0) ≠ 2 ∧
        ∃ view view', resolution.view? stage = some view ∧ resolution'.view? stage = some view' ∧
          view.parameter? "p" = some "a" ∧ view'.parameter? "p" = none := by
  intro configuration
  obtain ⟨hloads, hloads', hplan, hshared, hshared'⟩ :
      configuration.StandardLoadable ∅ .builtIn ∧
      (configuration.setParameters ∅ (.target 0)).StandardLoadable ∅ .builtIn ∧
      (configuration.plan .builtIn).stages[2]? = some (.target 1 { kind := .xmlSchema }) ∧
      ParameterSource.getScoped? (configuration.sharedParameters ∅ .builtIn)
        TargetKind.xmlSchema.implementationName "p" = some "a" ∧
      ParameterSource.getScoped?
        ((configuration.setParameters ∅ (.target 0)).sharedParameters ∅ .builtIn)
        TargetKind.xmlSchema.implementationName "p" = none := by
    decide +kernel
  obtain ⟨resolution, findings, hload⟩ := hloads.exists_load
  obtain ⟨resolution', findings', hload'⟩ := hloads'.exists_load
  have hstage := hplan
  have hstage' := hplan
  rw [← stages_of_load hload] at hstage
  rw [← Configuration.plan_setParameters, ← stages_of_load hload'] at hstage'
  obtain ⟨declared, view, hdeclared, hview, hown, hlayers⟩ := layers_of_load hload hstage
  obtain ⟨declared', view', hdeclared', hview', hown', hlayers'⟩ := layers_of_load hload' hstage'
  obtain rfl : ∅ = declared := Option.some.inj hdeclared
  obtain rfl : ∅ = declared' := Option.some.inj hdeclared'
  refine ⟨resolution, resolution', findings, findings', hload, hload', _, hstage, by decide, view,
    view', hview, hview', ?_, ?_⟩
  · rw [hlayers.parameter?_eq, hown, (load_eq_ok hload).parameters, Dict.get?_empty,
      Option.map_none, Option.none_or, Stage.scope, hshared]
  · rw [hlayers'.parameter?_eq, hown', (load_eq_ok hload').parameters, Dict.get?_empty,
      Option.map_none, Option.none_or, Stage.scope, hshared']

end Resolution

end EncodingPlan
