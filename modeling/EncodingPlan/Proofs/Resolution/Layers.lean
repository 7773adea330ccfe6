import EncodingPlan.Proofs.Parameter.Sources
import EncodingPlan.Proofs.Resolution.StageViews

/-! The layers that a stage reads parameters through. Its own values lie on top, in its scope; the
encoding rule that a target for rules of XML instances brings along lies beside them, in the scope of
XML schemas; everything else is read of the shared parameters. Values of either layer were replaced
once, when they were written. -/

namespace EncodingPlan

/-! ## What a stage lays over the shared parameters -/

namespace Stage

/-- What a stage that declares the values reads of them in a scope. -/
def ownValue? (stage : Stage) (declared : ParameterValues) (scope name : String) :
    Option String :=
  if scope = stage.scope then declared.get? name else none

@[simp] theorem ownValue?_scope (stage : Stage) (declared : ParameterValues) (name : String) :
    stage.ownValue? declared stage.scope name = declared.get? name :=
  if_pos rfl

/-- The default encoding rule that a target for rules of XML instances declares, where the target for
XML schemas has its own. -/
def broughtRule? (stage : Stage) (declared : ParameterValues) (scope name : String) :
    Option String :=
  if stage.asTarget?.any (·.kind = .folSchematron) ∧
      scope = TargetKind.xmlSchema.implementationName ∧ name = ParameterName.defaultEncodingRule then
    declared.get? ParameterName.defaultEncodingRule
  else none

/-- Where both layers have a value, it is the same one. -/
theorem or_ownValue? (stage : Stage) (declared : ParameterValues) (scope name : String) :
    (stage.broughtRule? declared scope name).or (stage.ownValue? declared scope name) =
      (stage.ownValue? declared scope name).or (stage.broughtRule? declared scope name) := by
  rw [broughtRule?]
  split
  · rename_i hbrought
    rw [ownValue?, hbrought.2.2]
    split
    · rfl
    · rw [Option.none_or, Option.or_none]
  · rw [Option.none_or, Option.or_none]

/-- The encoding rule that is brought along lies in another scope than that of the stage. -/
theorem broughtRule?_scope (stage : Stage) (declared : ParameterValues) (name : String) :
    stage.broughtRule? declared stage.scope name = none := by
  refine if_neg fun ⟨hkind, hscope, _⟩ => ?_
  cases stage with
  | input input => cases hkind
  | transformer transformer => cases hkind
  | target ordinal target =>
    have hkind : target.kind = .folSchematron := of_decide_eq_true hkind
    rw [scope, hkind] at hscope
    exact absurd hscope (by decide)

end Stage

namespace StageView

variable (view : StageView)

theorem ownValues_eq : view.ownValues =
    view.declaration.parameters.writes (.inScope view.stage.scope) ++
      ((if view.stage.asTarget?.any (·.kind = .folSchematron) then
          view.declaration.parameters.get? ParameterName.defaultEncodingRule
        else none).map fun rule =>
          (.inScope TargetKind.xmlSchema.implementationName ParameterName.defaultEncodingRule,
            rule)).toList := by
  rw [ownValues]
  split
  · rfl
  · exact (List.append_nil _).symm

theorem valuesFor_global_ownValues (name : String) :
    ParameterStore.valuesFor (.global name) view.ownValues = [] := by
  rw [ownValues_eq, ParameterStore.valuesFor_append, ParameterStore.valuesFor_writes_of_ne _ fun _ =>
    by simp [ParameterKey.global, ParameterKey.inScope], List.nil_append,
    ParameterStore.valuesFor_optional, if_neg (by simp [ParameterKey.global, ParameterKey.inScope])]

theorem getLast?_valuesFor_ownValues (scope name : String) :
    (ParameterStore.valuesFor (.inScope scope name) view.ownValues).getLast? =
      (view.stage.ownValue? view.declaration.parameters scope name).or
        (view.stage.broughtRule? view.declaration.parameters scope name) := by
  have hown : ParameterStore.valuesFor (.inScope scope name)
      (view.declaration.parameters.writes (.inScope view.stage.scope)) =
        (view.stage.ownValue? view.declaration.parameters scope name).toList := by
    rw [Stage.ownValue?]
    split
    · rename_i hscope
      subst hscope
      exact ParameterStore.valuesFor_writes _ (fun _ _ h => (ParameterKey.mk.inj h).2) name
    · rename_i hscope
      exact ParameterStore.valuesFor_writes_of_ne _ fun _ h =>
        hscope (Option.some.inj (ParameterKey.mk.inj h).1).symm
  have hbrought : ParameterStore.valuesFor (.inScope scope name)
      ((if view.stage.asTarget?.any (·.kind = .folSchematron) then
          view.declaration.parameters.get? ParameterName.defaultEncodingRule
        else none).map fun rule =>
          (.inScope TargetKind.xmlSchema.implementationName ParameterName.defaultEncodingRule,
            rule)).toList =
        (view.stage.broughtRule? view.declaration.parameters scope name).toList := by
    rw [ParameterStore.valuesFor_optional, Stage.broughtRule?]
    by_cases hkey : scope = TargetKind.xmlSchema.implementationName ∧
        name = ParameterName.defaultEncodingRule
    · obtain ⟨rfl, rfl⟩ := hkey
      rw [if_pos rfl]
      simp only [and_true]
    · rw [if_neg fun h => hkey ?_, if_neg fun h => hkey h.2]
      · rfl
      · obtain ⟨hscope, hname⟩ := ParameterKey.mk.inj h
        exact ⟨(Option.some.inj hscope).symm, hname.symm⟩
  -- the rule that is brought along comes last, but it hides no other value of the stage
  rw [ownValues_eq, ParameterStore.valuesFor_append, hown, hbrought, List.getLast?_append,
    getLast?_toList, getLast?_toList]
  exact Stage.or_ownValue? ..

theorem value?_parameters (key : ParameterKey) :
    ParameterSource.value? view.parameters key =
      ((ParameterStore.valuesFor key view.ownValues).getLast?.map
        view.resolution.parameters.replacements.apply).or
          (ParameterSource.value? view.resolution.parameters key) := by
  have hparameters : view.parameters =
      { base := view.resolution.parameters : ParameterOverlay }.setAll view.ownValues := rfl
  rw [hparameters, ParameterOverlay.value?_setAll]
  cases (ParameterStore.valuesFor key view.ownValues).getLast? <;> rfl

theorem get?_parameters (name : String) : ParameterSource.get? view.parameters name =
    ParameterSource.get? view.resolution.parameters name := by
  rw [ParameterSource.get?, value?_parameters, valuesFor_global_ownValues]
  rfl

theorem getScoped?_parameters (scope name : String) :
    ParameterSource.getScoped? view.parameters scope name =
      (((view.stage.ownValue? view.declaration.parameters scope name).or
        (view.stage.broughtRule? view.declaration.parameters scope name)).map
          view.resolution.parameters.replacements.apply).or
        (ParameterSource.getScoped? view.resolution.parameters scope name) := by
  rw [ParameterSource.getScoped?, value?_parameters, getLast?_valuesFor_ownValues]
  rfl

/-- What the view of a stage answers about parameters, by the values that the stage declares and the
shared parameters. -/
structure Layers (view : StageView) (declared : ParameterValues) (replacements : Replacements)
    (shared : ParameterStore) : Prop where
  layered : ∀ scope name, ParameterSource.getScoped? view.parameters scope name =
    (((view.stage.ownValue? declared scope name).or
      (view.stage.broughtRule? declared scope name)).map replacements.apply).or
      (ParameterSource.getScoped? shared scope name)
  global : ∀ name, ParameterSource.get? view.parameters name = ParameterSource.get? shared name
  parameter : ∀ name, view.parameter? name =
    ParameterSource.getScoped? view.parameters view.stage.scope name
  defaultEncodingRule : view.defaultEncodingRule? =
    (ParameterSource.getScoped? view.parameters view.stage.scope
      ParameterName.defaultEncodingRule).map .ofText
  /-- A pattern that can be read picks the names with a value in the scope of the stage. -/
  namesMatching : ∀ pattern compiled, Pattern.whole pattern = .ok compiled →
    ∃ names, view.parameterNamesMatching pattern = .ok names ∧ names.Pairwise (· < ·) ∧
      ∀ name, name ∈ names ↔
        (ParameterSource.getScoped? view.parameters view.stage.scope name).isSome = true ∧
          compiled.isMatch name = true

/-- In its scope a stage reads its own values, and the shared ones where it declares none. -/
theorem Layers.parameter?_eq {view : StageView} {declared : ParameterValues}
    {replacements : Replacements} {shared : ParameterStore}
    (h : view.Layers declared replacements shared) (name : String) : view.parameter? name =
      ((declared.get? name).map replacements.apply).or
        (ParameterSource.getScoped? shared view.stage.scope name) := by
  rw [h.parameter, h.layered, Stage.ownValue?_scope, Stage.broughtRule?_scope, Option.or_none]

end StageView

/-! ## Stages of a loaded configuration -/

/-- What the stages declare, in their order: nothing the input. -/
def Configuration.declaredParameters (configuration : Configuration) : List ParameterValues :=
  ∅ :: configuration.transformers.map TransformerSection.parameters
    ++ configuration.targets.map TargetSection.parameters

namespace Resolution

variable {configuration : Configuration} {replacements : Replacements} {known : Implementations}
  {resolution : Resolution} {findings : Findings}

theorem parameters_stageDeclarations (configuration : Configuration) :
    (stageDeclarations configuration).map StageDeclaration.parameters =
      configuration.declaredParameters := by
  simp [stageDeclarations, Configuration.declaredParameters, StageDeclaration.of,
    Function.comp_def]

theorem replacements_of_load
    (h : load configuration replacements known = .ok (resolution, findings)) :
    resolution.parameters.replacements = replacements := by
  rw [(load_eq_ok h).parameters, Configuration.sharedParameters,
    ParameterStore.replacements_setAll]

/-- Every stage reads its own values first, then the encoding rule that it brings along, and then
the shared parameters. -/
theorem layers_of_load (h : load configuration replacements known = .ok (resolution, findings))
    {position : Nat} {stage : Stage} (hstage : resolution.pipeline.stages[position]? = some stage) :
    ∃ declared view, configuration.declaredParameters[position]? = some declared ∧
      resolution.view? stage = some view ∧ view.stage = stage ∧
      view.Layers declared replacements resolution.parameters := by
  obtain ⟨declaration, hdeclaration, hview⟩ := view?_of_load h hstage
  refine ⟨declaration.parameters, _, ?_, hview, rfl, ?_, StageView.get?_parameters _, fun _ => rfl,
    rfl, fun pattern compiled => ParameterSource.namesMatching_eq_ok _ _⟩
  · rw [← parameters_stageDeclarations, List.getElem?_map, hdeclaration]
    rfl
  · intro scope name
    rw [StageView.getScoped?_parameters, replacements_of_load h]

/-- The encoding rule of the second target is a token whose literal is a token again. -/
theorem layers_of_brought_rule :
    let known : Implementations := .ofList
      [("XmlSchema", .target .xmlSchema), ("FOL2Schematron", .target .folSchematron)]
    let replacements : Replacements := .ofList [("$rule$", "$other$"), ("$other$", "gml33")]
    let configuration : Configuration := {
      targets := [
        { implementation := "XmlSchema" },
        { implementation := "FOL2Schematron",
          parameters := .ofList [("defaultEncodingRule", "$rule$")] }] }
    ∃ resolution findings, load configuration replacements known = .ok (resolution, findings) ∧
      ∃ stage, resolution.pipeline.stages[2]? = some stage ∧
        ∃ declared view, configuration.declaredParameters[2]? = some declared ∧
          resolution.view? stage = some view ∧ view.stage = stage ∧
          view.Layers declared replacements resolution.parameters := by
  intro known replacements configuration
  have hloads : configuration.StandardLoadable replacements known := by decide +kernel
  obtain ⟨resolution, findings, hload⟩ := hloads.exists_load
  have hstage : resolution.pipeline.stages[2]? =
      some (.target 1 { kind := .folSchematron }) := by
    rw [stages_of_load hload]
    decide +kernel
  exact ⟨resolution, findings, hload, _, hstage, layers_of_load hload hstage⟩

end Resolution

end EncodingPlan
