import EncodingPlan.Proofs.Pipeline.Execution
import EncodingPlan.Proofs.Resolution.Loading
import EncodingPlan.Resolution.StageView

/-! The stages of a resolution and their views. Every section of the configuration has one stage, in
the order input, transformers, targets, and no two stages are equal: identifiers tell the first ones
apart, and targets their places. A view is looked up by its stage, so that it shows the section of
this very stage. -/

namespace EncodingPlan

/-! ## Positions in lists -/

section
variable {α β : Type} {first : α} {middle last : List α} {a : α} {i : Nat}

theorem getElem?_cons_append_middle (h : middle[i]? = some a) :
    (first :: middle ++ last)[1 + i]? = some a := by
  rw [List.cons_append, Nat.add_comm, List.getElem?_cons_succ,
    List.getElem?_append_left (List.getElem?_eq_some_iff.mp h).1, h]

theorem getElem?_cons_append_last (h : last[i]? = some a) :
    (first :: middle ++ last)[1 + middle.length + i]? = some a := by
  have hlength : (first :: middle).length = 1 + middle.length := by
    rw [List.length_cons, Nat.add_comm]
  rw [List.getElem?_append_right (by omega), ← hlength, Nat.add_sub_cancel_left, h]

/-- A map that answers everywhere keeps places. -/
theorem getElem?_filterMap_of_isSome {f : α → Option β} {l : List α}
    (h : ∀ a ∈ l, (f a).isSome = true) (i : Nat) : (l.filterMap f)[i]? = l[i]?.bind f := by
  induction l generalizing i with
  | nil => rfl
  | cons a l ih =>
    obtain ⟨b, hb⟩ := Option.isSome_iff_exists.mp (h a List.mem_cons_self)
    rw [List.filterMap_cons_some hb]
    cases i with
    | zero => exact hb.symm
    | succ i => exact ih (fun c hc => h c (List.mem_cons_of_mem a hc)) i

/-- What stands beside a key that is not repeated. -/
theorem find?_zip_of_nodup [DecidableEq α] {keys : List α} (hkeys : keys.Nodup) {values : List β}
    {key : α} {value : β} {i : Nat} (hkey : keys[i]? = some key) (hvalue : values[i]? = some value) :
    (keys.zip values).find? (fun entry => entry.1 == key) = some (key, value) := by
  induction keys generalizing values i with
  | nil => cases hkey
  | cons first keys ih =>
    obtain ⟨hfirst, hkeys⟩ := List.nodup_cons.mp hkeys
    cases values with
    | nil => cases hvalue
    | cons beside values =>
      cases i with
      | zero =>
        obtain rfl := Option.some.inj hkey
        obtain rfl := Option.some.inj hvalue
        exact List.find?_cons_of_pos (beq_self_eq_true first)
      | succ i =>
        have hne : ¬ (first == key) = true := fun heq =>
          hfirst (beq_iff_eq.mp heq ▸ List.mem_of_getElem? hkey)
        rw [List.zip_cons_cons, List.find?_cons_of_neg (by exact hne)]
        exact ih hkeys hkey hvalue

end

/-! ## The stages of sections -/

namespace Configuration.Loadable

variable {configuration : Configuration} {replacements : Replacements} {known : Implementations}
  (h : configuration.Loadable replacements known) {i : Nat}
include h

theorem getElem?_transformers_plan : (configuration.plan known).transformers[i]? =
    configuration.transformers[i]?.bind (TransformerSection.transformer? known) :=
  getElem?_filterMap_of_isSome (fun declaration hmem => (h.transformers declaration hmem).1) i

theorem getElem?_targets_plan : (configuration.plan known).targets[i]? =
    configuration.targets[i]?.bind (TargetSection.target? known) :=
  getElem?_filterMap_of_isSome (fun declaration hmem => (h.targets declaration hmem).1) i

theorem length_transformers_plan :
    (configuration.plan known).transformers.length = configuration.transformers.length :=
  List.filterMap_length_eq_length.mpr fun declaration hmem => (h.transformers declaration hmem).1

theorem length_targets_plan :
    (configuration.plan known).targets.length = configuration.targets.length :=
  List.filterMap_length_eq_length.mpr fun declaration hmem => (h.targets declaration hmem).1

theorem length_stages_plan : (configuration.plan known).stages.length =
    1 + configuration.transformers.length + configuration.targets.length := by
  rw [StagePlan.stages_eq, List.length_append, List.length_cons, List.length_map, List.length_map,
    List.length_zipIdx, h.length_transformers_plan, h.length_targets_plan, Nat.add_comm 1]

theorem getElem?_stages_transformer {declaration : TransformerSection}
    (hi : configuration.transformers[i]? = some declaration) :
    ∃ t, declaration.transformer? known = some t ∧
      (configuration.plan known).stages[1 + i]? = some (.transformer t) := by
  obtain ⟨t, ht⟩ := Option.isSome_iff_exists.mp
    (h.transformers declaration (List.mem_of_getElem? hi)).1
  refine ⟨t, ht, getElem?_cons_append_middle ?_⟩
  rw [List.getElem?_map, h.getElem?_transformers_plan, hi, Option.bind_some, ht]
  rfl

theorem getElem?_stages_target {declaration : TargetSection}
    (hi : configuration.targets[i]? = some declaration) :
    ∃ t, declaration.target? known = some t ∧
      (configuration.plan known).stages[1 + configuration.transformers.length + i]? =
        some (.target i t) := by
  obtain ⟨t, ht⟩ := Option.isSome_iff_exists.mp
    (h.targets declaration (List.mem_of_getElem? hi)).1
  refine ⟨t, ht, ?_⟩
  have hlength : ((configuration.plan known).transformers.map Stage.transformer).length =
      configuration.transformers.length := by
    rw [List.length_map, h.length_transformers_plan]
  rw [StagePlan.stages_eq, ← hlength]
  refine getElem?_cons_append_last ?_
  rw [List.getElem?_map, List.getElem?_zipIdx, h.getElem?_targets_plan, hi, Option.bind_some, ht]
  simp

end Configuration.Loadable

/-! ## Views -/

/-- The view shows what the section declares. -/
structure StageView.Declares (view : StageView) (parameters : ParameterValues)
    (ruleSets : Dict String RuleSetDeclaration) : Prop where
  hasRule : ∀ rule, view.hasRule rule = true ↔
    ∃ declared ∈ ruleSets.values, ∃ raw ∈ declared.additionalRules, rule = .ofText raw
  ruleSets : view.ruleSets = ruleSets.keys.map .ofText
  parameters : view.declaration.parameters = parameters

theorem StageDeclaration.declares_of (resolution : Resolution) (stage : Stage)
    (parameters : ParameterValues) (ruleSets : Dict String RuleSetDeclaration) :
    StageView.Declares ⟨resolution, stage, .of parameters ruleSets⟩ parameters ruleSets where
  hasRule rule := by
    simp only [StageView.hasRule, StageDeclaration.of, List.contains_iff_mem, List.mem_flatMap,
      List.mem_map, eq_comm (a := rule)]
  ruleSets := rfl
  parameters := rfl

namespace Resolution

/-- The stage stands at the position, and its view shows what the section declares. -/
structure ShowsAt (resolution : Resolution) (position : Nat) (stage : Stage)
    (parameters : ParameterValues) (ruleSets : Dict String RuleSetDeclaration) : Prop where
  stands : resolution.pipeline.stages[position]? = some stage
  shows : ∃ view, resolution.view? stage = some view ∧ view.resolution = resolution ∧
    view.stage = stage ∧ view.Declares parameters ruleSets

/-- Every section has its stage, and every stage that is looked at shows its own section. -/
structure ShowsSections (resolution : Resolution) (configuration : Configuration)
    (known : Implementations) : Prop where
  size : resolution.pipeline.size =
    1 + configuration.transformers.length + configuration.targets.length
  distinct : resolution.pipeline.stages.Nodup
  input : resolution.ShowsAt 0 (.input configuration.input.stage) ∅ ∅
  transformers : ∀ (i : Nat) (declaration : TransformerSection),
    configuration.transformers[i]? = some declaration →
      ∃ t, declaration.transformer? known = some t ∧
        resolution.ShowsAt (1 + i) (.transformer t) declaration.parameters declaration.ruleSets
  targets : ∀ (i : Nat) (declaration : TargetSection),
    configuration.targets[i]? = some declaration →
      ∃ t, declaration.target? known = some t ∧
        resolution.ShowsAt (1 + configuration.transformers.length + i) (.target i t)
          declaration.parameters declaration.ruleSets
  foreign : ∀ stage, stage ∉ resolution.pipeline.stages → resolution.view? stage = none
  executed : resolution.executionViews.map StageView.stage = resolution.pipeline.executionOrder
  executedViews : ∀ view ∈ resolution.executionViews, resolution.view? view.stage = some view
  /-- The execution order has every stage that runs, and has it once. -/
  runs : resolution.pipeline.executionOrder.Nodup ∧
    ∀ stage, stage ∈ resolution.pipeline.executionOrder ↔
      stage ∈ resolution.pipeline.stages ∧ stage.mode ≠ .disabled

variable {configuration : Configuration} {replacements : Replacements} {known : Implementations}
  {resolution : Resolution} {findings : Findings}

theorem view?_eq_none {stage : Stage} (h : stage ∉ resolution.pipeline.stages) :
    resolution.view? stage = none := by
  rw [view?, Option.map_eq_none_iff, List.find?_eq_none]
  rintro ⟨known, declaration⟩ hmem heq
  exact h (beq_iff_eq.mp heq ▸ (List.of_mem_zip hmem).1)

theorem view?_of_getElem? (hnodup : resolution.pipeline.stages.Nodup) {position : Nat}
    {stage : Stage} {declaration : StageDeclaration}
    (hstage : resolution.pipeline.stages[position]? = some stage)
    (hdeclaration : resolution.declarations[position]? = some declaration) :
    resolution.view? stage = some ⟨resolution, stage, declaration⟩ := by
  rw [view?, find?_zip_of_nodup hnodup hstage hdeclaration]
  rfl

theorem stage_of_view? {stage : Stage} {view : StageView} (h : resolution.view? stage = some view) :
    view.stage = stage := by
  obtain ⟨⟨known, declaration⟩, hfind, rfl⟩ := Option.map_eq_some_iff.mp h
  have hsame := List.find?_some hfind
  exact beq_iff_eq.mp hsame

section
variable (h : load configuration replacements known = .ok (resolution, findings))
include h

theorem plan_of_load : resolution.pipeline.plan = configuration.plan known :=
  (StagePlan.assemble_eq_ok (load_eq_ok h).pipeline).1

theorem stages_of_load : resolution.pipeline.stages = (configuration.plan known).stages :=
  congrArg StagePlan.stages (plan_of_load h)

theorem nodup_stages_of_load : resolution.pipeline.stages.Nodup := by
  obtain ⟨_, hsound, _⟩ := StagePlan.assemble_eq_ok (load_eq_ok h).pipeline
  rw [stages_of_load h]
  exact StagePlan.nodup_stages hsound.distinct

theorem showsAt_of_load {position : Nat} {stage : Stage} {parameters : ParameterValues}
    {ruleSets : Dict String RuleSetDeclaration}
    (hstage : (configuration.plan known).stages[position]? = some stage)
    (hdeclaration : (stageDeclarations configuration)[position]? =
      some (.of parameters ruleSets)) :
    resolution.ShowsAt position stage parameters ruleSets := by
  rw [← stages_of_load h] at hstage
  rw [← (load_eq_ok h).declarations] at hdeclaration
  exact ⟨hstage, _, view?_of_getElem? (nodup_stages_of_load h) hstage hdeclaration, rfl, rfl,
    StageDeclaration.declares_of resolution stage parameters ruleSets⟩

/-- The view of a stage has the declaration at the position of the stage. -/
theorem view?_of_load {position : Nat} {stage : Stage}
    (hstage : resolution.pipeline.stages[position]? = some stage) :
    ∃ declaration, (stageDeclarations configuration)[position]? = some declaration ∧
      resolution.view? stage = some ⟨resolution, stage, declaration⟩ := by
  have hloads : configuration.Loadable replacements known := Configuration.loads_iff.mp ⟨_, h⟩
  have hlength : resolution.declarations.length = resolution.pipeline.stages.length := by
    rw [stages_of_load h, hloads.length_stages_plan, (load_eq_ok h).declarations,
      stageDeclarations, List.length_append, List.length_cons, List.length_map, List.length_map,
      Nat.add_comm 1]
  have hlt : position < resolution.declarations.length :=
    hlength ▸ (List.getElem?_eq_some_iff.mp hstage).1
  obtain ⟨declaration, hdeclaration⟩ : ∃ declaration,
      resolution.declarations[position]? = some declaration := ⟨_, List.getElem?_eq_getElem hlt⟩
  refine ⟨declaration, (load_eq_ok h).declarations ▸ hdeclaration, ?_⟩
  exact view?_of_getElem? (nodup_stages_of_load h) hstage hdeclaration

/-- The views of the stages that run come in their order. -/
theorem executionViews_of_load :
    resolution.executionViews.map StageView.stage = resolution.pipeline.executionOrder := by
  have hstages : ∀ stage ∈ resolution.pipeline.executionOrder,
      (resolution.view? stage).map StageView.stage = some stage := fun stage hstage => by
    have hmem := ((Pipeline.mem_executionOrder (load_eq_ok h).pipeline).mp hstage).1
    rw [← stages_of_load h] at hmem
    obtain ⟨position, hposition⟩ := List.mem_iff_getElem?.mp hmem
    obtain ⟨declaration, _, hview⟩ := view?_of_load h hposition
    rw [hview]
    rfl
  rw [executionViews, List.map_filterMap, List.filterMap_congr hstages, List.filterMap_some]

/-- The pipeline has a stage for the input, each transformer and each target, and no two of them are
equal. The view of a stage shows the section of the stage, and no other stage has a view. -/
theorem showsSections_of_load : resolution.ShowsSections configuration known := by
  have hloads : configuration.Loadable replacements known := Configuration.loads_iff.mp ⟨_, h⟩
  refine ⟨?_, nodup_stages_of_load h, showsAt_of_load h rfl rfl, fun i declaration hi => ?_,
    fun i declaration hi => ?_, fun stage => view?_eq_none, executionViews_of_load h,
    fun view hview => ?_, Pipeline.nodup_executionOrder (load_eq_ok h).pipeline, fun stage => ?_⟩
  · rw [Pipeline.size, stages_of_load h, hloads.length_stages_plan]
  · obtain ⟨t, ht, hstage⟩ := hloads.getElem?_stages_transformer hi
    refine ⟨t, ht, showsAt_of_load h hstage (getElem?_cons_append_middle ?_)⟩
    rw [List.getElem?_map, hi]
    rfl
  · obtain ⟨t, ht, hstage⟩ := hloads.getElem?_stages_target hi
    refine ⟨t, ht, showsAt_of_load h hstage ?_⟩
    rw [stageDeclarations, ← List.length_map fun t => StageDeclaration.of t.parameters t.ruleSets]
    refine getElem?_cons_append_last ?_
    rw [List.getElem?_map, hi]
    rfl
  · obtain ⟨stage, _, hstage⟩ := List.mem_filterMap.mp hview
    rwa [stage_of_view? hstage]
  · rw [Pipeline.mem_executionOrder (load_eq_ok h).pipeline, stages_of_load h, Stage.isExecuted,
      Mode.isExecuted_iff]

end

/-- Two targets that only their places tell apart, and one that does not run. -/
theorem showsSections_of_equal_targets :
    let known : Implementations := .ofList
      [("Flattener", .transformer .flattener), ("XmlSchema", .target .xmlSchema)]
    let configuration : Configuration := {
      transformers := [{
        id := "T"
        implementation := "Flattener"
        parameters := .ofList [("maxOccurs", "3")]
        ruleSets := .ofList [("flat", { additionalRules := ["rule-trf-prop-flatten-types"] })] }]
      targets := [
        { implementation := "XmlSchema", inputs := ["T"] },
        { implementation := "XmlSchema", inputs := ["T"] },
        { implementation := "XmlSchema", mode := some "disabled",
          ruleSets := .ofList [("mine", { parent := some "flat" })] }] }
    ∃ resolution findings, load configuration ∅ known = .ok (resolution, findings) ∧
      resolution.ShowsSections configuration known := by
  intro known configuration
  have hloads : configuration.StandardLoadable ∅ known := by decide +kernel
  obtain ⟨resolution, findings, hload⟩ := hloads.exists_load
  exact ⟨resolution, findings, hload, showsSections_of_load hload⟩

end Resolution

end EncodingPlan
