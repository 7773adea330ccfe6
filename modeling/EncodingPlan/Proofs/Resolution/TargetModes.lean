import EncodingPlan.Proofs.Pipeline.RepeatedLinks
import EncodingPlan.Proofs.Resolution.Loading

/-! The modes of the kinds of targets. A draft keeps one mode for each kind, which is that of the
first target of the kind that runs, whatever targets come before it or after it. So a kind counts as
disabled if and only if the pipeline runs no target of it. -/

namespace EncodingPlan

namespace Target

variable {kind : TargetKind} {targets : List Target}

/-- The first target of the kind that runs. -/
def firstRunning? (kind : TargetKind) (targets : List Target) : Option Target :=
  targets.find? fun target => target.kind = kind ∧ target.mode ≠ .disabled

/-- Its mode, or disabled if there is none. -/
def firstMode (kind : TargetKind) (targets : List Target) : Mode :=
  ((firstRunning? kind targets).map mode).getD .disabled

theorem firstRunning?_eq_none_iff : firstRunning? kind targets = none ↔
    ∀ target ∈ targets, target.kind = kind → target.mode = .disabled := by
  simp [firstRunning?]

theorem of_firstRunning?_eq_some {first : Target} (h : firstRunning? kind targets = some first) :
    first ∈ targets ∧ first.kind = kind ∧ first.mode ≠ .disabled := by
  have hfirst := List.find?_some h
  rw [decide_eq_true_eq] at hfirst
  exact ⟨List.mem_of_find?_eq_some h, hfirst⟩

theorem firstMode_eq_disabled_iff : firstMode kind targets = .disabled ↔
    ∀ target ∈ targets, target.kind = kind → target.mode = .disabled := by
  rw [← firstRunning?_eq_none_iff, firstMode]
  cases hfirst : firstRunning? kind targets with
  | none => simp
  | some first =>
    obtain ⟨_, _, hruns⟩ := of_firstRunning?_eq_some hfirst
    simpa using hruns

/-- One more target counts if it is of the kind and none before it runs. -/
theorem firstMode_concat (kind : TargetKind) (targets : List Target) (target : Target) :
    firstMode kind (targets ++ [target]) =
      if target.kind = kind ∧ firstMode kind targets = .disabled then target.mode
      else firstMode kind targets := by
  rw [firstMode, firstRunning?, List.find?_append, ← firstRunning?, firstMode]
  cases hfirst : firstRunning? kind targets with
  | none =>
    by_cases hkind : target.kind = kind
    · by_cases hmode : target.mode = .disabled <;> simp [hkind, hmode]
    · simp [hkind]
  | some first =>
    obtain ⟨_, _, hruns⟩ := of_firstRunning?_eq_some hfirst
    simp [hruns]

end Target

/-- A section describes a target of the kind and the mode it was read with. -/
theorem TargetSection.stage_eq (declaration : TargetSection) (kind : TargetKind) (mode : Mode) :
    declaration.stage kind mode =
      { kind, mode, predecessors := (declaration.inputs.map StageId.ofText).eraseDups } := by
  rw [stage, ← List.foldl_map]
  exact Target.foldl_feedFrom { kind, mode } _

namespace Draft

variable {known : Implementations} {draft draft' : Draft}

/-- The mode that the kind has so far. -/
def modeOf (draft : Draft) (kind : TargetKind) : Mode :=
  (draft.targetModes.get? kind).getD .disabled

theorem modeOf_addMode (draft : Draft) (kind other : TargetKind) (mode : Mode) :
    (draft.addMode kind mode).modeOf other =
      if kind = other ∧ draft.modeOf other = .disabled then mode else draft.modeOf other := by
  have hreplaces : (draft.targetModes.get? kind).all Mode.isDisabled = true ↔
      draft.modeOf kind = .disabled := by
    rw [modeOf]
    cases draft.targetModes.get? kind with
    | none => simp
    | some kept => simp [Mode.isDisabled_iff]
  by_cases hkind : kind = other
  · subst hkind
    by_cases hdisabled : draft.modeOf kind = .disabled
    · rw [addMode, if_pos (hreplaces.mpr hdisabled), if_pos ⟨rfl, hdisabled⟩, modeOf,
        Dict.get?_insert, if_pos rfl, Option.getD_some]
    · rw [addMode, if_neg fun h => hdisabled (hreplaces.mp h), if_neg fun h => hdisabled h.2]
  · rw [if_neg fun h => hkind h.1, addMode]
    split
    · rw [modeOf, Dict.get?_insert, if_neg (Ne.symm hkind), modeOf]
    · rfl

/-- Every kind has the mode that the targets added so far give it. -/
def ModesFit (draft : Draft) : Prop :=
  ∀ kind, draft.modeOf kind = Target.firstMode kind draft.targets

/-- Of what adding a target does, only this concerns targets and their modes. -/
theorem exists_addMode {declaration : TargetSection}
    (h : draft.addTarget known declaration = .ok draft') :
    ∃ target, draft'.targets = draft.targets ++ [target] ∧
      draft'.targetModes = (draft.addMode target.kind target.mode).targetModes := by
  obtain ⟨kind, _, h⟩ := bind_eq_ok.mp h
  obtain ⟨mode, _, h⟩ := bind_eq_ok.mp h
  obtain ⟨_, _, h⟩ := bind_eq_ok.mp h
  obtain ⟨added, hadded, h⟩ := bind_eq_ok.mp h
  obtain ⟨mappings, hentries⟩ := addEntries_eq_ok _ kind declaration
  rw [hentries] at hadded
  obtain rfl := Except.ok.inj hadded
  obtain rfl := Except.ok.inj h
  refine ⟨declaration.stage kind mode, ?_, ?_⟩
  · cases mode <;> simp [addScoped, addRuleSets, Mode.isDisabled]
  · rw [TargetSection.stage_eq]
    cases mode <;> simp [addScoped, addRuleSets, Mode.isDisabled]

theorem ModesFit.addTarget (hfit : draft.ModesFit) {declaration : TargetSection}
    (h : draft.addTarget known declaration = .ok draft') : draft'.ModesFit := by
  obtain ⟨target, htargets, hmodes⟩ := exists_addMode h
  intro kind
  have hmode : draft'.modeOf kind = (draft.addMode target.kind target.mode).modeOf kind := by
    rw [modeOf, hmodes, modeOf]
  rw [hmode, htargets, modeOf_addMode, Target.firstMode_concat, hfit kind]

theorem ModesFit.foldlM_addTarget (hfit : draft.ModesFit) {declarations : List TargetSection}
    (h : declarations.foldlM (Draft.addTarget known) draft = .ok draft') : draft'.ModesFit := by
  induction declarations generalizing draft with
  | nil =>
    obtain rfl := Except.ok.inj h
    exact hfit
  | cons declaration declarations ih =>
    rw [List.foldlM_cons] at h
    obtain ⟨between, hfirst, hrest⟩ := bind_eq_ok.mp h
    exact ih (hfit.addTarget hfirst) hrest

end Draft

theorem Pipeline.target_mem_executionOrder_iff {plan : StagePlan} {pipeline : Pipeline}
    (h : plan.assemble = .ok pipeline) {ordinal : Nat} {target : Target} :
    .target ordinal target ∈ pipeline.executionOrder ↔
      plan.targets[ordinal]? = some target ∧ target.mode ≠ .disabled := by
  rw [mem_executionOrder h, StagePlan.mem_stages, Stage.isExecuted, Mode.isExecuted_iff]
  simp [Stage.mode]

namespace Resolution

variable {configuration : Configuration} {replacements : Replacements} {known : Implementations}
  {resolution : Resolution} {findings : Findings}

theorem targetMode_eq_firstMode
    (h : load configuration replacements known = .ok (resolution, findings)) (kind : TargetKind) :
    resolution.targetMode kind = Target.firstMode kind resolution.pipeline.plan.targets := by
  obtain ⟨draft, hdrafted⟩ := exists_draft_of_load h
  obtain ⟨_, _, hpipeline⟩ := hdrafted.pipeline
  have hopening : (configuration.opening replacements).ModesFit := fun _ => rfl
  rw [targetMode, hdrafted.targetModes, (StagePlan.assemble_eq_ok hpipeline).1]
  exact hopening.foldlM_addTarget hdrafted.added kind

/-- Every kind of target has the mode of the first of its targets that runs. So it is disabled if
and only if none of the stages that run is a target of the kind. -/
theorem targetModes_of_load
    (h : load configuration replacements known = .ok (resolution, findings)) (kind : TargetKind) :
    resolution.targetMode kind =
        Target.firstMode kind (configuration.targets.filterMap (TargetSection.target? known)) ∧
      (resolution.targetMode kind = .disabled ↔
        ∀ ordinal target, .target ordinal target ∈ resolution.pipeline.executionOrder →
          target.kind ≠ kind) := by
  have hassembled := (load_eq_ok h).pipeline
  have hmode := targetMode_eq_firstMode h kind
  rw [(StagePlan.assemble_eq_ok hassembled).1] at hmode
  refine ⟨hmode, ?_⟩
  rw [hmode, Target.firstMode_eq_disabled_iff]
  constructor
  · intro hdisabled ordinal target hexecuted hkind
    obtain ⟨htarget, hruns⟩ := (Pipeline.target_mem_executionOrder_iff hassembled).mp hexecuted
    exact hruns (hdisabled target (List.mem_of_getElem? htarget) hkind)
  · intro hnone target htarget hkind
    by_contra hruns
    obtain ⟨ordinal, hordinal⟩ := List.mem_iff_getElem?.mp htarget
    exact hnone ordinal target
      ((Pipeline.target_mem_executionOrder_iff hassembled).mpr ⟨hordinal, hruns⟩) hkind

/-- A diagnostic target before a disabled and an enabled one, and a kind that never runs. -/
theorem targetModes_of_repeated_targets :
    let known : Implementations := .ofList
      [("Schema", .target .xmlSchema), ("Table", .target .sqlDdl)]
    let configuration : Configuration := {
      targets := [
        { implementation := "Schema", mode := some "disabled" },
        { implementation := "Schema", mode := some "diagnostics-only" },
        { implementation := "Table", mode := some "disabled" },
        { implementation := "Schema", mode := some "disabled" },
        { implementation := "Schema" }] }
    ∃ resolution findings, load configuration ∅ known = .ok (resolution, findings) ∧
      resolution.targetMode .xmlSchema = .diagnosticsOnly ∧
      resolution.targetMode .sqlDdl = .disabled ∧ resolution.targetMode .rdf = .disabled ∧
      ∀ ordinal target, .target ordinal target ∈ resolution.pipeline.executionOrder →
        target.kind ≠ .sqlDdl := by
  intro known configuration
  have hloads : configuration.StandardLoadable ∅ known := by decide +kernel
  obtain ⟨resolution, findings, hload⟩ := hloads.exists_load
  have hmodes := targetModes_of_load hload
  have htable : resolution.targetMode .sqlDdl = .disabled := (hmodes .sqlDdl).1.trans (by rfl)
  exact ⟨resolution, findings, hload, (hmodes .xmlSchema).1.trans (by rfl), htable,
    (hmodes .rdf).1.trans (by rfl), (hmodes .sqlDdl).2.mp htable⟩

end Resolution

end EncodingPlan
