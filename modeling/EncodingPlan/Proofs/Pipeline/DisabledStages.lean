import EncodingPlan.Proofs.Pipeline.Execution
import EncodingPlan.Proofs.Pipeline.Restriction

/-! Disabled stages are inert. What is left of an assembled plan without them is assembled too: a
stage that runs is fed by stages that run, so the graph that is left is a part which nothing leads
into from outside. The stages that run keep their order and their levels; only targets get new
ordinals, since fewer targets come before them. -/

namespace EncodingPlan

/-! ## Members that pass a test -/

section
variable {α : Type} {test : α → Bool}

/-- The number of members before the position that pass the test. -/
def rankAmong (test : α → Bool) (l : List α) (position : Nat) : Nat := (l.take position).countP test

def passesAt (test : α → Bool) (l : List α) (position : Nat) : Bool := l[position]?.any test

theorem passesAt_iff {l : List α} {position : Nat} :
    passesAt test l position = true ↔ ∃ a, l[position]? = some a ∧ test a = true := by
  rw [passesAt, Option.any_eq_true]

theorem rankAmong_cons_succ (a : α) (l : List α) (position : Nat) :
    rankAmong test (a :: l) (position + 1) =
      rankAmong test l position + if test a = true then 1 else 0 := by
  rw [rankAmong, List.take_succ_cons, List.countP_cons, rankAmong]

/-- A member that passes is found under its rank among those that pass. -/
theorem getElem?_filter_rankAmong {l : List α} {position : Nat} {a : α}
    (ha : l[position]? = some a) (htest : test a = true) :
    (l.filter test)[rankAmong test l position]? = some a := by
  induction l generalizing position with
  | nil => cases ha
  | cons b l ih =>
    cases position with
    | zero =>
      obtain rfl : b = a := by simpa using ha
      rw [List.filter_cons_of_pos htest]
      rfl
    | succ position =>
      rw [List.getElem?_cons_succ] at ha
      rw [rankAmong_cons_succ]
      by_cases hb : test b = true
      · rw [List.filter_cons_of_pos hb, if_pos hb, List.getElem?_cons_succ, ih ha]
      · rw [List.filter_cons_of_neg hb, if_neg hb, Nat.add_zero, ih ha]

theorem rankAmong_lt {l : List α} {p q : Nat} (hp : passesAt test l p = true) (hlt : p < q) :
    rankAmong test l p < rankAmong test l q := by
  obtain ⟨a, ha, htest⟩ := passesAt_iff.mp hp
  have hsucc : rankAmong test l (p + 1) = rankAmong test l p + 1 := by
    rw [rankAmong, List.take_add_one, ha, List.countP_append, Option.toList_some,
      List.countP_singleton, if_pos htest, rankAmong]
  have hle : rankAmong test l (p + 1) ≤ rankAmong test l q :=
    (List.take_sublist_take_left hlt).countP_le
  omega

/-- Ranks number the members that pass without a gap. -/
theorem restrict_range (l : List α) :
    StageGraph.restrict (passesAt test l) (rankAmong test l) (List.range l.length) =
      List.range (l.countP test) := by
  induction l with
  | nil => rfl
  | cons a l ih =>
    have hpasses : passesAt test (a :: l) ∘ Nat.succ = passesAt test l := by
      funext p
      simp [passesAt]
    have hrest : ((List.range l.length).filter (passesAt test l)).map
        (rankAmong test (a :: l) ∘ Nat.succ) =
          (List.range (l.countP test)).map (· + if test a = true then 1 else 0) := by
      rw [← ih, StageGraph.restrict, List.map_map]
      exact List.map_congr_left fun p _ => rankAmong_cons_succ a l p
    rw [List.length_cons, List.range_succ_eq_map]
    by_cases ha : test a = true
    · rw [StageGraph.restrict_cons_of_pos (by simpa [passesAt] using ha), StageGraph.restrict,
        List.filter_map, List.map_map, hpasses, hrest, if_pos ha, List.countP_cons_of_pos ha,
        List.range_succ_eq_map]
      rfl
    · rw [StageGraph.restrict_cons_of_neg (by simpa [passesAt] using ha), StageGraph.restrict,
        List.filter_map, List.map_map, hpasses, hrest, if_neg ha, List.countP_cons_of_neg ha]
      simp

theorem zipIdx_filter (l : List α) :
    (l.filter test).zipIdx =
      (l.zipIdx.filter fun entry => test entry.1).map
        fun entry => (entry.1, rankAmong test l entry.2) := by
  induction l with
  | nil => rfl
  | cons a l ih =>
    have hrest : ((l.zipIdx.map (Prod.map id (· + 1))).filter fun entry => test entry.1).map
        (fun entry => (entry.1, rankAmong test (a :: l) entry.2)) =
          (l.filter test).zipIdx.map (Prod.map id (· + if test a = true then 1 else 0)) := by
      rw [ih, List.filter_map, List.map_map, List.map_map]
      exact List.map_congr_left fun entry _ => Prod.ext rfl (rankAmong_cons_succ a l entry.2)
    rw [List.zipIdx_cons', List.filter_cons, List.filter_cons]
    by_cases ha : test a = true
    · rw [if_pos ha] at hrest
      rw [if_pos ha, if_pos ha, List.map_cons, hrest, List.zipIdx_cons']
      rfl
    · rw [if_neg ha] at hrest
      rw [if_neg ha, if_neg ha, hrest]
      exact (List.map_id _).symm

end

namespace StagePlan

variable {plan : StagePlan}

/-- The plan without its disabled stages. -/
def active (plan : StagePlan) : StagePlan where
  input := plan.input
  transformers := plan.transformers.filter (·.mode.isExecuted)
  targets := plan.targets.filter (·.mode.isExecuted)

/-- The stage in the plan without disabled stages: the ordinal of a target counts the targets before
it that run. -/
def renumber (plan : StagePlan) : Stage → Stage
  | .target ordinal target => .target (rankAmong (·.mode.isExecuted) plan.targets ordinal) target
  | stage => stage

@[simp] theorem id?_renumber (stage : Stage) : (plan.renumber stage).id? = stage.id? := by
  cases stage <;> rfl

@[simp] theorem mode_renumber (stage : Stage) : (plan.renumber stage).mode = stage.mode := by
  cases stage <;> rfl

@[simp] theorem isExecuted_renumber (stage : Stage) :
    (plan.renumber stage).isExecuted = stage.isExecuted := by
  rw [Stage.isExecuted, mode_renumber, Stage.isExecuted]

@[simp] theorem predecessorIds_renumber (stage : Stage) (input : Input) :
    (plan.renumber stage).predecessorIds input = stage.predecessorIds input := by
  cases stage <;> rfl

/-- The stages that are left are those that run. -/
theorem stages_active (plan : StagePlan) :
    plan.active.stages = (plan.stages.filter Stage.isExecuted).map plan.renumber := by
  have htransformers : (plan.transformers.map Stage.transformer).filter Stage.isExecuted =
      (plan.transformers.filter (·.mode.isExecuted)).map .transformer := List.filter_map
  have htargets : (plan.targets.zipIdx.map fun entry =>
      Stage.target entry.2 entry.1).filter Stage.isExecuted =
        (plan.targets.zipIdx.filter fun entry => entry.1.mode.isExecuted).map
          fun entry => .target entry.2 entry.1 := List.filter_map
  rw [stages_eq, stages_eq, active, List.cons_append, List.cons_append,
    List.filter_cons_of_pos (by rfl), List.filter_append, htransformers, htargets, zipIdx_filter,
    List.map_cons, List.map_append, List.map_map, List.map_map, List.map_map]
  rfl

theorem length_stages_active (plan : StagePlan) :
    plan.active.stages.length = plan.stages.countP Stage.isExecuted := by
  rw [stages_active, List.length_map, List.countP_eq_length_filter]

theorem getElem?_stages_active {position : Nat} {stage : Stage}
    (hstage : plan.stages[position]? = some stage) (hruns : stage.isExecuted = true) :
    plan.active.stages[rankAmong Stage.isExecuted plan.stages position]? =
      some (plan.renumber stage) := by
  rw [stages_active, List.getElem?_map, getElem?_filter_rankAmong hstage hruns, Option.map_some]

/-- Those of the positions that stages which run are at, under the numbers they have without the
others. -/
def activePositions (plan : StagePlan) (positions : List Nat) : List Nat :=
  StageGraph.restrict (passesAt Stage.isExecuted plan.stages)
    (rankAmong Stage.isExecuted plan.stages) positions

theorem activePositions_range (plan : StagePlan) :
    plan.activePositions (List.range plan.graph.size) = List.range plan.active.graph.size := by
  rw [activePositions, size_graph, restrict_range, size_graph, length_stages_active]

theorem renumber_mem {stage : Stage} (hstage : stage ∈ plan.stages)
    (hruns : stage.isExecuted = true) : plan.renumber stage ∈ plan.active.stages := by
  rw [stages_active]
  exact List.mem_map_of_mem (List.mem_filter.mpr ⟨hstage, hruns⟩)

/-! ## Soundness -/

namespace IsSound

variable (h : plan.IsSound)
include h

/-- What a stage that runs names is not left out. -/
theorem mem_declaredIds_active {stage : Stage} (hstage : stage ∈ plan.stages)
    (hruns : stage.isExecuted = true) {id : StageId}
    (hid : id ∈ stage.predecessorIds plan.input) : id ∈ plan.active.declaredIds := by
  obtain ⟨source, hsource, hfeeds⟩ := h.exists_feeds hstage hid
  have hmem := renumber_mem hfeeds.1 (h.isExecuted_of_feeds hstage hfeeds hruns)
  rw [← ids_stages]
  exact List.mem_filterMap.mpr ⟨_, hmem, (id?_renumber source).trans hsource⟩

theorem comesFromInput_active {t : Transformer} (hfrom : plan.ComesFromInput t)
    (ht : t ∈ plan.transformers) (hruns : t.mode.isExecuted = true) :
    plan.active.ComesFromInput t := by
  induction hfrom with
  | direct hid => exact .direct hid
  | @behind t source hs hid _ ih =>
    have hstage : .transformer t ∈ plan.stages := mem_stages.mpr (.inr (.inl ⟨t, ht, rfl⟩))
    have hsource : source.mode.isExecuted = true :=
      h.isExecuted_of_feeds hstage (feeds_of_predecessorIn hs hid.symm) hruns
    exact .behind (List.mem_filter.mpr ⟨hs, hsource⟩) hid (ih hs hsource)

/-- Without its disabled stages a sound plan is sound, if a target is left. -/
theorem active (htarget : ∃ target ∈ plan.targets, target.mode ≠ .disabled) :
    plan.active.IsSound where
  distinct := h.distinct.sublist ((List.filter_sublist.map Transformer.id).cons_cons _)
  resolved t ht := by
    obtain ⟨ht, hruns⟩ := List.mem_filter.mp ht
    exact h.mem_declaredIds_active (mem_stages.mpr (.inr (.inl ⟨t, ht, rfl⟩))) hruns
      (List.mem_singleton_self _)
  targetsResolved target ht id hid := by
    obtain ⟨ht, hruns⟩ := List.mem_filter.mp ht
    obtain ⟨ordinal, hordinal⟩ := List.mem_iff_getElem?.mp ht
    have hstage : .target ordinal target ∈ plan.stages :=
      mem_stages.mpr (.inr (.inr ⟨ordinal, target, hordinal, rfl⟩))
    refine h.mem_declaredIds_active hstage hruns ?_
    rw [Stage.predecessorIds, Target.predecessorsIn, if_neg]
    · exact hid
    · simpa using List.ne_nil_of_mem hid
  fromInput t ht := by
    obtain ⟨ht, hruns⟩ := List.mem_filter.mp ht
    exact h.comesFromInput_active (h.fromInput t ht) ht hruns
  running _ _ _ source hs _ := Mode.isExecuted_iff.mp (List.mem_filter.mp hs).2
  targetsRunning _ _ _ source hs _ := Mode.isExecuted_iff.mp (List.mem_filter.mp hs).2
  hasTarget := by
    obtain ⟨target, ht, hmode⟩ := htarget
    exact List.ne_nil_of_mem (List.mem_filter.mpr ⟨ht, Mode.isExecuted_iff.mpr hmode⟩)

theorem hasPart (hactive : plan.active.IsSound) : plan.graph.HasPart plan.active.graph
    (passesAt Stage.isExecuted plan.stages) (rankAmong Stage.isExecuted plan.stages) where
  ascending p q hp _ hlt := rankAmong_lt hp hlt
  links p q hp hq := by
    obtain ⟨a, ha, haruns⟩ := passesAt_iff.mp hp
    obtain ⟨b, hb, hbruns⟩ := passesAt_iff.mp hq
    have ha' := getElem?_stages_active ha haruns
    have hb' := getElem?_stages_active hb hbruns
    rw [links_graph, links_graph, mem_links hactive.distinct, mem_links h.distinct, ha', hb', ha,
      hb]
    have hfeeds : plan.active.Feeds (plan.renumber a) (plan.renumber b) ↔ plan.Feeds a b := by
      rw [Feeds, Feeds, id?_renumber, predecessorIds_renumber]
      exact and_congr_left fun _ => ⟨fun _ => List.mem_of_getElem? ha,
        fun _ => renumber_mem (List.mem_of_getElem? ha) haruns⟩
    simp [hfeeds]
  closed p q hlink hq := by
    obtain ⟨b, hb, hruns⟩ := passesAt_iff.mp hq
    rw [links_graph, mem_links h.distinct] at hlink
    obtain ⟨a, b', ha, hb', hfeeds⟩ := hlink
    obtain rfl := Option.some.inj (hb.symm.trans hb')
    exact passesAt_iff.mpr
      ⟨a, ha, h.isExecuted_of_feeds (List.mem_of_getElem? hb) hfeeds hruns⟩

/-- The order that is left is the order of what is left. -/
theorem ordered_active (hactive : plan.active.IsSound) {order : List Nat}
    (horder : plan.graph.ordered = some order) :
    plan.active.graph.ordered = some (plan.activePositions order) := by
  have hschedule := (h.hasPart hactive).schedule (StageGraph.ordered_eq_some_iff.mp horder)
  rw [StageGraph.ordered_eq_some_iff, ← activePositions_range]
  exact hschedule

/-- The levels that are left are the levels of what is left. -/
theorem levels_active (hactive : plan.active.IsSound) {levels : List (List Nat)}
    (hlevels : plan.graph.levels = some levels) :
    plan.active.graph.levels =
      some ((levels.map plan.activePositions).filter (!·.isEmpty)) := by
  have hlayers := (h.hasPart hactive).layers (StageGraph.levels_eq_some_iff.mp hlevels)
  rw [StageGraph.levels_eq_some_iff, ← activePositions_range]
  exact hlayers

end IsSound

end StagePlan

namespace Pipeline

variable {plan : StagePlan} {pipeline other : Pipeline}

/-- The stages at the positions that are kept are those that run. -/
theorem stagesAt_activePositions (hplan : pipeline.plan = plan) (hother : other.plan = plan.active)
    (positions : List Nat) :
    (other.stagesAt (plan.activePositions positions)).filter Stage.isExecuted =
      ((pipeline.stagesAt positions).filter Stage.isExecuted).map plan.renumber := by
  subst hplan
  induction positions with
  | nil => rfl
  | cons p positions ih =>
    rw [stagesAt, StagePlan.activePositions] at ih ⊢
    rw [stagesAt] at ih ⊢
    by_cases hp : passesAt Stage.isExecuted pipeline.plan.stages p = true
    · obtain ⟨stage, hstage, hruns⟩ := passesAt_iff.mp hp
      have hother' : other.stages[rankAmong Stage.isExecuted pipeline.plan.stages p]? =
          some (pipeline.plan.renumber stage) := by
        rw [stages, hother]
        exact StagePlan.getElem?_stages_active hstage hruns
      rw [StageGraph.restrict_cons_of_pos hp, List.filterMap_cons_some hother',
        List.filterMap_cons_some (show pipeline.stages[p]? = some stage from hstage),
        List.filter_cons_of_pos hruns,
        List.filter_cons_of_pos ((StagePlan.isExecuted_renumber stage).trans hruns), ih,
        List.map_cons]
    · rw [StageGraph.restrict_cons_of_neg hp, ih]
      cases hstage : pipeline.stages[p]? with
      | none => rw [List.filterMap_cons_none hstage]
      | some stage =>
        have hnot : ¬ stage.isExecuted = true := fun hruns =>
          hp (passesAt_iff.mpr ⟨stage, hstage, hruns⟩)
        rw [List.filterMap_cons_some hstage, List.filter_cons_of_neg hnot]

end Pipeline

/-- Lists that become empty may be dropped before or after. -/
theorem filter_map_filter_not_isEmpty {α β γ : Type} {f : List β → List γ} (hf : f [] = [])
    (g : α → List β) (ls : List α) :
    (((ls.map g).filter (!·.isEmpty)).map f).filter (!·.isEmpty) =
      (ls.map fun l => f (g l)).filter (!·.isEmpty) := by
  induction ls with
  | nil => rfl
  | cons l ls ih =>
    rw [List.map_cons, List.map_cons]
    by_cases hl : g l = []
    · rw [List.filter_cons_of_neg (by simp [hl]), ih, List.filter_cons_of_neg (by simp [hl, hf])]
    · rw [List.filter_cons_of_pos (by simp [hl]), List.map_cons, List.filter_cons,
        List.filter_cons, ih]

/-- Disabled stages are inert. Without them an assembled plan that keeps a target is assembled too,
and the stages that run have the same places in the order and on the levels. -/
theorem StagePlan.assemble_active {plan : StagePlan} {pipeline : Pipeline}
    (h : plan.assemble = .ok pipeline)
    (htarget : ∃ target ∈ plan.targets, target.mode ≠ .disabled) :
    ∃ other, plan.active.assemble = .ok other ∧
      other.executionOrder = pipeline.executionOrder.map plan.renumber ∧
      other.levels = pipeline.levels.map (·.map plan.renumber) := by
  obtain ⟨hplan, hsound, hgraph, horder⟩ := assemble_eq_ok h
  have hactive := hsound.active htarget
  obtain ⟨other, hother⟩ := hactive.exists_pipeline
  obtain ⟨hotherPlan, _, hotherGraph, hotherOrder⟩ := assemble_eq_ok hother
  have hstages := Pipeline.stagesAt_activePositions hplan hotherPlan
  refine ⟨other, hother, ?_, ?_⟩
  · rw [hsound.ordered_active hactive horder, Option.some.injEq] at hotherOrder
    rw [Pipeline.executionOrder, Pipeline.topologicalOrder, ← hotherOrder, hstages]
    rfl
  · obtain ⟨levels, hlevels⟩ := hsound.exists_levels
    rw [Pipeline.levels, hotherGraph, hsound.levels_active hactive hlevels, Pipeline.levels,
      hgraph, hlevels, Option.getD_some, Option.getD_some, filter_map_filter_not_isEmpty rfl]
    simp only [hstages, List.filter_map, List.map_map, Function.comp_def, List.isEmpty_map]

/-- Disabled stages stand before, between and behind those that run. -/
theorem StagePlan.assemble_active_of_mixed_modes :
    let plan : StagePlan := {
      input := {}
      transformers := [
        { id := ⟨"T1"⟩, kind := .identity, mode := .disabled, predecessor := some ⟨"T2"⟩ },
        { id := ⟨"T2"⟩, kind := .flattener, mode := .diagnosticsOnly }]
      targets := [
        { kind := .xmlSchema, mode := .disabled, predecessors := [⟨"T1"⟩] },
        { kind := .rdf, predecessors := [⟨"T2"⟩] }] }
    ∃ pipeline other, plan.assemble = .ok pipeline ∧ plan.active.assemble = .ok other ∧
      other.executionOrder = pipeline.executionOrder.map plan.renumber ∧
      other.levels = pipeline.levels.map (·.map plan.renumber) := by
  intro plan
  have hproblems : plan.problems = [] := by rfl
  obtain ⟨pipeline, h⟩ := (problems_eq_nil_iff.mp hproblems).exists_pipeline
  obtain ⟨other, hother⟩ := assemble_active h ⟨{ kind := .rdf, predecessors := [⟨"T2"⟩] },
    .tail _ (.head _), by decide⟩
  exact ⟨pipeline, other, h, hother⟩

end EncodingPlan
