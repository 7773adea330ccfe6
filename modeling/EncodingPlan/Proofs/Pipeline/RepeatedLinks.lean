import EncodingPlan.Proofs.FirstOccurrences
import EncodingPlan.Proofs.Pipeline.Neighbours
import EncodingPlan.Proofs.Pipeline.Relabelling

/-! The set of links is all that matters of them. The order in which positions are linked and links
between the same positions change only how often a link is counted and taken back: the schedule, the
layers and the neighbours of a graph do not depend on it. So a target that names a predecessor
several times is as one that names it once. -/

namespace EncodingPlan

/-! ## Graphs -/

namespace StageGraph

variable {graph other : StageGraph}

/-- Both graphs have the same positions and link the same of them. -/
structure SameLinks (graph other : StageGraph) : Prop where
  size : other.size = graph.size
  links : ∀ link, link ∈ other.links ↔ link ∈ graph.links

/-- Both graphs answer all questions alike. -/
structure AnswersAlike (graph other : StageGraph) : Prop where
  ordered : other.ordered = graph.ordered
  levels : other.levels = graph.levels
  predecessors : ∀ position, other.predecessors position = graph.predecessors position
  successors : ∀ position, other.successors position = graph.successors position

namespace SameLinks

theorem symm (h : graph.SameLinks other) : other.SameLinks graph where
  size := h.size.symm
  links link := (h.links link).symm

variable (h : graph.SameLinks other)
include h

theorem ready_iff {remaining : List Nat} {position : Nat} :
    other.Ready remaining position ↔ graph.Ready remaining position :=
  forall₂_congr fun source _ => not_congr (h.links (source, position))

theorem schedule {remaining order : List Nat} (hs : graph.Schedule remaining order) :
    other.Schedule remaining order := by
  induction hs with
  | nil => exact .nil
  | cons hmem hready hleast _ ih =>
    refine .cons hmem (h.ready_iff.mpr hready) (fun position hp hother => ?_) ih
    exact hleast position hp (h.ready_iff.mp hother)

theorem layers {remaining : List Nat} {levels : List (List Nat)}
    (hl : graph.Layers remaining levels) : other.Layers remaining levels := by
  induction hl with
  | nil => exact .nil
  | @cons remaining rest hne _ ih =>
    have hready : remaining.filter (graph.Ready remaining ·) =
        remaining.filter (other.Ready remaining ·) :=
      List.filter_congr fun position _ => decide_eq_decide.mpr h.ready_iff.symm
    have hwaits : remaining.filter (¬ graph.Ready remaining ·) =
        remaining.filter (¬ other.Ready remaining ·) :=
      List.filter_congr fun position _ => decide_eq_decide.mpr (not_congr h.ready_iff.symm)
    rw [hready] at hne ⊢
    rw [hwaits] at ih
    exact .cons hne ih

theorem ordered_eq_some {order : List Nat} (horder : graph.ordered = some order) :
    other.ordered = some order := by
  rw [ordered_eq_some_iff] at horder ⊢
  rw [h.size]
  exact h.schedule horder

theorem levels_eq_some {levels : List (List Nat)} (hlevels : graph.levels = some levels) :
    other.levels = some levels := by
  rw [levels_eq_some_iff] at hlevels ⊢
  rw [h.size]
  exact h.layers hlevels

theorem answersAlike : graph.AnswersAlike other where
  ordered := Option.ext fun _ => ⟨h.symm.ordered_eq_some, h.ordered_eq_some⟩
  levels := Option.ext fun _ => ⟨h.symm.levels_eq_some, h.levels_eq_some⟩
  predecessors position := by
    rw [predecessors, h.size]
    refine List.filter_congr fun source _ => Bool.eq_iff_iff.mpr ?_
    rw [List.contains_iff_mem, List.contains_iff_mem, h.links]
  successors position := by
    rw [successors, h.size]
    refine List.filter_congr fun target _ => Bool.eq_iff_iff.mpr ?_
    rw [List.contains_iff_mem, List.contains_iff_mem, h.links]

end SameLinks

theorem sameLinks_ofLinks {size : Nat} {links others : List (Nat × Nat)}
    (h : ∀ link ∈ links, link.1 < size ∧ link.2 < size) (hsame : ∀ link, link ∈ others ↔ link ∈ links) :
    (ofLinks size links).SameLinks (ofLinks size others) := by
  have hothers : ∀ link ∈ others, link.1 < size ∧ link.2 < size :=
    fun link hl => h link ((hsame link).mp hl)
  refine ⟨by rw [size_ofLinks h, size_ofLinks hothers], fun link => ?_⟩
  rw [links_ofLinks h, links_ofLinks hothers, hsame]

end StageGraph

/-! ## Targets that name a predecessor repeatedly -/

namespace Target

variable {target : Target} {id : StageId}

/-- The target with its predecessors added one after another, each of them once. -/
def withoutRepeats (target : Target) : Target :=
  target.predecessors.foldl feedFrom { target with predecessors := [] }

theorem foldl_feedFrom (target : Target) (ids : List StageId) :
    ids.foldl feedFrom { target with predecessors := [] } =
      { target with predecessors := ids.eraseDups } := by
  induction ids using List.reverseRecOn with
  | nil => rfl
  | append_singleton ids id ih =>
    rw [List.foldl_concat, ih, eraseDups_concat, feedFrom]
    simp only [List.contains_iff_mem, List.mem_eraseDups]
    split <;> rfl

/-- Of every predecessor the first mention is kept. -/
theorem withoutRepeats_eq (target : Target) : target.withoutRepeats =
    { target with predecessors := target.predecessors.eraseDups } :=
  target.foldl_feedFrom target.predecessors

@[simp] theorem mode_withoutRepeats (target : Target) :
    target.withoutRepeats.mode = target.mode := by
  rw [withoutRepeats_eq]

@[simp] theorem mem_predecessors_withoutRepeats :
    id ∈ target.withoutRepeats.predecessors ↔ id ∈ target.predecessors := by
  rw [withoutRepeats_eq, List.mem_eraseDups]

theorem mem_predecessorsIn_withoutRepeats {input : Input} :
    id ∈ target.withoutRepeats.predecessorsIn input ↔ id ∈ target.predecessorsIn input := by
  have hempty : target.withoutRepeats.predecessors.isEmpty = target.predecessors.isEmpty := by
    rw [withoutRepeats_eq, Bool.eq_iff_iff]
    simp [List.eq_nil_iff_forall_not_mem]
  rw [predecessorsIn, predecessorsIn, hempty]
  split
  · rfl
  · exact mem_predecessors_withoutRepeats

end Target

namespace Stage

variable {stage : Stage}

def withoutRepeats : Stage → Stage
  | input i => input i
  | transformer t => transformer t
  | target ordinal t => target ordinal t.withoutRepeats

@[simp] theorem id?_withoutRepeats : stage.withoutRepeats.id? = stage.id? := by
  cases stage <;> rfl

@[simp] theorem isExecuted_withoutRepeats :
    stage.withoutRepeats.isExecuted = stage.isExecuted := by
  cases stage <;> simp [withoutRepeats, isExecuted, mode]

theorem mem_predecessorIds_withoutRepeats {whole : Input} {id : StageId} :
    id ∈ stage.withoutRepeats.predecessorIds whole ↔ id ∈ stage.predecessorIds whole := by
  cases stage with
  | input _ => rfl
  | transformer _ => rfl
  | target _ _ => exact Target.mem_predecessorsIn_withoutRepeats

theorem filter_isExecuted_withoutRepeats (stages : List Stage) :
    (stages.map withoutRepeats).filter isExecuted =
      (stages.filter isExecuted).map withoutRepeats :=
  filter_map_of_eq (fun _ => isExecuted_withoutRepeats) stages

end Stage

namespace StagePlan

variable {plan other : StagePlan}

def withoutRepeats (plan : StagePlan) : StagePlan :=
  { plan with targets := plan.targets.map Target.withoutRepeats }

theorem stages_withoutRepeats (plan : StagePlan) :
    plan.withoutRepeats.stages = plan.stages.map Stage.withoutRepeats := by
  simp [stages, withoutRepeats, Stage.withoutRepeats, List.zipIdx_map, Function.comp_def]

theorem position?_withoutRepeats (plan : StagePlan) (id : StageId) :
    plan.withoutRepeats.position? id = plan.position? id := by
  rw [position?, stages_withoutRepeats, List.findIdx?_map, position?]
  simp only [Function.comp_def, Stage.id?_withoutRepeats]

theorem mem_links_iff_named {source position : Nat} : (source, position) ∈ plan.links ↔
    ∃ stage, plan.stages[position]? = some stage ∧
      ∃ id ∈ stage.predecessorIds plan.input, plan.position? id = some source := by
  simp only [links, List.mem_flatMap, Prod.exists, List.mem_zipIdx_iff_getElem?,
    List.mem_filterMap, Option.map_eq_some_iff, Prod.mk.injEq]
  constructor
  · rintro ⟨stage, _, hstage, id, hid, _, hsource, rfl, rfl⟩
    exact ⟨stage, hstage, id, hid, hsource⟩
  · rintro ⟨stage, hstage, id, hid, hsource⟩
    exact ⟨stage, position, hstage, id, hid, source, hsource, rfl, rfl⟩

theorem sameLinks_withoutRepeats (plan : StagePlan) :
    plan.graph.SameLinks plan.withoutRepeats.graph := by
  refine ⟨?_, fun ⟨source, position⟩ => ?_⟩
  · rw [size_graph, size_graph, stages_withoutRepeats, List.length_map]
  · rw [links_graph, links_graph, mem_links_iff_named, mem_links_iff_named, stages_withoutRepeats,
      List.getElem?_map]
    simp only [Option.map_eq_some_iff, position?_withoutRepeats]
    constructor
    · rintro ⟨_, ⟨stage, hstage, rfl⟩, id, hid, hsource⟩
      exact ⟨stage, hstage, id, Stage.mem_predecessorIds_withoutRepeats.mp hid, hsource⟩
    · rintro ⟨stage, hstage, id, hid, hsource⟩
      exact ⟨_, ⟨stage, hstage, rfl⟩, id, Stage.mem_predecessorIds_withoutRepeats.mpr hid, hsource⟩

/-! ## Soundness -/

theorem ComesFromInput.of_eq {t : Transformer} (h : plan.ComesFromInput t)
    (hinput : other.input = plan.input) (htransformers : other.transformers = plan.transformers) :
    other.ComesFromInput t := by
  induction h with
  | direct hid => exact .direct (by rwa [hinput])
  | behind hs hid _ ih => exact .behind (by rwa [htransformers]) (by rwa [hinput]) ih

theorem isSound_withoutRepeats_iff : plan.withoutRepeats.IsSound ↔ plan.IsSound := by
  have htargets {p : Target → Prop} : (∀ target ∈ plan.withoutRepeats.targets, p target) ↔
      ∀ target ∈ plan.targets, p target.withoutRepeats :=
    List.forall_mem_map
  have hresolved : (∀ target ∈ plan.withoutRepeats.targets, ∀ id ∈ target.predecessors,
      id ∈ plan.declaredIds) ↔
        ∀ target ∈ plan.targets, ∀ id ∈ target.predecessors, id ∈ plan.declaredIds := by
    simp only [htargets, Target.mem_predecessors_withoutRepeats]
  have hrunning : (∀ target ∈ plan.withoutRepeats.targets, target.mode ≠ .disabled →
      ∀ source ∈ plan.transformers, source.id ∈ target.predecessors → source.mode ≠ .disabled) ↔
        ∀ target ∈ plan.targets, target.mode ≠ .disabled → ∀ source ∈ plan.transformers,
          source.id ∈ target.predecessors → source.mode ≠ .disabled := by
    simp only [htargets, Target.mode_withoutRepeats, Target.mem_predecessors_withoutRepeats]
  have hnonempty : plan.withoutRepeats.targets ≠ [] ↔ plan.targets ≠ [] :=
    not_congr List.map_eq_nil_iff
  constructor
  · intro h
    exact ⟨h.distinct, h.resolved, hresolved.mp h.targetsResolved,
      fun t ht => (h.fromInput t ht).of_eq rfl rfl, h.running, hrunning.mp h.targetsRunning,
      hnonempty.mp h.hasTarget⟩
  · intro h
    exact ⟨h.distinct, h.resolved, hresolved.mpr h.targetsResolved,
      fun t ht => (h.fromInput t ht).of_eq rfl rfl, h.running, hrunning.mpr h.targetsRunning,
      hnonempty.mpr h.hasTarget⟩

end StagePlan

/-! ## Pipelines -/

namespace Pipeline

variable {plan : StagePlan} {pipeline other : Pipeline}

/-- The other pipeline lists the same stages in all places, with no predecessor repeated. -/
structure ListsAlike (pipeline other : Pipeline) : Prop where
  topologicalOrder : other.topologicalOrder = pipeline.topologicalOrder.map Stage.withoutRepeats
  executionOrder : other.executionOrder = pipeline.executionOrder.map Stage.withoutRepeats
  levels : other.levels = pipeline.levels.map (List.map Stage.withoutRepeats)
  predecessors : ∀ id, other.predecessors id = (pipeline.predecessors id).map Stage.withoutRepeats
  successors : ∀ id, other.successors id = (pipeline.successors id).map Stage.withoutRepeats

theorem stagesAt_withoutRepeats (hplan : other.plan = pipeline.plan.withoutRepeats)
    (positions : List Nat) :
    other.stagesAt positions = (pipeline.stagesAt positions).map Stage.withoutRepeats := by
  rw [stagesAt, stagesAt, List.map_filterMap]
  refine List.filterMap_congr fun position _ => ?_
  rw [stages, hplan, StagePlan.stages_withoutRepeats, List.getElem?_map, stages]

theorem listsAlike (h : plan.assemble = .ok pipeline)
    (hother : plan.withoutRepeats.assemble = .ok other) : pipeline.ListsAlike other := by
  obtain ⟨rfl, _, hgraph, horder⟩ := StagePlan.assemble_eq_ok h
  obtain ⟨hplan, _, hgraph', horder'⟩ := StagePlan.assemble_eq_ok hother
  have halike := pipeline.plan.sameLinks_withoutRepeats.answersAlike
  rw [← hgraph, ← hgraph'] at halike
  have hstages := stagesAt_withoutRepeats hplan
  have hposition := pipeline.plan.position?_withoutRepeats
  have hsame : other.order = pipeline.order := by
    rw [← hgraph', halike.ordered, hgraph, horder] at horder'
    exact (Option.some.inj horder').symm
  have htopological : other.topologicalOrder =
      pipeline.topologicalOrder.map Stage.withoutRepeats := by
    rw [topologicalOrder, hsame, hstages, topologicalOrder]
  refine ⟨htopological, ?_, ?_, fun id => ?_, fun id => ?_⟩
  · rw [executionOrder, htopological, Stage.filter_isExecuted_withoutRepeats, executionOrder]
  · have hlevel (level : List Nat) : (other.stagesAt level).filter Stage.isExecuted =
        ((pipeline.stagesAt level).filter Stage.isExecuted).map Stage.withoutRepeats := by
      rw [hstages, Stage.filter_isExecuted_withoutRepeats]
    have hkept (levels : List (List Stage)) :
        (levels.map (List.map Stage.withoutRepeats)).filter (!·.isEmpty) =
          (levels.filter (!·.isEmpty)).map (List.map Stage.withoutRepeats) :=
      filter_map_of_eq (fun stages => by rw [List.isEmpty_map]) levels
    rw [levels, halike.levels, levels, ← hkept, List.map_map]
    simp only [hlevel, Function.comp_def]
  · rw [predecessors, hplan, hposition, predecessors]
    cases pipeline.plan.position? id with
    | none => rfl
    | some position => simp only [halike.predecessors, hstages]
  · rw [successors, hplan, hposition, successors]
    cases pipeline.plan.position? id with
    | none => rfl
    | some position => simp only [halike.successors, hstages]

end Pipeline

/-- Graphs on the same positions answer alike if they were linked by the same pairs, in whatever
order and however often. Hence a plan is assembled if it is without the repeated predecessors of its
targets, and then both pipelines list the same stages everywhere. -/
theorem repeated_links_do_not_matter :
    (∀ (size : Nat) (links others : List (Nat × Nat)),
      (∀ link ∈ links, link.1 < size ∧ link.2 < size) → (∀ link, link ∈ others ↔ link ∈ links) →
        (StageGraph.ofLinks size links).AnswersAlike (.ofLinks size others)) ∧
      ∀ plan : StagePlan,
        ((∃ pipeline, plan.withoutRepeats.assemble = .ok pipeline) ↔
          ∃ pipeline, plan.assemble = .ok pipeline) ∧
        ∀ pipeline other, plan.assemble = .ok pipeline → plan.withoutRepeats.assemble = .ok other →
          pipeline.ListsAlike other := by
  refine ⟨fun size links others h hsame => (StageGraph.sameLinks_ofLinks h hsame).answersAlike,
    fun plan => ⟨?_, fun pipeline other => Pipeline.listsAlike⟩⟩
  rw [StagePlan.exists_pipeline_iff, StagePlan.exists_pipeline_iff,
    StagePlan.isSound_withoutRepeats_iff]

/-- A link made twice, and a target that names one predecessor twice around another. -/
theorem repeated_links_do_not_matter_of_target :
    let plan : StagePlan := {
      input := {}
      transformers := [{ id := ⟨"T1"⟩, kind := .profiler }, { id := ⟨"T2"⟩, kind := .flattener }]
      targets := [{ kind := .xmlSchema, predecessors := [⟨"T2"⟩, ⟨"T1"⟩, ⟨"T2"⟩] }] }
    plan.withoutRepeats.targets =
        [{ kind := .xmlSchema, predecessors := [⟨"T2"⟩, ⟨"T1"⟩] }] ∧
      (StageGraph.ofLinks 3 [(0, 2), (1, 2), (0, 2)]).AnswersAlike (.ofLinks 3 [(1, 2), (0, 2)]) ∧
      ∃ pipeline other, plan.assemble = .ok pipeline ∧ plan.withoutRepeats.assemble = .ok other ∧
        pipeline.ListsAlike other := by
  intro plan
  have hlinks (link : Nat × Nat) :
      link ∈ [(1, 2), (0, 2)] ↔ link ∈ [(0, 2), (1, 2), (0, 2)] := by
    simp only [List.mem_cons, List.not_mem_nil, or_false]
    tauto
  obtain ⟨hgraphs, hplans⟩ := repeated_links_do_not_matter
  obtain ⟨hassembled, halike⟩ := hplans plan
  have hproblems : plan.problems = [] := by decide +kernel
  obtain ⟨pipeline, hpipeline⟩ := (StagePlan.problems_eq_nil_iff.mp hproblems).exists_pipeline
  obtain ⟨other, hother⟩ := hassembled.mpr ⟨pipeline, hpipeline⟩
  exact ⟨by decide, hgraphs 3 _ _ (by decide) hlinks,
    pipeline, other, hpipeline, hother, halike pipeline other hpipeline hother⟩

end EncodingPlan
