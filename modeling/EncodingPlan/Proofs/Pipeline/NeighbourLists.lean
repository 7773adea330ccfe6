import EncodingPlan.Proofs.Pipeline.Neighbours

/-! What a pipeline answers about an identifier, read off the declarations. Questions go from the
identifier to a position, over the links of the graph to other positions and back to stages. In a
pipeline every name of a predecessor has become a link, so the answers are the stages that are named
and those that name. -/

namespace EncodingPlan

/-- What is picked by position is what is picked by element. -/
theorem filterMap_filter_range {α : Type} {l : List α} {at? : Nat → Bool} {test : α → Bool}
    (h : ∀ (i : Nat) (a : α), l[i]? = some a → at? i = test a) :
    ((List.range l.length).filter at?).filterMap (l[·]?) = l.filter test := by
  have hpick : ∀ i ∈ List.range l.length,
      (if at? i then l[i]? else none) = (l[i]?).filter test := by
    intro i hi
    rw [List.getElem?_eq_getElem (List.mem_range.mp hi), h i _
      (List.getElem?_eq_getElem (List.mem_range.mp hi)), Option.filter_some]
  rw [List.filterMap_filter, List.filterMap_congr hpick, ← List.filter_filterMap,
    filterMap_range_getElem?]

namespace Stage

/-- The stage names the identifier as a predecessor, or names none and it is the input's. -/
def Consumes (whole : Input) (id : StageId) : Stage → Prop
  | input _ => False
  | transformer t => t.predecessor = some id ∨ t.predecessor = none ∧ id = whole.id
  | target _ t => id ∈ t.predecessors ∨ t.predecessors = [] ∧ id = whole.id

instance (whole : Input) (id : StageId) (stage : Stage) : Decidable (stage.Consumes whole id) :=
  match stage with
  | input _ => inferInstanceAs (Decidable False)
  | transformer _ => inferInstanceAs (Decidable (_ ∨ _))
  | target _ _ => inferInstanceAs (Decidable (_ ∨ _))

theorem consumes_iff {whole : Input} {id : StageId} {stage : Stage} :
    stage.Consumes whole id ↔ id ∈ stage.predecessorIds whole := by
  cases stage with
  | input _ => simp [Consumes, predecessorIds]
  | transformer t =>
    rw [Consumes, predecessorIds, List.mem_singleton, Transformer.predecessorIn]
    cases t.predecessor <;> simp [eq_comm]
  | target _ t =>
    rw [Consumes, predecessorIds, Target.predecessorsIn]
    cases hids : t.predecessors <;> simp

end Stage

theorem StagePlan.feeds_iff_consumes {plan : StagePlan} {source stage : Stage} {id : StageId}
    (hsource : source ∈ plan.stages) (hid : source.id? = some id) :
    plan.Feeds source stage ↔ stage.Consumes plan.input id := by
  rw [Stage.consumes_iff, Feeds, hid]
  simp [hsource]

namespace Pipeline

/-- The pipeline answers what its stages declare. -/
structure AnswersAsDeclared (pipeline : Pipeline) : Prop where
  stage : ∀ id stage, pipeline.stage? id = some stage ↔
    (stage = .input pipeline.input ∧ id = pipeline.input.id) ∨
      ∃ t ∈ pipeline.plan.transformers, stage = .transformer t ∧ id = t.id
  ofInput : pipeline.predecessors pipeline.input.id = []
  ofUnknown : ∀ id, pipeline.stage? id = none → pipeline.predecessors id = []
  /-- The stage that the transformer names, or the input if it names none. -/
  ofTransformer : ∀ t ∈ pipeline.plan.transformers, ∃ source,
    pipeline.stage? (t.predecessor.getD pipeline.input.id) = some source ∧
      pipeline.predecessors t.id = [source]
  /-- In the order of declaration. -/
  successors : ∀ id, pipeline.successors id =
    pipeline.stages.filter (·.Consumes pipeline.input id)
  once : ∀ id, (pipeline.successors id).Nodup
  converse : ∀ i j a b, pipeline.stage? i = some a → pipeline.stage? j = some b →
    (b ∈ pipeline.successors i ↔ a ∈ pipeline.predecessors j)

variable {plan : StagePlan} {pipeline : Pipeline} (h : plan.assemble = .ok pipeline)
include h

theorem stage?_eq_some {id : StageId} {stage : Stage} :
    pipeline.stage? id = some stage ↔ stage ∈ plan.stages ∧ stage.id? = some id := by
  obtain ⟨rfl, hsound, _⟩ := StagePlan.assemble_eq_ok h
  simp only [stage?, Option.bind_eq_some_iff, StagePlan.position?_eq_some hsound.distinct]
  constructor
  · rintro ⟨position, ⟨named, hnamed, hid⟩, hstage⟩
    obtain rfl := Option.some.inj (hnamed.symm.trans hstage)
    exact ⟨List.mem_of_getElem? hstage, hid⟩
  · rintro ⟨hmem, hid⟩
    obtain ⟨position, hposition⟩ := List.mem_iff_getElem?.mp hmem
    exact ⟨position, ⟨stage, hposition, hid⟩, hposition⟩

/-- No other stage has the identifier. -/
theorem exists_named_iff {id : StageId} {named : Stage} {p : Stage → Prop}
    (hnamed : pipeline.stage? id = some named) :
    (∃ other ∈ plan.stages, other.id? = some id ∧ p other) ↔ p named := by
  obtain ⟨hmem, hid⟩ := (stage?_eq_some h).mp hnamed
  obtain ⟨_, hsound, _⟩ := StagePlan.assemble_eq_ok h
  constructor
  · rintro ⟨other, hother, hid', hp⟩
    rwa [StagePlan.eq_of_id_eq hsound.distinct hmem hother hid hid']
  · exact fun hp => ⟨named, hmem, hid, hp⟩

theorem mem_predecessors_of_stage? {id : StageId} {named stage : Stage}
    (hnamed : pipeline.stage? id = some named) :
    stage ∈ pipeline.predecessors id ↔ plan.Feeds stage named := by
  rw [mem_predecessors_iff h, exists_named_iff h hnamed]

theorem mem_successors_of_stage? {id : StageId} {named stage : Stage}
    (hnamed : pipeline.stage? id = some named) (hstage : stage ∈ plan.stages) :
    stage ∈ pipeline.successors id ↔ plan.Feeds named stage := by
  rw [mem_successors_iff h, exists_named_iff h hnamed]
  exact and_iff_right hstage

theorem predecessors_eq_nil_of_stage?_eq_none {id : StageId} (hnone : pipeline.stage? id = none) :
    pipeline.predecessors id = [] := by
  refine List.eq_nil_iff_forall_not_mem.mpr fun stage hstage => ?_
  obtain ⟨named, hnamed, hid, _⟩ := (mem_predecessors_iff h).mp hstage
  rw [(stage?_eq_some h).mpr ⟨hnamed, hid⟩] at hnone
  cases hnone

theorem predecessors_input : pipeline.predecessors plan.input.id = [] := by
  have hinput : pipeline.stage? plan.input.id = some (.input plan.input) :=
    (stage?_eq_some h).mpr ⟨StagePlan.mem_stages.mpr (.inl rfl), rfl⟩
  refine List.eq_nil_iff_forall_not_mem.mpr fun stage hstage => ?_
  obtain ⟨_, _, hid, _⟩ := (mem_predecessors_of_stage? h hinput).mp hstage
  cases hid

/-- A transformer is fed by one stage. -/
theorem exists_predecessors_eq_singleton {t : Transformer} (ht : t ∈ plan.transformers) :
    ∃ source, pipeline.stage? (t.predecessorIn plan.input) = some source ∧
      pipeline.predecessors t.id = [source] := by
  obtain ⟨_, hsound, _⟩ := StagePlan.assemble_eq_ok h
  have hmem : Stage.transformer t ∈ plan.stages :=
    StagePlan.mem_stages.mpr (.inr (.inl ⟨t, ht, rfl⟩))
  have hnamed : pipeline.stage? t.id = some (.transformer t) :=
    (stage?_eq_some h).mpr ⟨hmem, rfl⟩
  obtain ⟨source, hsource, hfeeds⟩ := hsound.exists_feeds hmem (List.mem_singleton_self _)
  refine ⟨source, (stage?_eq_some h).mpr ⟨hfeeds.1, hsource⟩, List.perm_singleton.mp ?_⟩
  refine (List.perm_ext_iff_of_nodup (nodup_predecessors h _) (List.nodup_singleton _)).mpr
    fun stage => ?_
  rw [mem_predecessors_of_stage? h hnamed, List.mem_singleton]
  constructor
  · rintro ⟨hstage, id, hid, hof⟩
    rw [Stage.predecessorIds, List.mem_singleton] at hid
    exact StagePlan.eq_of_id_eq hsound.distinct hstage hfeeds.1 (hid ▸ hof) hsource
  · rintro rfl
    exact hfeeds

theorem successors_eq_filter (id : StageId) :
    pipeline.successors id = plan.stages.filter (·.Consumes plan.input id) := by
  obtain ⟨rfl, hsound, hgraph, _⟩ := StagePlan.assemble_eq_ok h
  cases hposition : pipeline.plan.position? id with
  | none =>
    rw [successors, hposition]
    refine (List.filter_eq_nil_iff.mpr fun stage hstage hconsumes => ?_).symm
    -- whatever a stage of a sound plan names has a position
    obtain ⟨source, hid, hfeeds⟩ := hsound.exists_feeds hstage
      (Stage.consumes_iff.mp (of_decide_eq_true hconsumes))
    obtain ⟨position, hsource⟩ := List.mem_iff_getElem?.mp hfeeds.1
    rw [(StagePlan.position?_eq_some hsound.distinct).mpr ⟨source, hsource, hid⟩] at hposition
    cases hposition
  | some position =>
    obtain ⟨named, hnamed, hid⟩ := (StagePlan.position?_eq_some hsound.distinct).mp hposition
    have hsize : pipeline.graph.size = pipeline.plan.stages.length := by
      rw [hgraph, StagePlan.size_graph]
    rw [successors, hposition]
    simp only [stagesAt, StageGraph.successors, hsize]
    refine filterMap_filter_range fun target stage hstage => ?_
    rw [Bool.eq_iff_iff, List.contains_iff_mem, mem_links_iff h hnamed hstage, decide_eq_true_eq]
    exact StagePlan.feeds_iff_consumes (List.mem_of_getElem? hnamed) hid

end Pipeline

/-- Assembled pipelines answer what their plans declare. -/
theorem StagePlan.answersAsDeclared_of_assemble {plan : StagePlan} {pipeline : Pipeline}
    (h : plan.assemble = .ok pipeline) : pipeline.plan = plan ∧ pipeline.AnswersAsDeclared := by
  obtain ⟨rfl, _⟩ := assemble_eq_ok h
  refine ⟨rfl, fun id stage => ?_, Pipeline.predecessors_input h,
    fun id => Pipeline.predecessors_eq_nil_of_stage?_eq_none h,
    fun t ht => Pipeline.exists_predecessors_eq_singleton h ht, Pipeline.successors_eq_filter h,
    Pipeline.nodup_successors h, fun i j a b ha hb => ?_⟩
  · rw [Pipeline.stage?_eq_some h]
    constructor
    · exact fun ⟨hstage, hid⟩ => mem_stages_id hstage hid
    · rintro (⟨rfl, rfl⟩ | ⟨t, ht, rfl, rfl⟩)
      · exact ⟨mem_stages.mpr (.inl rfl), rfl⟩
      · exact ⟨mem_stages.mpr (.inr (.inl ⟨t, ht, rfl⟩)), rfl⟩
  · rw [Pipeline.mem_predecessors_of_stage? h hb,
      Pipeline.mem_successors_of_stage? h ha ((Pipeline.stage?_eq_some h).mp hb).1]

/-- A target names the input beside a transformer, and one transformer twice. -/
theorem StagePlan.answersAsDeclared_of_named_input :
    let first : Transformer := { id := ⟨"T1"⟩, kind := .profiler, predecessor := some ⟨"T2"⟩ }
    let second : Transformer := { id := ⟨"T2"⟩, kind := .flattener }
    let schema : Target := { kind := .xmlSchema, predecessors := [⟨"T1"⟩, ⟨"INPUT"⟩, ⟨"T1"⟩] }
    let table : Target := { kind := .sqlDdl, mode := .disabled }
    let plan : StagePlan := ⟨{}, [first, second], [schema, table]⟩
    ∃ pipeline, plan.assemble = .ok pipeline ∧ pipeline.AnswersAsDeclared ∧
      pipeline.successors ⟨"INPUT"⟩ = [.transformer second, .target 0 schema, .target 1 table] ∧
      pipeline.successors ⟨"T1"⟩ = [.target 0 schema] := by
  intro first second schema table plan
  have hproblems : plan.problems = [] := by decide +kernel
  obtain ⟨pipeline, hpipeline⟩ := (problems_eq_nil_iff.mp hproblems).exists_pipeline
  obtain ⟨hplan, hanswers⟩ := answersAsDeclared_of_assemble hpipeline
  have hsuccessors := hanswers.successors
  rw [Pipeline.stages, Pipeline.input, hplan] at hsuccessors
  exact ⟨pipeline, hpipeline, hanswers, (hsuccessors _).trans rfl, (hsuccessors _).trans rfl⟩

end EncodingPlan
