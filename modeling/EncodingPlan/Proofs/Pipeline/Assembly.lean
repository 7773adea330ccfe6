import EncodingPlan.Pipeline.Assembly
import EncodingPlan.Proofs.Pipeline.Frontier
import EncodingPlan.Proofs.Pipeline.Soundness

/-! Sound plans are assembled, and no others. Linked positions hold stages that feed each other, so
that the graph of a sound plan has no cycle and both its order and its levels exist. -/

namespace EncodingPlan.StagePlan

variable {plan : StagePlan}

/-! ## The graph of a plan -/

/-- Stages at different positions have different identifiers. -/
theorem pairwise_id_ne (hids : plan.declaredIds.Nodup) : plan.stages.Pairwise fun a b =>
    ∀ id, a.id? = some id → b.id? ≠ some id := by
  rw [← ids_stages, List.Nodup, List.pairwise_filterMap] at hids
  exact hids.imp fun h id ha hb => h id ha id hb rfl

theorem position?_eq_some (hids : plan.declaredIds.Nodup) {id : StageId} {position : Nat} :
    plan.position? id = some position ↔
      ∃ stage, plan.stages[position]? = some stage ∧ stage.id? = some id := by
  rw [position?, List.findIdx?_eq_some_iff_getElem]
  constructor
  · rintro ⟨hlt, hid, _⟩
    exact ⟨_, List.getElem?_eq_getElem hlt, by simpa using hid⟩
  · rintro ⟨stage, hstage, hid⟩
    obtain ⟨hlt, rfl⟩ := List.getElem?_eq_some_iff.mp hstage
    refine ⟨hlt, by simpa using hid, fun earlier he hsame => ?_⟩
    exact List.pairwise_iff_getElem.mp (pairwise_id_ne hids) earlier position _ hlt he id
      (by simpa using hsame) hid

/-- Links are between positions whose stages feed each other. -/
theorem mem_links (hids : plan.declaredIds.Nodup) {source position : Nat} :
    (source, position) ∈ plan.links ↔ ∃ a b, plan.stages[source]? = some a ∧
      plan.stages[position]? = some b ∧ plan.Feeds a b := by
  simp only [links, List.mem_flatMap, Prod.exists, List.mem_zipIdx_iff_getElem?,
    List.mem_filterMap, Option.map_eq_some_iff, Prod.mk.injEq, position?_eq_some hids]
  constructor
  · rintro ⟨b, j, hb, id, hmem, i, ⟨a, ha, hid⟩, rfl, rfl⟩
    exact ⟨a, b, ha, hb, List.mem_of_getElem? ha, id, hmem, hid⟩
  · rintro ⟨a, b, ha, hb, -, id, hmem, hid⟩
    exact ⟨b, position, hb, id, hmem, source, ⟨a, ha, hid⟩, rfl, rfl⟩

theorem links_inside (plan : StagePlan) :
    ∀ link ∈ plan.links, link.1 < plan.stages.length ∧ link.2 < plan.stages.length := by
  rintro ⟨source, position⟩ hlink
  obtain ⟨⟨stage, j⟩, hstage, hlink⟩ := List.mem_flatMap.mp hlink
  obtain ⟨id, -, hlink⟩ := List.mem_filterMap.mp hlink
  obtain ⟨i, hi, heq⟩ := Option.map_eq_some_iff.mp hlink
  cases heq
  exact ⟨(List.findIdx?_eq_some_iff_getElem.mp hi).1,
    (List.getElem?_eq_some_iff.mp (List.mem_zipIdx_iff_getElem?.mp hstage)).1⟩

theorem size_graph (plan : StagePlan) : plan.graph.size = plan.stages.length :=
  StageGraph.size_ofLinks plan.links_inside

theorem links_graph (plan : StagePlan) : plan.graph.links = plan.links :=
  StageGraph.links_ofLinks plan.links_inside

theorem IsSound.isAcyclic (h : plan.IsSound) : plan.graph.IsAcyclic := by
  have hwf := wellFounded_feeds h.distinct h.fromInput
  refine Subrelation.wf (fun {source position} hlink => ?_)
    (InvImage.wf (fun position => plan.stages[position]?.getD (.input plan.input)) hwf)
  rw [links_graph, mem_links h.distinct] at hlink
  obtain ⟨a, b, ha, hb, hfeeds⟩ := hlink
  simpa [InvImage, ha, hb] using hfeeds

theorem IsSound.exists_order (h : plan.IsSound) : ∃ order, plan.graph.ordered = some order := by
  obtain ⟨order, horder⟩ := h.isAcyclic.exists_schedule (List.range plan.graph.size)
  exact ⟨order, StageGraph.ordered_eq_some_iff.mpr horder⟩

theorem IsSound.exists_levels (h : plan.IsSound) : ∃ levels, plan.graph.levels = some levels := by
  obtain ⟨levels, hlevels⟩ := h.isAcyclic.exists_layers (List.range plan.graph.size)
  exact ⟨levels, StageGraph.levels_eq_some_iff.mpr hlevels⟩

/-! ## Assembly -/

theorem assemble_cases (plan : StagePlan) :
    (∃ problem, plan.problems.head? = some problem ∧ plan.assemble = .error problem) ∨
      plan.IsSound ∧ ∃ order, plan.graph.ordered = some order ∧
        plan.assemble = .ok ⟨plan, plan.graph, order⟩ := by
  cases hproblems : plan.problems with
  | cons problem others => exact .inl ⟨problem, rfl, by rw [assemble, hproblems]⟩
  | nil =>
    have hsound := problems_eq_nil_iff.mp hproblems
    obtain ⟨order, horder⟩ := hsound.exists_order
    exact .inr ⟨hsound, order, horder, by rw [assemble, hproblems, horder]⟩

theorem IsSound.exists_pipeline (h : plan.IsSound) : ∃ pipeline, plan.assemble = .ok pipeline := by
  rcases plan.assemble_cases with ⟨_, hhead, _⟩ | ⟨_, order, _, hok⟩
  · rw [h.problems_eq_nil] at hhead
    cases hhead
  · exact ⟨_, hok⟩

/-- Exactly the sound plans are assembled. Any other plan is refused for the first problem that the
checks find: a plan without problems always has an order. -/
theorem assemble_iff_isSound (plan : StagePlan) :
    ((∃ pipeline, plan.assemble = .ok pipeline) ↔ plan.IsSound) ∧
      (∀ problem, plan.assemble = .error problem → plan.problems.head? = some problem) ∧
      (plan.problems = [] → ∃ order, plan.graph.ordered = some order) := by
  refine ⟨⟨?_, fun h => ?_⟩, fun problem h => ?_, fun h => (problems_eq_nil_iff.mp h).exists_order⟩
  · rintro ⟨pipeline, h⟩
    rcases plan.assemble_cases with ⟨_, _, herror⟩ | ⟨hsound, _⟩
    · rw [h] at herror
      cases herror
    · exact hsound
  · rcases plan.assemble_cases with ⟨_, hhead, _⟩ | ⟨_, order, _, hok⟩
    · rw [problems_eq_nil_iff.mpr h] at hhead
      cases hhead
    · exact ⟨_, hok⟩
  · rcases plan.assemble_cases with ⟨first, hhead, herror⟩ | ⟨_, _, _, hok⟩
    · rw [h] at herror
      cases herror
      exact hhead
    · rw [h] at hok
      cases hok

theorem assemble_eq_ok {pipeline : Pipeline} (h : plan.assemble = .ok pipeline) :
    pipeline.plan = plan ∧ plan.IsSound ∧ pipeline.graph = plan.graph ∧
      plan.graph.ordered = some pipeline.order := by
  rcases plan.assemble_cases with ⟨_, _, herror⟩ | ⟨hsound, order, horder, hok⟩
  · rw [h] at herror
    cases herror
  · rw [h] at hok
    cases hok
    exact ⟨rfl, hsound, rfl, horder⟩

/-! ## Stages that feed each other -/

/-- A stage that runs is fed by stages that run. -/
theorem IsSound.isExecuted_of_feeds (h : plan.IsSound) {source stage : Stage}
    (hstage : stage ∈ plan.stages) (hfeeds : plan.Feeds source stage)
    (hruns : stage.isExecuted = true) : source.isExecuted = true := by
  obtain ⟨hs, id, hmem, hid⟩ := hfeeds
  rcases mem_stages_id hs hid with ⟨rfl, rfl⟩ | ⟨before, hb, rfl, rfl⟩
  · rfl
  refine Mode.isExecuted_iff.mpr ?_
  replace hruns := Mode.isExecuted_iff.mp hruns
  rcases mem_stages.mp hstage with rfl | ⟨t, ht, rfl⟩ | ⟨ordinal, target, ht, rfl⟩
  · cases hmem
  · have hpredecessor := predecessor_eq_some h.distinct hb (List.mem_singleton.mp hmem).symm
    exact h.running t ht hruns before hb hpredecessor
  · rw [Stage.predecessorIds, Target.predecessorsIn] at hmem
    split at hmem
    · exact absurd (List.mem_singleton.mp hmem ▸ List.mem_map_of_mem hb)
        (List.nodup_cons.mp h.distinct).1
    · exact h.targetsRunning target (List.mem_of_getElem? ht) hruns before hb hmem

/-- Every identifier that a stage names is that of a stage which feeds it. -/
theorem IsSound.exists_feeds (h : plan.IsSound) {stage : Stage} (hstage : stage ∈ plan.stages)
    {id : StageId} (hid : id ∈ stage.predecessorIds plan.input) :
    ∃ source, source.id? = some id ∧ plan.Feeds source stage := by
  have hdeclared : id ∈ plan.declaredIds := by
    rcases mem_stages.mp hstage with rfl | ⟨t, ht, rfl⟩ | ⟨ordinal, target, ht, rfl⟩
    · cases hid
    · rw [List.mem_singleton.mp hid]
      exact h.resolved t ht
    · rw [Stage.predecessorIds, Target.predecessorsIn] at hid
      split at hid
      · rw [List.mem_singleton.mp hid]
        exact List.mem_cons_self
      · exact h.targetsResolved target (List.mem_of_getElem? ht) id hid
  obtain ⟨source, hs, hsource⟩ := exists_stage_of_mem hdeclared
  exact ⟨source, hsource, hs, id, hid, hsource⟩

private theorem feeds_of_comesFromInput {t : Transformer} (h : plan.ComesFromInput t) :
    Relation.TransGen plan.Feeds (.input plan.input) (.transformer t) := by
  induction h with
  | direct hid => exact .single ⟨mem_stages.mpr (.inl rfl), _, List.mem_singleton_self _, hid ▸ rfl⟩
  | behind hs hid _ ih => exact ih.tail (feeds_of_predecessorIn hs hid.symm)

/-- What feeds a stage, directly or not, goes back to the input. -/
theorem IsSound.input_feeds (h : plan.IsSound) {stage : Stage} (hstage : stage ∈ plan.stages)
    (hne : stage ≠ .input plan.input) :
    Relation.TransGen plan.Feeds (.input plan.input) stage := by
  rcases mem_stages.mp hstage with rfl | ⟨t, ht, rfl⟩ | ⟨ordinal, target, ht, rfl⟩
  · contradiction
  · exact feeds_of_comesFromInput (h.fromInput t ht)
  · obtain ⟨id, hid⟩ : ∃ id, id ∈ target.predecessorsIn plan.input := by
      rw [Target.predecessorsIn]
      split
      · exact ⟨_, List.mem_singleton_self _⟩
      · rename_i hsome
        exact List.exists_mem_of_ne_nil _ fun hnil => hsome (by rw [hnil]; rfl)
    obtain ⟨source, hsource, hfeeds⟩ := h.exists_feeds hstage hid
    rcases mem_stages_id hfeeds.1 hsource with ⟨rfl, _⟩ | ⟨before, hb, rfl, _⟩
    · exact .single hfeeds
    · exact (feeds_of_comesFromInput (h.fromInput before hb)).tail hfeeds

end EncodingPlan.StagePlan
