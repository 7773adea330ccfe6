import EncodingPlan.Proofs.Pipeline.Execution

/-! The neighbours of a stage. The predecessors of the stage with an identifier are the stages that
feed it, and its successors are those that it feeds, each of them listed once. -/

namespace EncodingPlan

theorem StagePlan.exists_pipeline_iff {plan : StagePlan} :
    (∃ pipeline, plan.assemble = .ok pipeline) ↔ plan.IsSound :=
  ⟨fun ⟨_, h⟩ => (assemble_eq_ok h).2.1, IsSound.exists_pipeline⟩

namespace Pipeline

variable {plan : StagePlan} {pipeline : Pipeline}

theorem nodup_stagesAt (hids : pipeline.plan.declaredIds.Nodup) {positions : List Nat}
    (hpositions : positions.Nodup) : (pipeline.stagesAt positions).Nodup := by
  refine hpositions.filterMap fun p q stage hp hq => ?_
  exact (List.getElem?_inj (List.getElem?_eq_some_iff.mp hp).1
    (StagePlan.nodup_stages hids)).mp (hp.trans hq.symm)

/-- The stages at positions that are near the stage with the identifier. -/
theorem mem_neighbours {near : Nat → List Nat} (hids : pipeline.plan.declaredIds.Nodup)
    {id : StageId} {stage : Stage} :
    stage ∈ (match pipeline.plan.position? id with
      | some position => pipeline.stagesAt (near position)
      | none => []) ↔
      ∃ position named, pipeline.stages[position]? = some named ∧ named.id? = some id ∧
        ∃ p ∈ near position, pipeline.stages[p]? = some stage := by
  have hposition {position : Nat} : pipeline.plan.position? id = some position ↔
      ∃ named, pipeline.stages[position]? = some named ∧ named.id? = some id :=
    StagePlan.position?_eq_some hids
  cases hfound : pipeline.plan.position? id with
  | none =>
    refine iff_of_false List.not_mem_nil ?_
    rintro ⟨position, named, hnamed, hid, _⟩
    rw [hposition.mpr ⟨named, hnamed, hid⟩] at hfound
    cases hfound
  | some position =>
    obtain ⟨named, hnamed, hid⟩ := hposition.mp hfound
    refine mem_stagesAt.trans ⟨fun hnear => ⟨position, named, hnamed, hid, hnear⟩, ?_⟩
    rintro ⟨other, named', hnamed', hid', hnear⟩
    rw [hposition.mpr ⟨named', hnamed', hid'⟩, Option.some.injEq] at hfound
    rwa [← hfound]

/-- Positions are linked if their stages feed each other. -/
theorem mem_links_iff (h : plan.assemble = .ok pipeline) {p q : Nat} {source stage : Stage}
    (hp : pipeline.stages[p]? = some source) (hq : pipeline.stages[q]? = some stage) :
    (p, q) ∈ pipeline.graph.links ↔ plan.Feeds source stage := by
  obtain ⟨rfl, hsound, hgraph, _⟩ := StagePlan.assemble_eq_ok h
  rw [stages] at hp hq
  rw [hgraph, StagePlan.links_graph, StagePlan.mem_links hsound.distinct, hp, hq]
  simp

theorem mem_predecessors_iff (h : plan.assemble = .ok pipeline) {id : StageId} {stage : Stage} :
    stage ∈ pipeline.predecessors id ↔
      ∃ named ∈ plan.stages, named.id? = some id ∧ plan.Feeds stage named := by
  obtain ⟨rfl, hsound, _⟩ := StagePlan.assemble_eq_ok h
  refine (mem_neighbours hsound.distinct).trans ?_
  simp only [StageGraph.mem_predecessors]
  constructor
  · rintro ⟨q, named, hq, hid, p, hlink, hp⟩
    exact ⟨named, List.mem_of_getElem? hq, hid, (mem_links_iff h hp hq).mp hlink⟩
  · rintro ⟨named, hnamed, hid, hfeeds⟩
    obtain ⟨q, hq⟩ := List.mem_iff_getElem?.mp hnamed
    obtain ⟨p, hp⟩ := List.mem_iff_getElem?.mp hfeeds.1
    exact ⟨q, named, hq, hid, p, (mem_links_iff h hp hq).mpr hfeeds, hp⟩

theorem mem_successors_iff (h : plan.assemble = .ok pipeline) {id : StageId} {stage : Stage} :
    stage ∈ pipeline.successors id ↔ stage ∈ plan.stages ∧
      ∃ named ∈ plan.stages, named.id? = some id ∧ plan.Feeds named stage := by
  obtain ⟨rfl, hsound, _⟩ := StagePlan.assemble_eq_ok h
  refine (mem_neighbours hsound.distinct).trans ?_
  simp only [StageGraph.mem_successors]
  constructor
  · rintro ⟨p, named, hp, hid, q, hlink, hq⟩
    exact ⟨List.mem_of_getElem? hq, named, List.mem_of_getElem? hp, hid,
      (mem_links_iff h hp hq).mp hlink⟩
  · rintro ⟨hstage, named, hnamed, hid, hfeeds⟩
    obtain ⟨p, hp⟩ := List.mem_iff_getElem?.mp hnamed
    obtain ⟨q, hq⟩ := List.mem_iff_getElem?.mp hstage
    exact ⟨p, named, hp, hid, q, (mem_links_iff h hp hq).mpr hfeeds, hq⟩

theorem nodup_neighbours {near : Nat → List Nat} (hids : pipeline.plan.declaredIds.Nodup)
    (hnear : ∀ position, (near position).Nodup) (id : StageId) :
    (match pipeline.plan.position? id with
      | some position => pipeline.stagesAt (near position)
      | none => []).Nodup := by
  split
  · exact nodup_stagesAt hids (hnear _)
  · exact List.nodup_nil

theorem nodup_predecessors (h : plan.assemble = .ok pipeline) (id : StageId) :
    (pipeline.predecessors id).Nodup := by
  obtain ⟨rfl, hsound, _⟩ := StagePlan.assemble_eq_ok h
  exact nodup_neighbours hsound.distinct (fun _ => List.nodup_range.filter _) id

theorem nodup_successors (h : plan.assemble = .ok pipeline) (id : StageId) :
    (pipeline.successors id).Nodup := by
  obtain ⟨rfl, hsound, _⟩ := StagePlan.assemble_eq_ok h
  exact nodup_neighbours hsound.distinct (fun _ => List.nodup_range.filter _) id

end Pipeline

end EncodingPlan
