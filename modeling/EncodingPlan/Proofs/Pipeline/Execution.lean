import EncodingPlan.Proofs.Pipeline.Assembly

/-! The run of a pipeline. In the order of a sound plan and in its levels a stage comes after those
that feed it. Leaving out disabled stages keeps this, since none of them feeds a stage that runs. -/

namespace EncodingPlan

/-! ## Earlier in a list -/

/-- Where nothing leads back, what leads to an element comes before it. -/
theorem lt_of_pairwise_not {α : Type} {r : α → α → Prop} {l : List α}
    (hback : l.Pairwise fun earlier later => ¬ r later earlier) (hself : ∀ a ∈ l, ¬ r a a)
    {a b : α} {i j : Nat} (hi : l[i]? = some a) (hj : l[j]? = some b) (h : r a b) : i < j := by
  obtain ⟨hilt, rfl⟩ := List.getElem?_eq_some_iff.mp hi
  obtain ⟨hjlt, rfl⟩ := List.getElem?_eq_some_iff.mp hj
  rcases Nat.lt_trichotomy i j with hlt | rfl | hgt
  · exact hlt
  · exact absurd h (hself _ (List.getElem_mem hilt))
  · exact absurd h (List.pairwise_iff_getElem.mp hback j i hjlt hilt hgt)

/-- An element of one list only tells which list it is in. -/
theorem eq_of_mem_of_nodup_flatten {α : Type} {ls : List (List α)} (h : ls.flatten.Nodup)
    {a : α} {l k : List α} {m n : Nat} (hm : ls[m]? = some l) (hl : a ∈ l) (hn : ls[n]? = some k)
    (hk : a ∈ k) : m = n := by
  have hdisjoint := List.pairwise_iff_getElem.mp (List.nodup_flatten.mp h).2
  obtain ⟨hmlt, rfl⟩ := List.getElem?_eq_some_iff.mp hm
  obtain ⟨hnlt, rfl⟩ := List.getElem?_eq_some_iff.mp hn
  rcases Nat.lt_trichotomy m n with hlt | rfl | hgt
  · exact absurd hk (hdisjoint m n hmlt hnlt hlt hl)
  · rfl
  · exact absurd hl (hdisjoint n m hnlt hmlt hgt hk)

theorem filterMap_range_getElem? {α : Type} (l : List α) :
    (List.range l.length).filterMap (l[·]?) = l := by
  induction l with
  | nil => rfl
  | cons a l ih =>
    rw [List.length_cons, List.range_succ_eq_map, List.filterMap_cons, List.filterMap_map]
    simpa [Function.comp_def] using ih

namespace StagePlan

variable {plan : StagePlan} {pipeline : Pipeline}

theorem nodup_stages (hids : plan.declaredIds.Nodup) : plan.stages.Nodup := by
  have hfirst : (.input plan.input :: plan.transformers.map Stage.transformer).Nodup := by
    have hsome := hids.map (Option.some_injective _)
    rw [declaredIds, List.map_cons, List.map_map] at hsome
    refine List.Nodup.of_map Stage.id? ?_
    rw [List.map_cons, List.map_map]
    exact hsome
  have hsecond : (plan.targets.zipIdx.map fun entry =>
      Stage.target entry.2 entry.1).Nodup := by
    refine List.Nodup.map (fun a b hab => ?_) (List.Nodup.of_map Prod.snd ?_)
    · obtain ⟨hordinal, htarget⟩ := Stage.target.inj hab
      exact Prod.ext htarget hordinal
    · rw [List.zipIdx_map_snd]
      exact List.nodup_range'
  rw [stages_eq]
  refine List.nodup_append.mpr ⟨hfirst, hsecond, fun a ha b hb => ?_⟩
  obtain ⟨_, _, rfl⟩ := List.mem_map.mp hb
  rcases List.mem_cons.mp ha with rfl | ha
  · simp
  · obtain ⟨_, _, rfl⟩ := List.mem_map.mp ha
    simp

end StagePlan

namespace Pipeline

variable (pipeline : Pipeline)

/-- Both stages run, the first of them earlier and on an earlier level. -/
structure RunsBefore (source stage : Stage) : Prop where
  order : ∃ i j : Nat, i < j ∧ pipeline.executionOrder[i]? = some source ∧
    pipeline.executionOrder[j]? = some stage
  levels : ∃ m n : Nat, m < n ∧ (∃ level, pipeline.levels[m]? = some level ∧ source ∈ level) ∧
    ∃ level, pipeline.levels[n]? = some level ∧ stage ∈ level

/-- The input runs first, every stage that is not disabled runs once and no other does, and nothing
runs before what it is fed by. -/
structure RunsInOrder : Prop where
  first : pipeline.executionOrder.head? = some (.input pipeline.input)
  once : pipeline.executionOrder.Nodup
  complete : ∀ stage, stage ∈ pipeline.executionOrder ↔
    stage ∈ pipeline.stages ∧ stage.mode ≠ .disabled
  levelsOnce : pipeline.levels.flatten.Nodup
  levelsComplete : ∀ stage, stage ∈ pipeline.levels.flatten ↔
    stage ∈ pipeline.stages ∧ stage.mode ≠ .disabled
  /-- What a stage names, or the input where it names nothing. -/
  predecessors : ∀ stage ∈ pipeline.executionOrder,
    ∀ id ∈ stage.predecessorIds pipeline.input,
      ∃ source ∈ pipeline.stages, source.id? = some id ∧ pipeline.RunsBefore source stage
  chain : ∀ source, ∀ stage ∈ pipeline.executionOrder,
    Relation.TransGen pipeline.plan.Feeds source stage → pipeline.RunsBefore source stage
  origin : ∀ stage ∈ pipeline.executionOrder, stage ≠ .input pipeline.input →
    Relation.TransGen pipeline.plan.Feeds (.input pipeline.input) stage

/-! ## Positions and their stages -/

variable {pipeline} {plan : StagePlan}

theorem mem_stagesAt {positions : List Nat} {stage : Stage} :
    stage ∈ pipeline.stagesAt positions ↔
      ∃ position ∈ positions, pipeline.stages[position]? = some stage :=
  List.mem_filterMap

theorem stagesAt_perm {positions : List Nat}
    (h : positions.Perm (List.range pipeline.stages.length)) :
    (pipeline.stagesAt positions).Perm pipeline.stages := by
  have hperm := h.filterMap (pipeline.stages[·]?)
  rwa [filterMap_range_getElem?] at hperm

/-! ## Order -/

section
variable (h : plan.assemble = .ok pipeline)
include h

theorem topologicalOrder_perm : pipeline.topologicalOrder.Perm plan.stages := by
  obtain ⟨rfl, _, _, horder⟩ := StagePlan.assemble_eq_ok h
  refine stagesAt_perm ?_
  rw [stages, ← StagePlan.size_graph]
  exact (StageGraph.ordered_eq_some_iff.mp horder).perm

theorem pairwise_topologicalOrder :
    pipeline.topologicalOrder.Pairwise fun earlier later => ¬ plan.Feeds later earlier := by
  obtain ⟨rfl, hsound, _, horder⟩ := StagePlan.assemble_eq_ok h
  have hback := (StageGraph.ordered_eq_some_iff.mp horder).pairwise
  rw [StagePlan.links_graph] at hback
  refine List.pairwise_filterMap.mpr (hback.imp fun hnot a ha b hb hfeeds => hnot ?_)
  exact (StagePlan.mem_links hsound.distinct).mpr ⟨b, a, hb, ha, hfeeds⟩

theorem executionOrder_perm :
    pipeline.executionOrder.Perm (plan.stages.filter Stage.isExecuted) :=
  (topologicalOrder_perm h).filter _

theorem mem_executionOrder {stage : Stage} :
    stage ∈ pipeline.executionOrder ↔ stage ∈ plan.stages ∧ stage.isExecuted = true := by
  rw [(executionOrder_perm h).mem_iff, List.mem_filter]

theorem head?_executionOrder : pipeline.executionOrder.head? = some (.input plan.input) := by
  obtain ⟨rfl, hsound, _, horder⟩ := StagePlan.assemble_eq_ok h
  have hready : pipeline.plan.graph.Ready (List.range pipeline.plan.graph.size) 0 := by
    intro source _ hlink
    rw [StagePlan.links_graph, StagePlan.mem_links hsound.distinct] at hlink
    obtain ⟨_, _, _, hinput, _, _, hid, _⟩ := hlink
    cases hinput
    cases hid
  have hhead := (StageGraph.ordered_eq_some_iff.mp horder).head?_eq_zero
    (List.mem_range.mpr (by rw [StagePlan.size_graph]; exact Nat.succ_pos _)) hready
  obtain ⟨rest, hrest⟩ := List.head?_eq_some_iff.mp hhead
  have hinput : pipeline.stages[0]? = some (.input pipeline.plan.input) := rfl
  rw [executionOrder, topologicalOrder, hrest, stagesAt, List.filterMap_cons_some hinput,
    List.filter_cons_of_pos rfl]
  rfl

/-! ## Levels -/

/-- The levels are the layers of the graph, without disabled stages and what is left empty. -/
theorem exists_layers : ∃ layers, plan.graph.Layers (List.range plan.stages.length) layers ∧
    pipeline.levels = (layers.map fun level =>
      (pipeline.stagesAt level).filter Stage.isExecuted).filter (!·.isEmpty) := by
  obtain ⟨rfl, hsound, hgraph, _⟩ := StagePlan.assemble_eq_ok h
  obtain ⟨layers, hlayers⟩ := hsound.exists_levels
  refine ⟨layers, ?_, by rw [levels, hgraph, hlayers, Option.getD_some]⟩
  rw [← StagePlan.size_graph]
  exact StageGraph.levels_eq_some_iff.mp hlayers

theorem levels_flatten_perm :
    pipeline.levels.flatten.Perm (plan.stages.filter Stage.isExecuted) := by
  obtain ⟨layers, hlayers, hlevels⟩ := exists_layers h
  obtain ⟨rfl, _⟩ := StagePlan.assemble_eq_ok h
  have hflatten : (layers.map fun level =>
      (pipeline.stagesAt level).filter Stage.isExecuted).flatten =
        (pipeline.stagesAt layers.flatten).filter Stage.isExecuted := by
    simp [stagesAt, List.filterMap_flatten, List.filter_flatten, Function.comp_def]
  rw [hlevels, List.flatten_filter_not_isEmpty, hflatten]
  exact (stagesAt_perm hlayers.perm).filter _

/-- Some stage of the first level feeds one of the second. -/
def LevelFeeds (plan : StagePlan) (earlier later : List Stage) : Prop :=
  ∃ source ∈ earlier, ∃ stage ∈ later, plan.Feeds source stage

/-- Where no position leads to another, no stage feeds another. -/
private theorem not_levelFeeds {sources targets : List Nat}
    (hnot : ∀ source ∈ sources, ∀ target ∈ targets, (source, target) ∉ plan.graph.links) :
    ¬ LevelFeeds plan ((pipeline.stagesAt sources).filter Stage.isExecuted)
      ((pipeline.stagesAt targets).filter Stage.isExecuted) := by
  obtain ⟨rfl, hsound, _⟩ := StagePlan.assemble_eq_ok h
  rintro ⟨source, hs, stage, ht, hfeeds⟩
  obtain ⟨i, hi, hsource⟩ := mem_stagesAt.mp (List.mem_filter.mp hs).1
  obtain ⟨j, hj, hstage⟩ := mem_stagesAt.mp (List.mem_filter.mp ht).1
  rw [StagePlan.links_graph] at hnot
  exact hnot i hi j hj
    ((StagePlan.mem_links hsound.distinct).mpr ⟨source, stage, hsource, hstage, hfeeds⟩)

theorem pairwise_levels :
    pipeline.levels.Pairwise fun earlier later => ¬ LevelFeeds plan later earlier := by
  obtain ⟨layers, hlayers, hlevels⟩ := exists_layers h
  rw [hlevels]
  exact .filter _ (List.pairwise_map.mpr (hlayers.pairwise.imp (not_levelFeeds h)))

theorem not_levelFeeds_self : ∀ level ∈ pipeline.levels, ¬ LevelFeeds plan level level := by
  obtain ⟨layers, hlayers, hlevels⟩ := exists_layers h
  rw [hlevels]
  intro level hlevel
  obtain ⟨positions, hpositions, rfl⟩ := List.mem_map.mp (List.mem_filter.mp hlevel).1
  exact not_levelFeeds h (hlayers.not_self positions hpositions)

/-! ## The run -/

theorem nodup_executionOrder : pipeline.executionOrder.Nodup := by
  obtain ⟨rfl, hsound, _⟩ := StagePlan.assemble_eq_ok h
  exact (executionOrder_perm h).nodup_iff.mpr ((StagePlan.nodup_stages hsound.distinct).filter _)

theorem nodup_levels : pipeline.levels.flatten.Nodup :=
  ((levels_flatten_perm h).trans (executionOrder_perm h).symm).nodup_iff.mpr
    (nodup_executionOrder h)

theorem exists_level {stage : Stage} (hstage : stage ∈ pipeline.executionOrder) :
    ∃ (m : Nat) (level : List Stage), pipeline.levels[m]? = some level ∧ stage ∈ level := by
  rw [(executionOrder_perm h).mem_iff, ← (levels_flatten_perm h).mem_iff] at hstage
  obtain ⟨level, hlevel, hmem⟩ := List.mem_flatten.mp hstage
  obtain ⟨m, hm⟩ := List.mem_iff_getElem?.mp hlevel
  exact ⟨m, level, hm, hmem⟩

theorem runsBefore_of_feeds {source stage : Stage} (hstage : stage ∈ pipeline.executionOrder)
    (hfeeds : plan.Feeds source stage) : pipeline.RunsBefore source stage := by
  obtain ⟨rfl, hsound, _⟩ := StagePlan.assemble_eq_ok h
  have hwf := StagePlan.wellFounded_feeds hsound.distinct hsound.fromInput
  obtain ⟨hmem, hruns⟩ := (mem_executionOrder h).mp hstage
  have hsource : source ∈ pipeline.executionOrder :=
    (mem_executionOrder h).mpr ⟨hfeeds.1, hsound.isExecuted_of_feeds hmem hfeeds hruns⟩
  refine ⟨?_, ?_⟩
  · obtain ⟨i, hi⟩ := List.mem_iff_getElem?.mp hsource
    obtain ⟨j, hj⟩ := List.mem_iff_getElem?.mp hstage
    have hlt := lt_of_pairwise_not ((pairwise_topologicalOrder h).filter _)
      (fun a _ ha => hwf.asymmetric _ _ ha ha) hi hj hfeeds
    exact ⟨i, j, hlt, hi, hj⟩
  · obtain ⟨m, first, hm, hfirst⟩ := exists_level h hsource
    obtain ⟨n, second, hn, hsecond⟩ := exists_level h hstage
    have hlt := lt_of_pairwise_not (pairwise_levels h) (not_levelFeeds_self h) hm hn
      ⟨source, hfirst, stage, hsecond, hfeeds⟩
    exact ⟨m, n, hlt, ⟨first, hm, hfirst⟩, second, hn, hsecond⟩

theorem runsBefore_trans {a b c : Stage} (hab : pipeline.RunsBefore a b)
    (hbc : pipeline.RunsBefore b c) : pipeline.RunsBefore a c := by
  obtain ⟨⟨i, j, hij, hi, hj⟩, m, n, hmn, hm, second, hn, hsecond⟩ := hab
  obtain ⟨⟨j', k, hjk, hj', hk⟩, n', o, hno, ⟨third, hn', hthird⟩, ho⟩ := hbc
  obtain rfl : j = j' := (List.getElem?_inj (List.getElem?_eq_some_iff.mp hj).1
    (nodup_executionOrder h)).mp (hj.trans hj'.symm)
  obtain rfl := eq_of_mem_of_nodup_flatten (nodup_levels h) hn hsecond hn' hthird
  exact ⟨⟨i, k, hij.trans hjk, hi, hk⟩, m, o, hmn.trans hno, hm, ho⟩

theorem runsBefore_of_chain {source stage : Stage} (hstage : stage ∈ pipeline.executionOrder)
    (hchain : Relation.TransGen plan.Feeds source stage) : pipeline.RunsBefore source stage := by
  induction hchain using Relation.TransGen.head_induction_on with
  | single hfeeds => exact runsBefore_of_feeds h hstage hfeeds
  | head hfeeds _ ih =>
    obtain ⟨i, _, _, hi, _⟩ := ih.order
    exact runsBefore_trans h (runsBefore_of_feeds h (List.mem_of_getElem? hi) hfeeds) ih

end

end Pipeline

/-- Assembled pipelines have the input, the transformers and the targets for their stages, and run in
order. -/
theorem StagePlan.runsInOrder_of_assemble {plan : StagePlan} {pipeline : Pipeline}
    (h : plan.assemble = .ok pipeline) :
    pipeline.plan = plan ∧
      pipeline.stages = .input plan.input :: plan.transformers.map .transformer
        ++ plan.targets.zipIdx.map (fun entry => .target entry.2 entry.1) ∧
      pipeline.RunsInOrder := by
  obtain ⟨rfl, hsound, _⟩ := assemble_eq_ok h
  have hcomplete : ∀ stage, stage ∈ pipeline.executionOrder ↔
      stage ∈ pipeline.stages ∧ stage.mode ≠ .disabled := fun stage => by
    rw [Pipeline.mem_executionOrder h, Stage.isExecuted, Mode.isExecuted_iff]
    rfl
  refine ⟨rfl, stages_eq pipeline.plan, Pipeline.head?_executionOrder h,
    Pipeline.nodup_executionOrder h, hcomplete, Pipeline.nodup_levels h, fun stage => ?_,
    fun stage hstage id hid => ?_,
    fun source stage hstage hchain => Pipeline.runsBefore_of_chain h hstage hchain,
    fun stage hstage hne => hsound.input_feeds ((hcomplete stage).mp hstage).1 hne⟩
  · rw [← hcomplete, (Pipeline.levels_flatten_perm h).mem_iff,
      (Pipeline.executionOrder_perm h).mem_iff]
  · obtain ⟨source, hsource, hfeeds⟩ := hsound.exists_feeds ((hcomplete stage).mp hstage).1 hid
    exact ⟨source, hfeeds.1, hsource, Pipeline.runsBefore_of_feeds h hstage hfeeds⟩

/-- Transformers declared against their order, stages of all modes, a target behind two others. -/
theorem StagePlan.runsInOrder_of_mixed_modes :
    let plan : StagePlan := {
      input := {}
      transformers := [
        { id := ⟨"T2"⟩, kind := .flattener, predecessor := some ⟨"T1"⟩ },
        { id := ⟨"T1"⟩, kind := .profiler, mode := .diagnosticsOnly },
        { id := ⟨"T3"⟩, kind := .identity, mode := .disabled, predecessor := some ⟨"T2"⟩ }]
      targets := [
        { kind := .xmlSchema, predecessors := [⟨"T1"⟩, ⟨"T2"⟩] },
        { kind := .sqlDdl, mode := .disabled, predecessors := [⟨"T3"⟩] },
        { kind := .rdf }] }
    ∃ pipeline, plan.assemble = .ok pipeline ∧ pipeline.plan = plan ∧
      pipeline.stages = .input plan.input :: plan.transformers.map .transformer
        ++ plan.targets.zipIdx.map (fun entry => .target entry.2 entry.1) ∧
      pipeline.RunsInOrder :=
  ⟨_, rfl, runsInOrder_of_assemble rfl⟩

end EncodingPlan
