import EncodingPlan.Proofs.Pipeline.Walks
import Mathlib.Order.WellFounded

/-! Sound plans, and why the six checks together find every plan that is not. The checks for loops
give up where a predecessor is unknown, names its own successor or is declared twice: the other
checks report these. In a plan with distinct identifiers all of whose transformers come from the
input, going from stages to those that feed them ends. -/

namespace EncodingPlan

theorem Mode.isDisabled_iff {mode : Mode} : mode.isDisabled = true ↔ mode = .disabled := by
  cases mode <;> simp [isDisabled]

theorem Mode.isExecuted_iff {mode : Mode} : mode.isExecuted = true ↔ mode ≠ .disabled := by
  rw [isExecuted, Bool.not_eq_true', ne_eq, ← isDisabled_iff, Bool.not_eq_true]

namespace StagePlan

variable {plan : StagePlan}

/-- Following predecessors from the transformer comes to the input. -/
inductive ComesFromInput (plan : StagePlan) : Transformer → Prop where
  | direct {t : Transformer} : t.predecessorIn plan.input = plan.input.id → ComesFromInput plan t
  | behind {t source : Transformer} : source ∈ plan.transformers →
      t.predecessorIn plan.input = source.id → ComesFromInput plan source → ComesFromInput plan t

/-- What a plan needs to become a pipeline. -/
structure IsSound (plan : StagePlan) : Prop where
  distinct : plan.declaredIds.Nodup
  resolved : ∀ t ∈ plan.transformers, t.predecessorIn plan.input ∈ plan.declaredIds
  targetsResolved : ∀ target ∈ plan.targets, ∀ id ∈ target.predecessors, id ∈ plan.declaredIds
  fromInput : ∀ t ∈ plan.transformers, plan.ComesFromInput t
  /-- No transformer that runs names a disabled one. -/
  running : ∀ t ∈ plan.transformers, t.mode ≠ .disabled →
    ∀ source ∈ plan.transformers, t.predecessor = some source.id → source.mode ≠ .disabled
  /-- No target that runs names a disabled transformer. -/
  targetsRunning : ∀ target ∈ plan.targets, target.mode ≠ .disabled →
    ∀ source ∈ plan.transformers, source.id ∈ target.predecessors → source.mode ≠ .disabled
  hasTarget : plan.targets ≠ []

/-- The stage is one of the plan, and the other names it, or names none and it is the input. -/
def Feeds (plan : StagePlan) (source stage : Stage) : Prop :=
  source ∈ plan.stages ∧ ∃ id ∈ stage.predecessorIds plan.input, source.id? = some id

/-! ## Identifiers -/

theorem stages_eq (plan : StagePlan) : plan.stages =
    .input plan.input :: plan.transformers.map .transformer
      ++ plan.targets.zipIdx.map fun entry => .target entry.2 entry.1 :=
  rfl

theorem mem_stages {stage : Stage} : stage ∈ plan.stages ↔
    stage = .input plan.input ∨ (∃ t ∈ plan.transformers, stage = .transformer t) ∨
      ∃ ordinal target, plan.targets[ordinal]? = some target ∧ stage = .target ordinal target := by
  simp only [stages, List.cons_append, List.mem_cons, List.mem_append, List.mem_map, Prod.exists,
    List.mem_zipIdx_iff_getElem?, eq_comm (a := stage)]
  rw [exists_comm]

/-- A stage with an identifier is the input or a transformer. -/
theorem mem_stages_id {stage : Stage} {id : StageId} (h : stage ∈ plan.stages)
    (hid : stage.id? = some id) : (stage = .input plan.input ∧ id = plan.input.id) ∨
      ∃ t ∈ plan.transformers, stage = .transformer t ∧ id = t.id := by
  rcases mem_stages.mp h with rfl | ⟨t, ht, rfl⟩ | ⟨_, _, _, rfl⟩
  · exact .inl ⟨rfl, (Option.some.inj hid).symm⟩
  · exact .inr ⟨t, ht, rfl, (Option.some.inj hid).symm⟩
  · cases hid

theorem feeds_of_predecessorIn {source t : Transformer} (hs : source ∈ plan.transformers)
    (hid : source.id = t.predecessorIn plan.input) :
    plan.Feeds (.transformer source) (.transformer t) :=
  ⟨mem_stages.mpr (.inr (.inl ⟨source, hs, rfl⟩)), source.id,
    by simp [Stage.predecessorIds, hid], rfl⟩

theorem ids_stages (plan : StagePlan) : plan.stages.filterMap Stage.id? = plan.declaredIds := by
  have htransformers : plan.transformers.filterMap (Stage.id? ∘ Stage.transformer) =
      plan.transformers.map Transformer.id := by
    rw [← List.filterMap_eq_map]
    rfl
  have htargets : plan.targets.zipIdx.filterMap
      (Stage.id? ∘ fun entry => Stage.target entry.2 entry.1) = [] :=
    List.filterMap_eq_nil_iff.mpr fun _ _ => rfl
  simp [stages_eq, declaredIds, List.filterMap_map, htransformers, htargets, Stage.id?]

theorem exists_stage_of_mem {id : StageId} (h : id ∈ plan.declaredIds) :
    ∃ stage ∈ plan.stages, stage.id? = some id := by
  rw [← ids_stages] at h
  exact List.mem_filterMap.mp h

/-- Identifiers tell stages apart. -/
theorem eq_of_id_eq (hids : plan.declaredIds.Nodup) {a b : Stage} (ha : a ∈ plan.stages)
    (hb : b ∈ plan.stages) {id : StageId} (hia : a.id? = some id) (hib : b.id? = some id) :
    a = b := by
  obtain ⟨hinput, hnodup⟩ := List.nodup_cons.mp hids
  rcases mem_stages_id ha hia with ⟨rfl, rfl⟩ | ⟨s, hs, rfl, rfl⟩ <;>
    rcases mem_stages_id hb hib with ⟨rfl, h⟩ | ⟨t, ht, rfl, h⟩
  · rfl
  · exact absurd (h ▸ List.mem_map_of_mem ht) hinput
  · exact absurd (h ▸ List.mem_map_of_mem hs) hinput
  · rw [List.inj_on_of_nodup_map hnodup hs ht h]

/-! ## Going back to the input -/

theorem acc_feeds_input (input : Input) : Acc plan.Feeds (.input input) :=
  ⟨_, fun _ ⟨_, _, hid, _⟩ => nomatch hid⟩

theorem ComesFromInput.acc (hids : plan.declaredIds.Nodup) {t : Transformer}
    (h : plan.ComesFromInput t) : Acc plan.Feeds (.transformer t) := by
  induction h with
  | @direct t hid =>
    refine ⟨_, fun source ⟨hs, id, hmem, hsource⟩ => ?_⟩
    rw [Stage.predecessorIds, hid, List.mem_singleton] at hmem
    rw [eq_of_id_eq hids hs (mem_stages.mpr (.inl rfl)) hsource (hmem ▸ rfl)]
    exact acc_feeds_input _
  | @behind t before ht hid _ ih =>
    refine ⟨_, fun source ⟨hs, id, hmem, hsource⟩ => ?_⟩
    rw [Stage.predecessorIds, hid, List.mem_singleton] at hmem
    rw [eq_of_id_eq hids hs (mem_stages.mpr (.inr (.inl ⟨before, ht, rfl⟩))) hsource (hmem ▸ rfl)]
    exact ih

/-- Going from stages to those that feed them ends. -/
theorem wellFounded_feeds (hids : plan.declaredIds.Nodup)
    (hfrom : ∀ t ∈ plan.transformers, plan.ComesFromInput t) : WellFounded plan.Feeds := by
  refine ⟨fun stage => ⟨_, fun source ⟨hs, id, _, hid⟩ => ?_⟩⟩
  rcases mem_stages_id hs hid with ⟨rfl, _⟩ | ⟨t, ht, rfl, _⟩
  · exact acc_feeds_input _
  · exact (hfrom t ht).acc hids

/-! ## Loops -/

theorem exists_transformer? {t : Transformer} (h : t ∈ plan.transformers) :
    ∃ found, plan.transformer? t.id = some found :=
  Option.isSome_iff_exists.mp
    (List.find?_isSome.mpr ⟨t, List.mem_reverse.mpr h, beq_self_eq_true t.id⟩)

/-- An identifier that is declared and not the input's is that of a transformer. -/
theorem exists_transformer?_of_ne_input {id : StageId} (h : id ∈ plan.declaredIds)
    (hne : id ≠ plan.input.id) : ∃ found, plan.transformer? id = some found := by
  obtain ⟨t, ht, rfl⟩ := List.mem_map.mp ((List.mem_cons.mp h).resolve_left hne)
  exact exists_transformer? ht

theorem transformer?_of_mem (hids : plan.declaredIds.Nodup) {t : Transformer}
    (h : t ∈ plan.transformers) : plan.transformer? t.id = some t := by
  obtain ⟨found, hfound⟩ := exists_transformer? h
  obtain ⟨hmem, hid⟩ := transformer?_eq_some hfound
  rw [hfound, List.inj_on_of_nodup_map (List.nodup_cons.mp hids).2 hmem h hid]

/-- A walk that meets only stages fed by its end finds no loop. -/
private theorem Finds.eq_none (hwf : WellFounded plan.Feeds) {path : List StageId}
    {current : Transformer} {found : Option (List StageId)} (h : plan.Finds path current found)
    (hpath : ∀ id ∈ path, ∃ t ∈ plan.transformers, t.id = id ∧
      Relation.ReflTransGen plan.Feeds (.transformer current) (.transformer t)) :
    found = none := by
  induction h with
  | input | unknown | itself => rfl
  | @loop before after current id hid =>
    obtain ⟨t, ht, rfl, hreach⟩ := hpath id (by simp)
    have hfeeds := feeds_of_predecessorIn ht (Transformer.predecessorIn_eq hid plan.input).symm
    have hloop := Relation.TransGen.tail' hreach hfeeds
    exact absurd hloop (hwf.transGen.asymmetric _ _ hloop)
  | @next path current next _ hid _ hnext _ ih =>
    have hn := (transformer?_eq_some hnext).1
    have hfeeds := feeds_of_predecessorIn hn (Transformer.predecessorIn_eq hid plan.input).symm
    refine ih fun id hm => ?_
    rcases List.mem_append.mp hm with hm | hm
    · obtain ⟨t, ht, rfl, hreach⟩ := hpath id hm
      exact ⟨t, ht, rfl, hreach.head hfeeds⟩
    · exact ⟨next, hn, (List.mem_singleton.mp hm).symm, .refl⟩

/-- A walk that finds no loop comes to the input, unless it meets a predecessor that is unknown or
a transformer that feeds itself. -/
private theorem Finds.comesFromInput
    (hresolved : ∀ t ∈ plan.transformers, t.predecessorIn plan.input ∈ plan.declaredIds)
    (hself : ∀ t ∈ plan.transformers, t.predecessorIn plan.input ≠ t.id)
    {start current : Transformer} {path : List StageId} {found : Option (List StageId)}
    (h : plan.Finds path current found) (hpath : plan.IsPath start path current)
    (hnone : found = none) : plan.ComesFromInput current := by
  induction h with
  | input hid => exact .direct hid
  | @unknown _ current id hid hne hunknown =>
    have hdeclared := hresolved current hpath.mem
    rw [Transformer.predecessorIn_eq hid] at hdeclared
    obtain ⟨found, hfound⟩ := exists_transformer?_of_ne_input hdeclared hne
    rw [hunknown] at hfound
    cases hfound
  | @itself before current id hid =>
    have hlast := hpath.last
    rw [List.getLast?_concat, Option.some.injEq] at hlast
    exact absurd (hlast ▸ Transformer.predecessorIn_eq hid plan.input) (hself current hpath.mem)
  | loop => cases hnone
  | @next _ current next _ hid hnew hnext _ ih =>
    exact .behind (transformer?_eq_some hnext).1 (Transformer.predecessorIn_eq hid plan.input)
      (ih (hpath.next hid hnew hnext) hnone)

/-- Loops are dropped only in favour of loops found before. -/
private theorem foldl_sameMembers_eq_nil_iff {loops found : List (List StageId)} :
    loops.foldl (fun found loop =>
      if found.any (sameMembers loop) then found else found ++ [loop]) found = [] ↔
        found = [] ∧ loops = [] := by
  induction loops generalizing found with
  | nil => simp
  | cons loop loops ih =>
    rw [List.foldl_cons, ih]
    cases found <;> simp
    split <;> simp

theorem loops_eq_nil_iff : plan.loops = [] ↔ ∀ t ∈ plan.transformers, plan.loopFrom t = none := by
  rw [loops, foldl_sameMembers_eq_nil_iff, List.filterMap_eq_nil_iff]
  exact and_iff_right rfl

/-! ## The problems of each check -/

theorem eq_duplicateStage_of_mem {seen : List StageId} {transformers : List Transformer}
    {problem : Problem} (h : problem ∈ duplicates seen transformers) :
    ∃ id, problem = .duplicateStage id := by
  induction transformers generalizing seen with
  | nil => cases h
  | cons t transformers ih =>
    rw [duplicates] at h
    split at h
    · rcases List.mem_cons.mp h with rfl | h
      · exact ⟨t.id, rfl⟩
      · exact ih h
    · exact ih h

theorem eq_danglingPredecessor_of_mem {problem : Problem} (h : problem ∈ plan.dangling) :
    ∃ stage id, problem = .danglingPredecessor stage id := by
  rcases List.mem_append.mp h with h | h
  · obtain ⟨t, _, ht⟩ := List.mem_filterMap.mp h
    simp only [Option.ite_none_left_eq_some, Option.some.injEq] at ht
    exact ⟨_, _, ht.2.symm⟩
  · obtain ⟨⟨stage, target⟩, _, htarget⟩ := List.mem_flatMap.mp h
    obtain ⟨id, _, rfl⟩ := List.mem_map.mp htarget
    exact ⟨stage, id, rfl⟩

theorem eq_selfReference_of_mem {problem : Problem} (h : problem ∈ plan.selfReferences) :
    ∃ id, problem = .selfReference id := by
  obtain ⟨t, _, rfl⟩ := List.mem_map.mp h
  exact ⟨t.id, rfl⟩

theorem eq_disabledPredecessor_of_mem {problem : Problem}
    (h : problem ∈ plan.disabledPredecessors) :
    ∃ stage id, problem = .disabledPredecessor stage id := by
  rcases List.mem_append.mp h with h | h
  · obtain ⟨t, _, ht⟩ := List.mem_filterMap.mp h
    simp only [Option.ite_none_right_eq_some, Option.some.injEq] at ht
    exact ⟨_, _, ht.2.symm⟩
  · obtain ⟨⟨stage, target⟩, _, htarget⟩ := List.mem_flatMap.mp h
    simp only [List.mem_ite_nil_right] at htarget
    obtain ⟨id, _, rfl⟩ := List.mem_map.mp htarget.2
    exact ⟨stage, id, rfl⟩

theorem eq_noTargets_of_mem {problem : Problem}
    (h : problem ∈ if plan.targets.isEmpty then [Problem.noTargets] else []) :
    problem = .noTargets := by
  rw [List.mem_ite_nil_right] at h
  exact List.mem_singleton.mp h.2

/-- Loops are reported by one check only. -/
theorem mem_loops_iff {members : List StageId} :
    .cyclicPipeline members ∈ plan.problems ↔ members ∈ plan.loops := by
  simp only [problems, List.mem_append]
  constructor
  · rintro (((((h | h) | h) | h) | h) | h)
    · obtain ⟨_, h⟩ := eq_duplicateStage_of_mem h
      cases h
    · obtain ⟨_, _, h⟩ := eq_danglingPredecessor_of_mem h
      cases h
    · obtain ⟨_, h⟩ := eq_selfReference_of_mem h
      cases h
    · simpa using h
    · obtain ⟨_, _, h⟩ := eq_disabledPredecessor_of_mem h
      cases h
    · cases eq_noTargets_of_mem h
  · intro h
    exact .inl (.inl (.inr (List.mem_map_of_mem h)))

/-! ## The checks -/

theorem duplicates_eq_nil_iff {seen : List StageId} {transformers : List Transformer} :
    duplicates seen transformers = [] ↔
      (transformers.map Transformer.id).Nodup ∧ ∀ t ∈ transformers, t.id ∉ seen := by
  induction transformers generalizing seen with
  | nil => simp [duplicates]
  | cons t transformers ih =>
    by_cases ht : t.id ∈ seen
    · simp [duplicates, ht]
    · simp only [duplicates, List.contains_iff_mem, ht, if_false, ih, List.mem_cons, not_or,
        List.map_cons, List.nodup_cons, List.mem_map, forall_eq_or_imp, not_false_iff, true_and]
      grind

theorem distinct_iff :
    duplicates [plan.input.id] plan.transformers = [] ↔ plan.declaredIds.Nodup := by
  rw [duplicates_eq_nil_iff, declaredIds, List.nodup_cons, and_comm]
  simp

theorem forall_mem_labelledTargets {p : Target → Prop} :
    (∀ labelled ∈ plan.labelledTargets, p labelled.2) ↔ ∀ target ∈ plan.targets, p target := by
  have hsnd : plan.labelledTargets.map Prod.snd = plan.targets := by
    simp [labelledTargets, Function.comp_def]
  conv_rhs => rw [← hsnd]
  rw [List.forall_mem_map]

theorem dangling_eq_nil_iff : plan.dangling = [] ↔
    (∀ t ∈ plan.transformers, t.predecessorIn plan.input ∈ plan.declaredIds) ∧
      ∀ target ∈ plan.targets, ∀ id ∈ target.predecessors, id ∈ plan.declaredIds := by
  rw [dangling, List.append_eq_nil_iff, List.filterMap_eq_nil_iff, List.flatMap_eq_nil_iff,
    ← forall_mem_labelledTargets]
  simp

theorem selfReferences_eq_nil_iff : plan.selfReferences = [] ↔
    ∀ t ∈ plan.transformers, t.predecessorIn plan.input ≠ t.id := by
  simp [selfReferences]

theorem isDisabled_iff (hids : plan.declaredIds.Nodup) {id : StageId} : plan.isDisabled id = true ↔
    ∃ t ∈ plan.transformers, t.id = id ∧ t.mode = .disabled := by
  rw [isDisabled, Option.any_eq_true]
  constructor
  · rintro ⟨t, ht, hmode⟩
    obtain ⟨hmem, hid⟩ := transformer?_eq_some ht
    exact ⟨t, hmem, hid, Mode.isDisabled_iff.mp hmode⟩
  · rintro ⟨t, ht, rfl, hmode⟩
    exact ⟨t, transformer?_of_mem hids ht, Mode.isDisabled_iff.mpr hmode⟩

theorem disabledPredecessors_eq_nil_iff : plan.disabledPredecessors = [] ↔
    (∀ t ∈ plan.transformers, t.mode ≠ .disabled →
      plan.isDisabled (t.predecessorIn plan.input) = false) ∧
      ∀ target ∈ plan.targets, target.mode ≠ .disabled →
        ∀ id ∈ target.predecessors, plan.isDisabled id = false := by
  rw [disabledPredecessors, List.append_eq_nil_iff, List.filterMap_eq_nil_iff,
    List.flatMap_eq_nil_iff, ← forall_mem_labelledTargets]
  simp [Mode.isExecuted_iff]

private theorem problems_eq_nil_iff_checks : plan.problems = [] ↔
    plan.declaredIds.Nodup ∧ plan.dangling = [] ∧ plan.selfReferences = [] ∧
      (∀ t ∈ plan.transformers, plan.loopFrom t = none) ∧ plan.disabledPredecessors = [] ∧
        plan.targets ≠ [] := by
  simp only [problems, List.append_eq_nil_iff, distinct_iff, List.map_eq_nil_iff,
    loops_eq_nil_iff, and_assoc]
  cases plan.targets <;> simp

/-- A transformer behind another one names it: only one behind the input may name none. -/
theorem predecessor_eq_some (hids : plan.declaredIds.Nodup) {t source : Transformer}
    (hs : source ∈ plan.transformers) (h : t.predecessorIn plan.input = source.id) :
    t.predecessor = some source.id := by
  cases hp : t.predecessor with
  | none =>
    rw [Transformer.predecessorIn, hp, Option.getD_none] at h
    exact absurd (h ▸ List.mem_map_of_mem hs) (List.nodup_cons.mp hids).1
  | some id => rw [← h, Transformer.predecessorIn, hp, Option.getD_some]

theorem isSound_of_problems_eq_nil (h : plan.problems = []) : plan.IsSound := by
  rw [problems_eq_nil_iff_checks, dangling_eq_nil_iff, selfReferences_eq_nil_iff,
    disabledPredecessors_eq_nil_iff] at h
  obtain ⟨hids, ⟨hresolved, htargets⟩, hself, hloops, ⟨hrunning, htrunning⟩, hne⟩ := h
  refine ⟨hids, hresolved, htargets, fun t ht => ?_, fun t ht hmode source hs hid hoff => ?_,
    fun target ht hmode source hs hid hoff => ?_, hne⟩
  · exact (finds_loopFrom ht).comesFromInput hresolved hself (.single ht) (hloops t ht)
  · have hnot := hrunning t ht hmode
    rw [Transformer.predecessorIn, hid, Option.getD_some] at hnot
    exact absurd ((isDisabled_iff hids).mpr ⟨source, hs, rfl, hoff⟩) (by simp [hnot])
  · have hnot := htrunning target ht hmode source.id hid
    exact absurd ((isDisabled_iff hids).mpr ⟨source, hs, rfl, hoff⟩) (by simp [hnot])

theorem IsSound.problems_eq_nil (h : plan.IsSound) : plan.problems = [] := by
  rw [problems_eq_nil_iff_checks, dangling_eq_nil_iff, selfReferences_eq_nil_iff,
    disabledPredecessors_eq_nil_iff]
  have hwf := wellFounded_feeds h.distinct h.fromInput
  refine ⟨h.distinct, ⟨h.resolved, h.targetsResolved⟩, fun t ht hid => ?_, fun t ht => ?_,
    ⟨fun t ht hmode => ?_, fun target ht hmode id hid => ?_⟩, h.hasTarget⟩
  · have hfeeds : plan.Feeds (.transformer t) (.transformer t) :=
      feeds_of_predecessorIn ht hid.symm
    exact hwf.asymmetric _ _ hfeeds hfeeds
  · refine (finds_loopFrom ht).eq_none hwf fun id hid => ?_
    exact ⟨t, ht, (List.mem_singleton.mp hid).symm, .refl⟩
  · rw [Bool.eq_false_iff, ne_eq, isDisabled_iff h.distinct]
    rintro ⟨source, hs, hid, hoff⟩
    exact h.running t ht hmode source hs (predecessor_eq_some h.distinct hs hid.symm) hoff
  · rw [Bool.eq_false_iff, ne_eq, isDisabled_iff h.distinct]
    rintro ⟨source, hs, rfl, hoff⟩
    exact h.targetsRunning target ht hmode source hs hid hoff

/-- The checks find no problem exactly in sound plans. -/
theorem problems_eq_nil_iff : plan.problems = [] ↔ plan.IsSound :=
  ⟨isSound_of_problems_eq_nil, IsSound.problems_eq_nil⟩

end StagePlan

end EncodingPlan
