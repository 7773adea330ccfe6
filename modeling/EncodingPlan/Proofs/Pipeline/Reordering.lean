import EncodingPlan.Proofs.Pipeline.Neighbours
import EncodingPlan.Proofs.Pipeline.Relabelling
import Mathlib.Data.List.Perm.Subperm
import Mathlib.Logic.Equiv.Basic

/-! The order of declaration. Transformers can be declared in any order, and so can targets, which
then change their ordinals. The same plans are sound, the same stages feed each other, and every
stage runs on the same level. The order only decides between stages that could run next. -/

namespace EncodingPlan

/-! ## Lists in another order -/

/-- Lists that agree up to order are both empty or both kept. -/
theorem forall₂_filter_nonempty {α β : Type} {f : α → β} {ls : List (List β)} {ks : List (List α)}
    (h : List.Forall₂ List.Perm ls (ks.map (List.map f))) :
    List.Forall₂ List.Perm (ls.filter (!·.isEmpty))
      ((ks.filter (!·.isEmpty)).map (List.map f)) := by
  rw [List.forall₂_map_right_iff] at h ⊢
  refine List.rel_filter (fun l k hperm => ?_) h
  change (!l.isEmpty) = true ↔ (!k.isEmpty) = true
  rw [hperm.isEmpty_eq, List.isEmpty_map]

/-- The members of corresponding lists correspond. -/
theorem exists_mem_iff_of_forall₂_perm {α β : Type} {f : α → β} (hf : f.Injective)
    {ls : List (List β)} {ks : List (List α)}
    (h : List.Forall₂ List.Perm ls (ks.map (List.map f))) (a : α) (index : Nat) :
    (∃ l, ls[index]? = some l ∧ f a ∈ l) ↔ ∃ k, ks[index]? = some k ∧ a ∈ k := by
  rw [List.forall₂_map_right_iff] at h
  induction h generalizing index with
  | nil => simp
  | @cons l k ls ks hperm _ ih =>
    cases index with
    | zero => simp [hperm.mem_iff, hf.eq_iff]
    | succ index => simpa using ih index

/-- The places when one element more comes first. -/
def behindFirst (place : Equiv.Perm Nat) : Equiv.Perm Nat where
  toFun
    | 0 => 0
    | i + 1 => place i + 1
  invFun
    | 0 => 0
    | i + 1 => place.symm i + 1
  left_inv i := by cases i <;> simp
  right_inv i := by cases i <;> simp

/-- Every permutation of a list gives each of its elements a new place. -/
theorem exists_place {α : Type} {l k : List α} (h : l.Perm k) :
    ∃ place : Equiv.Perm Nat, ∀ i, k[place i]? = l[i]? := by
  induction h with
  | nil => exact ⟨.refl _, fun _ => rfl⟩
  | cons a _ ih =>
    obtain ⟨place, hplace⟩ := ih
    refine ⟨behindFirst place, fun i => ?_⟩
    cases i with
    | zero => rfl
    | succ i => exact hplace i
  | swap a b l =>
    refine ⟨Equiv.swap 0 1, fun i => ?_⟩
    rcases i with _ | _ | i
    · rfl
    · rfl
    · rw [Equiv.swap_apply_of_ne_of_ne (by simp) (by simp)]
      rfl
  | trans _ _ ih ih' =>
    obtain ⟨place, hplace⟩ := ih
    obtain ⟨place', hplace'⟩ := ih'
    exact ⟨place.trans place', fun i => (hplace' (place i)).trans (hplace i)⟩

/-! ## Stages at other places -/

namespace Stage

variable {place : Equiv.Perm Nat} {stage : Stage}

/-- The stage, where targets have changed places. -/
def relocate (place : Equiv.Perm Nat) : Stage → Stage
  | input i => input i
  | transformer t => transformer t
  | target ordinal t => target (place ordinal) t

@[simp] theorem relocate_symm_relocate : relocate place.symm (relocate place stage) = stage := by
  cases stage <;> simp [relocate]

theorem relocate_injective : (relocate place).Injective :=
  Function.LeftInverse.injective fun _ => relocate_symm_relocate

variable (place) in
theorem relocate_surjective : (relocate place).Surjective :=
  fun stage => ⟨relocate place.symm stage, relocate_symm_relocate⟩

/-- Lists without repeats agree up to order if they have the same members. -/
theorem perm_map_relocate {stages others : List Stage} (hstages : stages.Nodup)
    (hothers : others.Nodup) (hmem : ∀ stage, stage.relocate place ∈ others ↔ stage ∈ stages) :
    others.Perm (stages.map (relocate place)) := by
  refine (List.perm_ext_iff_of_nodup hothers (hstages.map relocate_injective)).mpr fun stage => ?_
  obtain ⟨stage, rfl⟩ := relocate_surjective place stage
  rw [hmem, List.mem_map_of_injective relocate_injective]

@[simp] theorem id?_relocate : (stage.relocate place).id? = stage.id? := by
  cases stage <;> rfl

@[simp] theorem isExecuted_relocate : (stage.relocate place).isExecuted = stage.isExecuted := by
  cases stage <;> rfl

theorem filter_isExecuted_relocate (stages : List Stage) :
    (stages.map (relocate place)).filter isExecuted =
      (stages.filter isExecuted).map (relocate place) :=
  filter_map_of_eq (fun _ => isExecuted_relocate) stages

@[simp] theorem predecessorIds_relocate (whole : Input) :
    (stage.relocate place).predecessorIds whole = stage.predecessorIds whole := by
  cases stage <;> rfl

end Stage

/-! ## Plans in another order -/

namespace StagePlan

variable {plan other : StagePlan} {place : Equiv.Perm Nat}

/-- The other plan declares the same input and transformers, and every target at its new place. -/
structure Reorders (plan other : StagePlan) (place : Equiv.Perm Nat) : Prop where
  input : other.input = plan.input
  transformers : other.transformers.Perm plan.transformers
  targets : ∀ ordinal, other.targets[place ordinal]? = plan.targets[ordinal]?

/-- Any other order of the declarations comes from new places. -/
theorem exists_reorders (hinput : other.input = plan.input)
    (htransformers : other.transformers.Perm plan.transformers)
    (htargets : other.targets.Perm plan.targets) : ∃ place, plan.Reorders other place := by
  obtain ⟨place, hplace⟩ := exists_place htargets.symm
  exact ⟨place, hinput, htransformers, hplace⟩

/-- Where the other plan has the stage of the position; positions outside stay outside. -/
def rankIn (plan other : StagePlan) (place : Equiv.Perm Nat) (position : Nat) : Nat :=
  match plan.stages[position]? with
  | some stage => other.stages.idxOf (stage.relocate place)
  | none => other.stages.length

namespace Reorders

theorem symm (h : plan.Reorders other place) : other.Reorders plan place.symm where
  input := h.input.symm
  transformers := h.transformers.symm
  targets ordinal := by rw [← h.targets, Equiv.apply_symm_apply]

variable (h : plan.Reorders other place)
include h

theorem mem_targets {target : Target} (ht : target ∈ plan.targets) : target ∈ other.targets := by
  obtain ⟨ordinal, hordinal⟩ := List.mem_iff_getElem?.mp ht
  exact List.mem_of_getElem? ((h.targets ordinal).trans hordinal)

theorem declaredIds_perm : other.declaredIds.Perm plan.declaredIds := by
  rw [declaredIds, declaredIds, h.input]
  exact (h.transformers.map _).cons _

theorem mem_stages_iff {stage : Stage} :
    stage.relocate place ∈ other.stages ↔ stage ∈ plan.stages := by
  rw [mem_stages, mem_stages]
  cases stage with
  | input i => simp [Stage.relocate, h.input]
  | transformer t => simp [Stage.relocate, h.transformers.mem_iff]
  | target ordinal t => simp [Stage.relocate, ← h.targets]

theorem feeds_iff {source stage : Stage} :
    other.Feeds (source.relocate place) (stage.relocate place) ↔ plan.Feeds source stage := by
  rw [Feeds, Feeds, h.mem_stages_iff, h.input, Stage.predecessorIds_relocate, Stage.id?_relocate]

theorem comesFromInput {t : Transformer} (ht : plan.ComesFromInput t) : other.ComesFromInput t := by
  induction ht with
  | direct hid => exact .direct (by rwa [h.input])
  | behind hs hid _ ih => exact .behind (h.transformers.mem_iff.mpr hs) (by rwa [h.input]) ih

theorem isSound (hsound : plan.IsSound) : other.IsSound := by
  have hids {id : StageId} : id ∈ other.declaredIds ↔ id ∈ plan.declaredIds :=
    h.declaredIds_perm.mem_iff
  have htransformers {t : Transformer} : t ∈ other.transformers ↔ t ∈ plan.transformers :=
    h.transformers.mem_iff
  refine ⟨h.declaredIds_perm.nodup_iff.mpr hsound.distinct, fun t ht => ?_,
    fun target ht id hid => ?_, fun t ht => ?_, fun t ht hmode source hs => ?_,
    fun target ht hmode source hs => ?_, ?_⟩
  · rw [h.input, hids]
    exact hsound.resolved t (htransformers.mp ht)
  · rw [hids]
    exact hsound.targetsResolved target (h.symm.mem_targets ht) id hid
  · exact h.comesFromInput (hsound.fromInput t (htransformers.mp ht))
  · exact hsound.running t (htransformers.mp ht) hmode source (htransformers.mp hs)
  · exact hsound.targetsRunning target (h.symm.mem_targets ht) hmode source (htransformers.mp hs)
  · obtain ⟨target, ht⟩ := List.exists_mem_of_ne_nil _ hsound.hasTarget
    exact List.ne_nil_of_mem (h.mem_targets ht)

theorem isSound_iff : other.IsSound ↔ plan.IsSound := ⟨h.symm.isSound, h.isSound⟩

theorem stages_perm (hids : plan.declaredIds.Nodup) :
    other.stages.Perm (plan.stages.map (Stage.relocate place)) := by
  have hids' := h.declaredIds_perm.nodup_iff.mpr hids
  exact Stage.perm_map_relocate (nodup_stages hids) (nodup_stages hids') fun _ => h.mem_stages_iff

/-! ## Positions in another order -/

theorem getElem?_rankIn (position : Nat) : other.stages[rankIn plan other place position]? =
    plan.stages[position]?.map (Stage.relocate place) := by
  rw [rankIn]
  cases hstage : plan.stages[position]? with
  | none => simp
  | some stage =>
    have hmem := h.mem_stages_iff.mpr (List.mem_of_getElem? hstage)
    simpa using List.getElem?_idxOf hmem

theorem relabels (hsound : plan.IsSound) :
    plan.graph.Relabels other.graph (rankIn plan other place) := by
  intro p q
  rw [links_graph, links_graph, mem_links (h.isSound hsound).distinct, mem_links hsound.distinct,
    h.getElem?_rankIn, h.getElem?_rankIn]
  simp only [Option.map_eq_some_iff]
  constructor
  · rintro ⟨_, _, ⟨a, ha, rfl⟩, ⟨b, hb, rfl⟩, hfeeds⟩
    exact ⟨a, b, ha, hb, h.feeds_iff.mp hfeeds⟩
  · rintro ⟨a, b, ha, hb, hfeeds⟩
    exact ⟨_, _, ⟨a, ha, rfl⟩, ⟨b, hb, rfl⟩, h.feeds_iff.mpr hfeeds⟩

/-- Every position of the other plan is the place of one stage. -/
theorem range_perm (hids : plan.declaredIds.Nodup) : (List.range other.stages.length).Perm
    ((List.range plan.stages.length).map (rankIn plan other place)) := by
  have hlength := (h.stages_perm hids).length_eq
  rw [List.length_map] at hlength
  have hnodup : ((List.range plan.stages.length).map (rankIn plan other place)).Nodup := by
    refine List.Nodup.map_on (fun p hp q _ heq => ?_) List.nodup_range
    have hstages := congrArg (other.stages[·]?) heq
    simp only [h.getElem?_rankIn] at hstages
    exact (List.getElem?_inj (List.mem_range.mp hp) (nodup_stages hids)).mp
      (Option.map_injective Stage.relocate_injective hstages)
  have hinside : (List.range plan.stages.length).map (rankIn plan other place) ⊆
      List.range other.stages.length := by
    intro number hnumber
    obtain ⟨p, hp, rfl⟩ := List.mem_map.mp hnumber
    have hstage := h.getElem?_rankIn p
    rw [List.getElem?_eq_getElem (List.mem_range.mp hp)] at hstage
    exact List.mem_range.mpr (List.getElem?_eq_some_iff.mp hstage).1
  refine ((List.subperm_of_subset hnodup hinside).perm_of_length_le ?_).symm
  rw [List.length_map, List.length_range, List.length_range, hlength]

end Reorders

end StagePlan

namespace Pipeline

variable {plan other : StagePlan} {pipeline pipeline' : Pipeline} {place : Equiv.Perm Nat}

/-! ## Pipelines in another order -/

/-- Up to the places of targets, both pipelines have the same neighbours and run the same stages on
the same levels. -/
structure RunsAlike (pipeline : Pipeline) (place : Equiv.Perm Nat) (other : Pipeline) : Prop where
  predecessors : ∀ id, (other.predecessors id).Perm
    ((pipeline.predecessors id).map (Stage.relocate place))
  successors : ∀ id, (other.successors id).Perm
    ((pipeline.successors id).map (Stage.relocate place))
  executed : other.executionOrder.Perm (pipeline.executionOrder.map (Stage.relocate place))
  levels : ∀ stage (index : Nat),
    (∃ level, other.levels[index]? = some level ∧ stage.relocate place ∈ level) ↔
      ∃ level, pipeline.levels[index]? = some level ∧ stage ∈ level

section
variable (h : plan.Reorders other place) (hplan : plan.assemble = .ok pipeline)
  (hother : other.assemble = .ok pipeline')
include h hplan hother

theorem predecessors_perm_map (id : StageId) : (pipeline'.predecessors id).Perm
    ((pipeline.predecessors id).map (Stage.relocate place)) := by
  refine Stage.perm_map_relocate (nodup_predecessors hplan id) (nodup_predecessors hother id)
    fun stage => ?_
  rw [mem_predecessors_iff hother, mem_predecessors_iff hplan,
    (Stage.relocate_surjective place).exists]
  simp only [h.mem_stages_iff, h.feeds_iff, Stage.id?_relocate]

theorem successors_perm_map (id : StageId) : (pipeline'.successors id).Perm
    ((pipeline.successors id).map (Stage.relocate place)) := by
  refine Stage.perm_map_relocate (nodup_successors hplan id) (nodup_successors hother id)
    fun stage => ?_
  rw [mem_successors_iff hother, mem_successors_iff hplan,
    (Stage.relocate_surjective place).exists]
  simp only [h.mem_stages_iff, h.feeds_iff, Stage.id?_relocate]

theorem executionOrder_perm_map : pipeline'.executionOrder.Perm
    (pipeline.executionOrder.map (Stage.relocate place)) := by
  obtain ⟨_, hsound, _⟩ := StagePlan.assemble_eq_ok hplan
  have hstages := (h.stages_perm hsound.distinct).filter Stage.isExecuted
  rw [Stage.filter_isExecuted_relocate] at hstages
  exact (executionOrder_perm hother).trans
    (hstages.trans ((executionOrder_perm hplan).symm.map _))

theorem stagesAt_perm_map {positions numbers : List Nat}
    (hnumbers : numbers.Perm (positions.map (plan.rankIn other place))) :
    (pipeline'.stagesAt numbers).Perm
      ((pipeline.stagesAt positions).map (Stage.relocate place)) := by
  obtain ⟨rfl, _⟩ := StagePlan.assemble_eq_ok hplan
  obtain ⟨rfl, _⟩ := StagePlan.assemble_eq_ok hother
  refine (hnumbers.filterMap _).trans (.of_eq ?_)
  rw [List.filterMap_map, stagesAt, List.map_filterMap]
  exact List.filterMap_congr fun position _ => h.getElem?_rankIn position

/-- Level by level the same stages run. -/
theorem levels_forall₂ : List.Forall₂ List.Perm pipeline'.levels
    (pipeline.levels.map (List.map (Stage.relocate place))) := by
  obtain ⟨_, hsound, _⟩ := StagePlan.assemble_eq_ok hplan
  obtain ⟨layers, hlayers, hlevels⟩ := exists_layers hplan
  obtain ⟨layers', hlayers', hlevels'⟩ := exists_layers hother
  have hpositions := (h.relabels hsound).layers hlayers (h.range_perm hsound.distinct) hlayers'
  rw [hlevels, hlevels']
  refine forall₂_filter_nonempty ?_
  rw [List.forall₂_map_right_iff] at hpositions
  rw [List.map_map, List.forall₂_map_left_iff, List.forall₂_map_right_iff]
  refine hpositions.imp fun numbers positions hnumbers => ?_
  rw [Function.comp_apply, ← Stage.filter_isExecuted_relocate]
  exact (stagesAt_perm_map h hplan hother hnumbers).filter _

end

end Pipeline

/-- Of one plan and the same plan in another order, both are assembled or none is, and then they
run alike. -/
theorem StagePlan.runsAlike_of_reorders {plan other : StagePlan} {place : Equiv.Perm Nat}
    (h : plan.Reorders other place) :
    ((∃ pipeline, other.assemble = .ok pipeline) ↔ ∃ pipeline, plan.assemble = .ok pipeline) ∧
      ∀ pipeline pipeline', plan.assemble = .ok pipeline → other.assemble = .ok pipeline' →
        pipeline.RunsAlike place pipeline' := by
  refine ⟨?_, fun pipeline pipeline' hplan hother => ?_⟩
  · rw [exists_pipeline_iff, exists_pipeline_iff, h.isSound_iff]
  · have hlevels := Pipeline.levels_forall₂ h hplan hother
    exact ⟨Pipeline.predecessors_perm_map h hplan hother,
      Pipeline.successors_perm_map h hplan hother,
      Pipeline.executionOrder_perm_map h hplan hother,
      exists_mem_iff_of_forall₂_perm Stage.relocate_injective hlevels⟩

/-- Two transformers and two targets change places, one of the targets fed by both transformers and
the other one disabled. -/
theorem StagePlan.runsAlike_of_swapped_declarations :
    let first : Transformer := { id := ⟨"T1"⟩, kind := .profiler }
    let second : Transformer := { id := ⟨"T2"⟩, kind := .flattener, predecessor := some ⟨"T1"⟩ }
    let schema : Target := { kind := .xmlSchema, predecessors := [⟨"T2"⟩, ⟨"T1"⟩] }
    let table : Target := { kind := .sqlDdl, mode := .disabled }
    let plan : StagePlan := ⟨{}, [first, second], [schema, table]⟩
    let other : StagePlan := ⟨{}, [second, first], [table, schema]⟩
    plan.Reorders other (Equiv.swap 0 1) ∧
      ∃ pipeline pipeline', plan.assemble = .ok pipeline ∧ other.assemble = .ok pipeline' ∧
        pipeline.RunsAlike (Equiv.swap 0 1) pipeline' := by
  intro first second schema table plan other
  have hreorders : plan.Reorders other (Equiv.swap 0 1) := by
    refine ⟨rfl, .swap _ _ _, fun ordinal => ?_⟩
    rcases ordinal with _ | _ | ordinal
    · rfl
    · rfl
    · rw [Equiv.swap_apply_of_ne_of_ne (by simp) (by simp)]
      rfl
  have hproblems : plan.problems = [] := by decide +kernel
  obtain ⟨hassembled, halike⟩ := runsAlike_of_reorders hreorders
  obtain ⟨pipeline, hplan⟩ := (problems_eq_nil_iff.mp hproblems).exists_pipeline
  obtain ⟨pipeline', hother⟩ := hassembled.mpr ⟨pipeline, hplan⟩
  exact ⟨hreorders, pipeline, pipeline', hplan, hother, halike pipeline pipeline' hplan hother⟩

end EncodingPlan
