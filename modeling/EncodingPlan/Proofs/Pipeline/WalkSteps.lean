import EncodingPlan.Proofs.Pipeline.Soundness
import Mathlib.Data.List.Dedup

/-! The walk from a transformer, step by step. No step is counted, and a plan may repeat identifiers,
name stages that do not exist and have any loops; the start need not even be one of its transformers.
The walk ends all the same, for it goes on only to an identifier that is not on its path yet. Where
identifiers are distinct, a walk that finds no loop is one that comes to the input, to an unknown
identifier or to a transformer that feeds itself. -/

namespace EncodingPlan

theorem Transformer.predecessor_of_ne {t : Transformer} {input : Input}
    (h : t.predecessorIn input ≠ input.id) : t.predecessor = some (t.predecessorIn input) := by
  rw [predecessorIn] at h ⊢
  cases hid : t.predecessor with
  | none =>
    rw [hid] at h
    exact absurd rfl h
  | some id => rfl

/-- What a walk does: it ends with an answer, or it goes on to a transformer. -/
inductive WalkStep where
  | ends (found : Option (List StageId))
  | goesOn (next : Transformer)

namespace StagePlan

variable {plan : StagePlan} {start current next : Transformer} {path : List StageId}
  {found : Option (List StageId)} {count : Nat}

/-- The step of a walk that has come to a transformer along a path. -/
def step (plan : StagePlan) (path : List StageId) (current : Transformer) : WalkStep :=
  let predecessor := current.predecessorIn plan.input
  if predecessor = plan.input.id then .ends none
  else if path.contains predecessor then
    let loop := path.dropWhile (· != predecessor)
    .ends (if loop.length > 1 then some loop else none)
  else
    match plan.transformer? predecessor with
    | some next => .goesOn next
    | none => .ends none

theorem loopWithin_succ (plan : StagePlan) (fuel : Nat) (path : List StageId)
    (current : Transformer) : plan.loopWithin (fuel + 1) path current =
      match plan.step path current with
      | .ends found => found
      | .goesOn next => plan.loopWithin fuel (path ++ [next.id]) next := by
  rw [loopWithin, step]
  split
  · rfl
  split
  · rfl
  cases plan.transformer? _ <;> rfl

/-- The walk from a transformer comes along a path to another one. -/
inductive Reaches (plan : StagePlan) (start : Transformer) : List StageId → Transformer → Prop where
  | start : Reaches plan start [start.id] start
  | next {path : List StageId} {current next : Transformer} :
    Reaches plan start path current → plan.step path current = .goesOn next →
    Reaches plan start (path ++ [next.id]) next

/-- A walk that has come to a transformer along a path ends after so many steps. -/
inductive EndsAfter (plan : StagePlan) :
    Nat → List StageId → Transformer → Option (List StageId) → Prop where
  | ends {path : List StageId} {current : Transformer} {found : Option (List StageId)} :
    plan.step path current = .ends found → EndsAfter plan 1 path current found
  | goesOn {count : Nat} {path : List StageId} {current next : Transformer}
      {found : Option (List StageId)} :
    plan.step path current = .goesOn next → EndsAfter plan count (path ++ [next.id]) next found →
    EndsAfter plan (count + 1) path current found

/-! ## Steps -/

theorem step_eq_goesOn (h : plan.step path current = .goesOn next) :
    current.predecessorIn plan.input ≠ plan.input.id ∧ current.predecessor = some next.id ∧
      next.id ∉ path ∧ plan.transformer? next.id = some next := by
  rw [step] at h
  split at h
  · cases h
  next hinput =>
  split at h
  · cases h
  next hnew =>
  split at h
  · next found hfound =>
    cases h
    obtain ⟨-, hid⟩ := transformer?_eq_some hfound
    rw [hid]
    exact ⟨hinput, Transformer.predecessor_of_ne hinput,
      fun hmem => hnew (List.contains_iff_mem.mpr hmem), hfound⟩
  · cases h

theorem IsPath.step_goesOn (h : plan.IsPath start path current)
    (hstep : plan.step path current = .goesOn next) :
    plan.IsPath start (path ++ [next.id]) next := by
  obtain ⟨-, hid, hnew, hnext⟩ := step_eq_goesOn hstep
  exact h.next hid hnew hnext

theorem IsPath.start_mem (h : plan.IsPath start path current) : start.id ∈ path :=
  List.mem_of_mem_head? h.head

theorem IsPath.current_mem (h : plan.IsPath start path current) : current.id ∈ path :=
  List.mem_of_mem_getLast? h.last

/-! ## Starting anywhere -/

/-- The plan with a transformer before its own ones. -/
def withStart (plan : StagePlan) (start : Transformer) : StagePlan :=
  { plan with transformers := start :: plan.transformers }

@[simp] theorem withStart_input : (plan.withStart start).input = plan.input := rfl

theorem transformer?_withStart {id : StageId} (h : id ≠ start.id) :
    (plan.withStart start).transformer? id = plan.transformer? id := by
  rw [transformer?, transformer?, withStart, List.reverse_cons, List.find?_append,
    List.find?_singleton, if_neg (by simpa using h.symm), Option.or_none]

/-- A walk never looks for the identifier of its start, which is on the path. -/
theorem step_withStart (h : start.id ∈ path) :
    (plan.withStart start).step path current = plan.step path current := by
  rw [step, step, withStart_input]
  split
  · rfl
  split
  · rfl
  next hnew =>
  have hne : current.predecessorIn plan.input ≠ start.id := by
    rintro heq
    exact hnew (List.contains_iff_mem.mpr (heq ▸ h))
  rw [transformer?_withStart hne]

theorem Reaches.isPath (h : plan.Reaches start path current) :
    (plan.withStart start).IsPath start path current := by
  induction h with
  | start => exact .single List.mem_cons_self
  | next _ hstep ih => exact ih.step_goesOn (by rwa [step_withStart ih.start_mem])

/-! ## The end -/

/-- A path holds at most one more identifier than the transformers of the plan have. -/
theorem Reaches.length_le (h : plan.Reaches start path current) :
    path.length ≤ (plan.transformers.map Transformer.id).dedup.length + 1 := by
  have hsub : path ⊆ start.id :: (plan.transformers.map Transformer.id).dedup := by
    intro id hid
    have hknown := h.isPath.known hid
    rw [withStart, List.map_cons, List.mem_cons] at hknown
    exact List.mem_cons.mpr (hknown.imp_right List.mem_dedup.mpr)
  exact h.isPath.nodup.length_le_of_subset hsub

theorem Reaches.exists_endsAfter {fuel : Nat} (h : plan.Reaches start path current)
    (hfuel : plan.transformers.length + 1 < path.length + fuel) :
    ∃ count, count + path.length ≤ (plan.transformers.map Transformer.id).dedup.length + 2 ∧
      plan.EndsAfter count path current (plan.loopWithin fuel path current) := by
  induction fuel generalizing path current with
  | zero =>
    have hdedup := (List.dedup_sublist (plan.transformers.map Transformer.id)).length_le
    have hlength := h.length_le
    rw [List.length_map] at hdedup
    omega
  | succ fuel ih =>
    rw [loopWithin_succ]
    cases hstep : plan.step path current with
    | ends found =>
      have hlength := h.length_le
      exact ⟨1, by omega, .ends hstep⟩
    | goesOn next =>
      obtain ⟨count, hcount, hends⟩ := ih (h.next hstep) (by
        rw [List.length_append, List.length_singleton]
        omega)
      rw [List.length_append, List.length_singleton] at hcount
      exact ⟨count + 1, by omega, .goesOn hstep hends⟩

theorem exists_endsAfter_loopFrom (plan : StagePlan) (start : Transformer) :
    ∃ count ≤ (plan.transformers.map Transformer.id).dedup.length + 1,
      plan.EndsAfter count [start.id] start (plan.loopFrom start) := by
  have hstart : plan.Reaches start [start.id] start := .start
  obtain ⟨count, hcount, hends⟩ := hstart.exists_endsAfter
    (show plan.transformers.length + 1 < [start.id].length + (plan.transformers.length + 1) by
      rw [List.length_singleton]
      omega)
  rw [List.length_singleton] at hcount
  exact ⟨count, by omega, hends⟩

/-- There is only one way for a walk to end. -/
theorem EndsAfter.unique {other : Nat} {found' : Option (List StageId)}
    (h : plan.EndsAfter count path current found) (h' : plan.EndsAfter other path current found') :
    other = count ∧ found' = found := by
  induction h generalizing other with
  | ends hstep =>
    cases h' with
    | ends hstep' =>
      rw [hstep, WalkStep.ends.injEq] at hstep'
      exact ⟨rfl, hstep'.symm⟩
    | goesOn hstep' _ =>
      rw [hstep] at hstep'
      cases hstep'
  | goesOn hstep _ ih =>
    cases h' with
    | ends hstep' =>
      rw [hstep] at hstep'
      cases hstep'
    | goesOn hstep' hrest =>
      rw [hstep, WalkStep.goesOn.injEq] at hstep'
      obtain ⟨rfl, hfound⟩ := ih (hstep' ▸ hrest)
      exact ⟨rfl, hfound⟩

theorem EndsAfter.withStart (h : plan.EndsAfter count path current found)
    (hstart : start.id ∈ path) : (plan.withStart start).EndsAfter count path current found := by
  induction h with
  | ends hstep => exact .ends (by rwa [step_withStart hstart])
  | goesOn hstep _ ih =>
    exact .goesOn (by rwa [step_withStart hstart]) (ih (List.mem_append_left _ hstart))

/-! ## Where walks end -/

/-- A walk that has come to a transformer goes on to the one that feeds it. -/
structure GoesOn (plan : StagePlan) (current next : Transformer) : Prop where
  mem : next ∈ plan.transformers
  predecessor_eq : current.predecessorIn plan.input = next.id
  ne_input : next.id ≠ plan.input.id

/-- The transformer is fed by the input, by an unknown stage or by itself. -/
inductive StopsAt (plan : StagePlan) (current : Transformer) : Prop where
  | input : current.predecessorIn plan.input = plan.input.id → StopsAt plan current
  | unknown : (∀ t ∈ plan.transformers, t.id ≠ current.predecessorIn plan.input) →
    StopsAt plan current
  | itself : current.predecessorIn plan.input = current.id → StopsAt plan current

theorem goesOn_of_step (h : plan.step path current = .goesOn next) : plan.GoesOn current next := by
  obtain ⟨hinput, hid, -, hnext⟩ := step_eq_goesOn h
  have hpredecessor := Transformer.predecessorIn_eq hid plan.input
  exact ⟨(transformer?_eq_some hnext).1, hpredecessor, hpredecessor ▸ hinput⟩

theorem predecessor_mem_of_step {loop : List StageId}
    (h : plan.step path current = .ends (some loop)) : current.predecessorIn plan.input ∈ path := by
  by_contra hnot
  rw [step] at h
  split at h
  · cases h
  rw [if_neg fun hc => hnot (List.contains_iff_mem.mp hc)] at h
  split at h <;> cases h

namespace IsPath

/-- Back on the path, the walk has found a loop unless it has not moved. -/
theorem step_of_mem (h : plan.IsPath start path current)
    (hinput : current.predecessorIn plan.input ≠ plan.input.id)
    (hmem : current.predecessorIn plan.input ∈ path) :
    plan.step path current = .ends (if current.predecessorIn plan.input = current.id then none
      else some (path.dropWhile (· != current.predecessorIn plan.input))) := by
  rw [step, if_neg hinput, if_pos (List.contains_iff_mem.mpr hmem)]
  obtain ⟨before, after, rfl, hnot⟩ := List.eq_append_cons_of_mem hmem
  have hlast := h.last
  rw [List.getLast?_append_cons] at hlast
  simp only [dropWhile_bne_append hnot, List.length_cons]
  cases after with
  | nil =>
    rw [List.getLast?_singleton, Option.some.injEq] at hlast
    rw [if_neg (by simp), if_pos hlast]
  | cons other after =>
    rw [List.getLast?_cons_cons] at hlast
    have hrepeat := (List.nodup_cons.mp (List.nodup_append.mp h.nodup).2.1).1
    rw [if_pos (by simp), if_neg]
    intro heq
    exact hrepeat (heq ▸ List.mem_of_getLast? hlast)

/-- The walk ends without a loop exactly where it has nowhere to go. -/
theorem step_eq_ends_none_iff (h : plan.IsPath start path current) :
    plan.step path current = .ends none ↔ plan.StopsAt current := by
  by_cases hinput : current.predecessorIn plan.input = plan.input.id
  · rw [step, if_pos hinput]
    exact iff_of_true rfl (.input hinput)
  by_cases hmem : current.predecessorIn plan.input ∈ path
  · rw [h.step_of_mem hinput hmem]
    by_cases hself : current.predecessorIn plan.input = current.id
    · rw [if_pos hself]
      exact iff_of_true rfl (.itself hself)
    · rw [if_neg hself]
      refine iff_of_false (by simp) fun hstops => ?_
      cases hstops with
      | input heq => exact hinput heq
      | unknown hunknown =>
        obtain ⟨t, ht, heq⟩ := List.mem_map.mp (h.known hmem)
        exact hunknown t ht heq
      | itself heq => exact hself heq
  · rw [step, if_neg hinput, if_neg fun hc => hmem (List.contains_iff_mem.mp hc)]
    cases hnext : plan.transformer? (current.predecessorIn plan.input) with
    | none =>
      refine iff_of_true rfl (.unknown fun t ht heq => ?_)
      obtain ⟨known, hknown⟩ := exists_transformer? ht
      rw [heq, hnext] at hknown
      cases hknown
    | some next =>
      obtain ⟨hknown, heq⟩ := transformer?_eq_some hnext
      refine iff_of_false (by simp) fun hstops => ?_
      cases hstops with
      | input heq => exact hinput heq
      | unknown hunknown => exact hunknown next hknown heq
      | itself heq => exact hmem (heq ▸ h.current_mem)

end IsPath

/-- A walk that finds no loop goes on until it has nowhere to go. -/
theorem EndsAfter.exists_stopsAt (h : plan.EndsAfter count path current found)
    (hpath : plan.IsPath start path current) (hnone : found = none) :
    ∃ last, Relation.ReflTransGen plan.GoesOn current last ∧ plan.StopsAt last := by
  induction h with
  | ends hstep =>
    rw [hnone] at hstep
    exact ⟨_, .refl, hpath.step_eq_ends_none_iff.mp hstep⟩
  | goesOn hstep _ ih =>
    obtain ⟨last, hreach, hstops⟩ := ih (hpath.step_goesOn hstep) hnone
    exact ⟨last, hreach.head (goesOn_of_step hstep), hstops⟩

section
variable (hids : ∀ s ∈ plan.transformers, ∀ t ∈ plan.transformers, s.id = t.id → s = t)
include hids

/-- A walk that finds a loop has somewhere to go from wherever it comes to. The transformers on its
path but the last one go on along the path. -/
theorem EndsAfter.not_stopsAt (h : plan.EndsAfter count path current found)
    (hpath : plan.IsPath start path current) (hsome : found ≠ none)
    (htrail : ∀ t ∈ plan.transformers, t.id ∈ path → t = current ∨
      ¬ plan.StopsAt t ∧ ∀ next, plan.GoesOn t next → next.id ∈ path)
    (hstart : start ∈ plan.transformers) {last : Transformer}
    (hreach : Relation.ReflTransGen plan.GoesOn start last) : ¬ plan.StopsAt last := by
  induction h with
  | @ends path current found hstep =>
    obtain ⟨loop, rfl⟩ := Option.ne_none_iff_exists'.mp hsome
    have hgoes : ∀ t ∈ plan.transformers, t.id ∈ path →
        ¬ plan.StopsAt t ∧ ∀ next, plan.GoesOn t next → next.id ∈ path := by
      intro t ht hid
      rcases htrail t ht hid with rfl | hon
      · refine ⟨fun hstops => ?_, fun next hnext => ?_⟩
        · rw [hpath.step_eq_ends_none_iff.mpr hstops] at hstep
          cases hstep
        · exact hnext.predecessor_eq ▸ predecessor_mem_of_step hstep
      · exact hon
    have hlast : last ∈ plan.transformers ∧ last.id ∈ path := by
      induction hreach with
      | refl => exact ⟨hstart, hpath.start_mem⟩
      | tail _ hnext ih => exact ⟨hnext.mem, (hgoes _ ih.1 ih.2).2 _ hnext⟩
    exact (hgoes last hlast.1 hlast.2).1
  | @goesOn _ path current next found hstep _ ih =>
    have hgoes := goesOn_of_step hstep
    refine ih (hpath.step_goesOn hstep) hsome fun t ht hid => ?_
    rcases List.mem_append.mp hid with hid | hid
    · refine .inr ?_
      rcases htrail t ht hid with rfl | ⟨hstops, hon⟩
      · refine ⟨fun hstops => ?_, fun other hother => ?_⟩
        · rw [hpath.step_eq_ends_none_iff.mpr hstops] at hstep
          cases hstep
        · rw [← hother.predecessor_eq, hgoes.predecessor_eq]
          exact List.mem_append_right _ (List.mem_singleton_self _)
      · exact ⟨hstops, fun other hother => List.mem_append_left _ (hon other hother)⟩
    · exact .inl (hids t ht next hgoes.mem (List.mem_singleton.mp hid))

/-- Where identifiers are distinct, a walk finds no loop exactly if it comes to a transformer from
which it cannot go on. -/
theorem EndsAfter.eq_none_iff (h : plan.EndsAfter count [start.id] start found)
    (hstart : start ∈ plan.transformers) : found = none ↔
      ∃ last, Relation.ReflTransGen plan.GoesOn start last ∧ plan.StopsAt last := by
  refine ⟨h.exists_stopsAt (.single hstart), fun ⟨last, hreach, hstops⟩ => ?_⟩
  by_contra hsome
  refine h.not_stopsAt hids (.single hstart) hsome (fun t ht hid => .inl ?_) hstart hreach hstops
  exact hids t ht start hstart (List.mem_singleton.mp hid)

end

/-- Whatever the plan is, the walk from a transformer comes to its end. -/
structure WalkEnds (plan : StagePlan) (start : Transformer) : Prop where
  /-- The path repeats no identifier, however far the walk has come. -/
  nodup : ∀ path current, plan.Reaches start path current → path.Nodup
  ends : ∃ count ≤ (plan.transformers.map Transformer.id).dedup.length + 1, ∀ other found,
    plan.EndsAfter other [start.id] start found ↔ other = count ∧ found = plan.loopFrom start
  /-- If no identifier is repeated, nothing is found exactly if the walk ends at the input, at an
  unknown stage or at a transformer that feeds itself. -/
  eq_none_iff : (plan.transformers.map Transformer.id).Nodup →
    (start ∈ plan.transformers ∨ start.id ∉ plan.transformers.map Transformer.id) →
    (plan.loopFrom start = none ↔
      ∃ last, Relation.ReflTransGen (plan.withStart start).GoesOn start last ∧
        (plan.withStart start).StopsAt last)

theorem walkEnds (plan : StagePlan) (start : Transformer) : plan.WalkEnds start where
  nodup _ _ hreaches := hreaches.isPath.nodup
  ends := by
    obtain ⟨count, hcount, hends⟩ := exists_endsAfter_loopFrom plan start
    refine ⟨count, hcount, fun other found => ⟨hends.unique, ?_⟩⟩
    rintro ⟨rfl, rfl⟩
    exact hends
  eq_none_iff hnodup hstart := by
    obtain ⟨_, -, hends⟩ := exists_endsAfter_loopFrom plan start
    refine (hends.withStart (List.mem_singleton_self _)).eq_none_iff ?_ List.mem_cons_self
    have hinj := List.inj_on_of_nodup_map hnodup
    have hown : ∀ t ∈ plan.transformers, start.id = t.id → start = t := by
      intro t ht heq
      rcases hstart with hmem | hnew
      · exact hinj hmem ht heq
      · exact absurd (heq ▸ List.mem_map_of_mem ht) hnew
    intro s hs t ht heq
    rcases List.mem_cons.mp hs with rfl | hmems
    · rcases List.mem_cons.mp ht with rfl | hmemt
      · rfl
      · exact hown t hmemt heq
    · rcases List.mem_cons.mp ht with rfl | hmemt
      · exact (hown s hmems heq.symm).symm
      · exact hinj hmems hmemt heq

/-- The walk comes back to the identifier of its start, which another transformer has as well. -/
example :
    let stage (id source : String) : Transformer := ⟨⟨id⟩, .identity, .enabled, some ⟨source⟩⟩
    let plan : StagePlan := ⟨⟨.input⟩, [stage "a" "b", stage "b" "a", stage "a" "c"], []⟩
    plan.loopFrom (stage "a" "b") = some [⟨"a"⟩, ⟨"b"⟩] ∧ plan.loopFrom (stage "a" "c") = none := by
  decide

end StagePlan

end EncodingPlan
