import EncodingPlan.Pipeline.Validation
import Mathlib.Data.List.Chain
import Mathlib.Data.List.Nodup

/-! The walk from a transformer to its predecessor, to the predecessor of that one and so on. It
ends at the input, at an identifier that no transformer has, at a transformer that names itself, or
where it would come back to an earlier one. It does end, for its path repeats no identifier. -/

namespace EncodingPlan

theorem Transformer.predecessorIn_eq {t : Transformer} {id : StageId} (h : t.predecessor = some id)
    (input : Input) : t.predecessorIn input = id := by
  rw [predecessorIn, h, Option.getD_some]

namespace StagePlan

variable {plan : StagePlan} {start current : Transformer} {path : List StageId}

theorem transformer?_eq_some {id : StageId} {t : Transformer} (h : plan.transformer? id = some t) :
    t ∈ plan.transformers ∧ t.id = id :=
  ⟨List.mem_reverse.mp (List.mem_of_find?_eq_some h), by simpa using List.find?_some h⟩

/-- A transformer with the first identifier names the second one as its predecessor. -/
def Names (plan : StagePlan) (id source : StageId) : Prop :=
  ∃ t ∈ plan.transformers, t.id = id ∧ t.predecessor = some source

/-! ## Paths -/

/-- The path of a walk that has come from one transformer to another. -/
structure IsPath (plan : StagePlan) (start : Transformer) (path : List StageId)
    (current : Transformer) : Prop where
  mem : current ∈ plan.transformers
  head : path.head? = some start.id
  last : path.getLast? = some current.id
  known : path ⊆ plan.transformers.map Transformer.id
  nodup : path.Nodup
  linked : path.IsChain plan.Names

namespace IsPath

theorem single (h : start ∈ plan.transformers) : plan.IsPath start [start.id] start where
  mem := h
  head := rfl
  last := rfl
  known := List.cons_subset.mpr ⟨List.mem_map_of_mem h, List.nil_subset _⟩
  nodup := List.nodup_singleton _
  linked := List.isChain_singleton _

/-- A step to a transformer that is not on the path. -/
theorem next (h : plan.IsPath start path current) {next : Transformer}
    (hid : current.predecessor = some next.id) (hnew : next.id ∉ path)
    (hnext : plan.transformer? next.id = some next) :
    plan.IsPath start (path ++ [next.id]) next where
  mem := (transformer?_eq_some hnext).1
  head := by
    have hne : path ≠ [] := List.ne_nil_of_mem (List.mem_of_mem_head? h.head)
    rw [List.head?_append_of_ne_nil _ hne, h.head]
  last := List.getLast?_concat
  known := List.append_subset.mpr ⟨h.known, List.cons_subset.mpr
    ⟨List.mem_map_of_mem (transformer?_eq_some hnext).1, List.nil_subset _⟩⟩
  nodup := by
    rw [← List.concat_eq_append]
    exact h.nodup.concat hnew
  linked := by
    refine h.linked.append (List.isChain_singleton _) fun last hlast first hfirst => ?_
    rw [h.last, Option.mem_some_iff] at hlast
    rw [List.head?_singleton, Option.mem_some_iff] at hfirst
    exact ⟨current, h.mem, hlast, hfirst ▸ hid⟩

theorem length_le (h : plan.IsPath start path current) :
    path.length ≤ plan.transformers.length := by
  have hle := h.nodup.length_le_of_subset h.known
  rwa [List.length_map] at hle

end IsPath

/-! ## Outcomes -/

/-- What the walk finds that has come to a transformer along a path: the loop, from the place on the
path that it comes back to, or nothing. -/
inductive Finds (plan : StagePlan) : List StageId → Transformer → Option (List StageId) → Prop where
  | input {path : List StageId} {current : Transformer} :
      current.predecessorIn plan.input = plan.input.id → Finds plan path current none
  | unknown {path : List StageId} {current : Transformer} {id : StageId} :
      current.predecessor = some id → id ≠ plan.input.id → plan.transformer? id = none →
      Finds plan path current none
  | itself {before : List StageId} {current : Transformer} {id : StageId} :
      current.predecessor = some id → Finds plan (before ++ [id]) current none
  | loop {before after : List StageId} {current : Transformer} {id : StageId} :
      current.predecessor = some id → after ≠ [] →
      Finds plan (before ++ id :: after) current (some (id :: after))
  | next {path : List StageId} {current next : Transformer} {found : Option (List StageId)} :
      current.predecessor = some next.id → next.id ∉ path →
      plan.transformer? next.id = some next → Finds plan (path ++ [next.id]) next found →
      Finds plan path current found

theorem dropWhile_bne_append {id : StageId} {before after : List StageId} (h : id ∉ before) :
    (before ++ id :: after).dropWhile (· != id) = id :: after := by
  rw [List.dropWhile_append_of_pos fun a ha => ?_]
  · simp
  · rw [bne_iff_ne]
    rintro rfl
    exact h ha

/-- A repeat that is no loop repeats the end of the path. -/
private theorem finds_of_mem {id : StageId} (hid : current.predecessor = some id)
    (hmem : id ∈ path) : plan.Finds path current
      (let loop := path.dropWhile (· != id); if loop.length > 1 then some loop else none) := by
  obtain ⟨before, after, rfl, hnot⟩ := List.eq_append_cons_of_mem hmem
  simp only [dropWhile_bne_append hnot, List.length_cons]
  cases after with
  | nil => exact .itself hid
  | cons other after => exact .loop hid (List.cons_ne_nil other after)

/-- With a step for every transformer that is not on the path, the walk comes to its end. -/
theorem IsPath.finds {fuel : Nat} (h : plan.IsPath start path current)
    (hfuel : plan.transformers.length < path.length + fuel) :
    plan.Finds path current (plan.loopWithin fuel path current) := by
  induction fuel generalizing path current with
  | zero => exact absurd hfuel (Nat.not_lt.mpr h.length_le)
  | succ fuel ih =>
    rw [loopWithin]
    by_cases hinput : current.predecessorIn plan.input = plan.input.id
    · rw [if_pos hinput]
      exact .input hinput
    rw [if_neg hinput]
    obtain ⟨id, hid⟩ : ∃ id, current.predecessor = some id := by
      rw [← Option.ne_none_iff_exists']
      intro hnone
      rw [Transformer.predecessorIn, hnone] at hinput
      exact hinput rfl
    rw [Transformer.predecessorIn_eq hid] at hinput ⊢
    by_cases hmem : id ∈ path
    · rw [if_pos (List.contains_iff_mem.mpr hmem)]
      exact finds_of_mem hid hmem
    rw [if_neg fun hc => hmem (List.contains_iff_mem.mp hc)]
    cases hnext : plan.transformer? id with
    | none => exact .unknown hid hinput hnext
    | some next =>
      obtain ⟨-, rfl⟩ := transformer?_eq_some hnext
      refine .next hid hmem hnext (ih (h.next hid hmem hnext) ?_)
      rw [List.length_append, List.length_singleton]
      omega

theorem finds_loopFrom {t : Transformer} (h : t ∈ plan.transformers) :
    plan.Finds [t.id] t (plan.loopFrom t) :=
  (IsPath.single h).finds (by rw [List.length_singleton]; omega)

end StagePlan

end EncodingPlan
