import EncodingPlan.Pipeline.Graph
import Mathlib.Data.List.Perm.Basic
import Mathlib.Order.WellFounded

/-! What it is to order a graph and to part it into levels, said without counting links. A position
is ready among those that remain when none of them leads to it. A schedule takes the least ready
position again and again, and layers take all ready positions at once. Both exist if the graph has
no cycle, take every position once, and no link leads back in them. -/

namespace EncodingPlan.StageGraph

variable {graph : StageGraph} {size : Nat} {links : List (Nat × Nat)}

/-! ## Links -/

theorem connect?_of_lt {source target : Nat} (hs : source < graph.size) (ht : target < graph.size) :
    ∃ linked, graph.connect? source target = some linked ∧ linked.size = graph.size ∧
      linked.links = graph.links ++ [(source, target)] := by
  simp [connect?, position, hs, ht]

private theorem foldl_connect (graph : StageGraph)
    (h : ∀ link ∈ links, link.1 < graph.size ∧ link.2 < graph.size) :
    let linked := links.foldl
      (fun graph (source, target) => (graph.connect? source target).getD graph) graph
    linked.size = graph.size ∧ linked.links = graph.links ++ links := by
  induction links generalizing graph with
  | nil => simp
  | cons link links ih =>
    obtain ⟨hs, ht⟩ := h link List.mem_cons_self
    obtain ⟨linked, hconnect, hsize, hlinks⟩ := connect?_of_lt hs ht
    have hrest : ∀ link ∈ links, link.1 < linked.size ∧ link.2 < linked.size := by
      rw [hsize]
      exact fun link hl => h link (List.mem_cons_of_mem _ hl)
    obtain ⟨hsize', hlinks'⟩ := ih linked hrest
    simp only [List.foldl_cons, hconnect, Option.getD_some]
    exact ⟨hsize'.trans hsize, by rw [hlinks', hlinks]; simp⟩

/-- Links inside the graph are all kept. -/
theorem size_ofLinks (h : ∀ link ∈ links, link.1 < size ∧ link.2 < size) :
    (ofLinks size links).size = size :=
  (foldl_connect (unlinked size) h).1

theorem links_ofLinks (h : ∀ link ∈ links, link.1 < size ∧ link.2 < size) :
    (ofLinks size links).links = links :=
  (foldl_connect (unlinked size) h).2

/-! ## Readiness -/

/-- No position that remains leads to this one. -/
def Ready (graph : StageGraph) (remaining : List Nat) (position : Nat) : Prop :=
  ∀ source ∈ remaining, (source, position) ∉ graph.links

instance (remaining : List Nat) (position : Nat) : Decidable (graph.Ready remaining position) :=
  inferInstanceAs (Decidable (∀ source ∈ remaining, _))

theorem Ready.anti {remaining fewer : List Nat} {position : Nat}
    (h : graph.Ready remaining position) (hsub : fewer ⊆ remaining) :
    graph.Ready fewer position :=
  fun source hs => h source (hsub hs)

theorem mem_filter_ready {remaining : List Nat} {position : Nat} :
    position ∈ remaining.filter (graph.Ready remaining ·) ↔
      position ∈ remaining ∧ graph.Ready remaining position := by
  rw [List.mem_filter, decide_eq_true_eq]

/-- Going from position to position against the links ends. -/
def IsAcyclic (graph : StageGraph) : Prop :=
  WellFounded fun source target => (source, target) ∈ graph.links

theorem IsAcyclic.exists_ready (h : graph.IsAcyclic) {remaining : List Nat}
    (hne : remaining ≠ []) : ∃ position ∈ remaining, graph.Ready remaining position :=
  h.has_min {position | position ∈ remaining} (List.exists_mem_of_ne_nil _ hne)

/-! ## Schedules -/

/-- Takes the least ready position of those that remain until none does. -/
inductive Schedule (graph : StageGraph) : List Nat → List Nat → Prop where
  | nil : Schedule graph [] []
  | cons {remaining rest : List Nat} {next : Nat} : next ∈ remaining → graph.Ready remaining next →
      (∀ other ∈ remaining, graph.Ready remaining other → next ≤ other) →
      Schedule graph (remaining.erase next) rest → Schedule graph remaining (next :: rest)

theorem IsAcyclic.exists_schedule (h : graph.IsAcyclic) (remaining : List Nat) :
    ∃ order, graph.Schedule remaining order := by
  induction hn : remaining.length generalizing remaining with
  | zero =>
    rw [List.length_eq_zero_iff.mp hn]
    exact ⟨[], .nil⟩
  | succ n ih =>
    have hne : remaining ≠ [] := List.ne_nil_of_length_eq_add_one hn
    obtain ⟨next, ⟨hmem, hready⟩, hleast⟩ :=
      wellFounded_lt.has_min {position | position ∈ remaining ∧ graph.Ready remaining position}
        (h.exists_ready hne)
    obtain ⟨rest, hrest⟩ := ih (remaining.erase next) (by
      rw [List.length_erase_of_mem hmem, hn, Nat.add_sub_cancel])
    exact ⟨next :: rest, .cons hmem hready
      (fun other hm hr => Nat.le_of_not_lt (hleast other ⟨hm, hr⟩)) hrest⟩

namespace Schedule

variable {remaining order : List Nat}

theorem perm (h : graph.Schedule remaining order) : order.Perm remaining := by
  induction h with
  | nil => exact .nil
  | cons hmem _ _ _ ih => exact (ih.cons _).trans (List.perm_cons_erase hmem).symm

theorem pairwise (h : graph.Schedule remaining order) :
    order.Pairwise fun earlier later => (later, earlier) ∉ graph.links := by
  induction h with
  | nil => exact .nil
  | cons _ hready _ hrest ih =>
    refine List.pairwise_cons.mpr ⟨fun later hl => ?_, ih⟩
    exact hready later (List.mem_of_mem_erase (hrest.perm.mem_iff.mp hl))

theorem head?_eq_zero (h : graph.Schedule remaining order) (hmem : 0 ∈ remaining)
    (hready : graph.Ready remaining 0) : order.head? = some 0 := by
  cases h with
  | nil => cases hmem
  | cons _ _ hleast _ => rw [List.head?_cons, Nat.le_zero.mp (hleast 0 hmem hready)]

end Schedule

/-! ## Layers -/

/-- Takes all ready positions of those that remain until none does. -/
inductive Layers (graph : StageGraph) : List Nat → List (List Nat) → Prop where
  | nil : Layers graph [] []
  | cons {remaining : List Nat} {rest : List (List Nat)} :
      remaining.filter (graph.Ready remaining ·) ≠ [] →
      Layers graph (remaining.filter (¬ graph.Ready remaining ·)) rest →
      Layers graph remaining (remaining.filter (graph.Ready remaining ·) :: rest)

theorem IsAcyclic.exists_layers (h : graph.IsAcyclic) (remaining : List Nat) :
    ∃ levels, graph.Layers remaining levels := by
  induction hn : remaining.length using Nat.strong_induction_on generalizing remaining with
  | _ n ih =>
    by_cases hne : remaining = []
    · exact ⟨[], hne ▸ .nil⟩
    obtain ⟨position, hmem, hready⟩ := h.exists_ready hne
    have hlt : (remaining.filter (¬ graph.Ready remaining ·)).length < n := by
      rw [← hn]
      exact List.length_filter_lt_length_iff_exists.mpr ⟨position, hmem, by simpa using hready⟩
    obtain ⟨rest, hrest⟩ := ih _ hlt _ rfl
    exact ⟨_, .cons (List.ne_nil_of_mem (mem_filter_ready.mpr ⟨hmem, hready⟩)) hrest⟩

namespace Layers

variable {remaining : List Nat} {levels : List (List Nat)}

theorem perm (h : graph.Layers remaining levels) : levels.flatten.Perm remaining := by
  induction h with
  | nil => exact .nil
  | @cons remaining rest _ _ ih =>
    rw [List.flatten_cons]
    refine (ih.append_left _).trans ?_
    simpa using List.filter_append_perm (graph.Ready remaining ·) remaining

/-- No level leads to an earlier one. -/
theorem pairwise (h : graph.Layers remaining levels) :
    levels.Pairwise fun earlier later =>
      ∀ source ∈ later, ∀ target ∈ earlier, (source, target) ∉ graph.links := by
  induction h with
  | nil => exact .nil
  | cons _ hrest ih =>
    refine List.pairwise_cons.mpr ⟨fun later hl source hs target ht => ?_, ih⟩
    have hready := (mem_filter_ready.mp ht).2
    have hsource := hrest.perm.mem_iff.mp (List.mem_flatten_of_mem hl hs)
    exact hready source (List.mem_filter.mp hsource).1

/-- No level leads to itself. -/
theorem not_self (h : graph.Layers remaining levels) :
    ∀ level ∈ levels, ∀ source ∈ level, ∀ target ∈ level, (source, target) ∉ graph.links := by
  induction h with
  | nil => simp
  | cons _ _ ih =>
    intro level hl source hs target ht
    rcases List.mem_cons.mp hl with rfl | hl
    · exact (mem_filter_ready.mp ht).2 source (mem_filter_ready.mp hs).1
    · exact ih level hl source hs target ht

end Layers

end EncodingPlan.StageGraph
