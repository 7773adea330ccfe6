import EncodingPlan.Proofs.Pipeline.Frontier
import Mathlib.Order.WellFoundedSet

/-! The order of a graph among all the orders that its links allow. A position that comes first in
one of them is ready, and the schedule takes the least ready position, so it is the first of them in
the lexicographic order. There is one unless the graph has a cycle: links between finitely many
positions can only be followed forever along a cycle. -/

namespace EncodingPlan.StageGraph

variable {graph : StageGraph} {size : Nat} {links : List (Nat × Nat)} {remaining order : List Nat}

/-- Every position comes once, and every link leads to a later one. -/
structure IsTopological (size : Nat) (links : List (Nat × Nat)) (order : List Nat) : Prop where
  perm : order.Perm (List.range size)
  forward : ∀ link ∈ links, order.idxOf link.1 < order.idxOf link.2

/-- Following links from some position leads back to it. -/
def HasCycle (links : List (Nat × Nat)) : Prop :=
  ∃ position, Relation.TransGen (fun source target => (source, target) ∈ links) position position

/-! ## Cycles -/

theorem IsTopological.not_hasCycle (h : IsTopological size links order) : ¬ HasCycle links := by
  rintro ⟨position, hcycle⟩
  have hlater : ∀ {target}, Relation.TransGen (fun source target => (source, target) ∈ links)
      position target → order.idxOf position < order.idxOf target := by
    intro target hreach
    induction hreach with
    | single hlink => exact h.forward _ hlink
    | tail _ hlink ih => exact ih.trans (h.forward _ hlink)
  exact Nat.lt_irrefl _ (hlater hcycle)

/-- All links stay within finitely many positions. -/
theorem isAcyclic_of_not_hasCycle (h : ¬ HasCycle graph.links) : graph.IsAcyclic := by
  let Reaches := Relation.TransGen fun source target => (source, target) ∈ graph.links
  have hstrict : IsStrictOrder Nat Reaches :=
    { irrefl := fun position hcycle => h ⟨position, hcycle⟩
      trans := fun _ _ _ => Relation.TransGen.trans }
  have hwf := Set.wellFoundedOn_iff.mp ((Set.finite_lt_nat graph.size).wellFoundedOn (r := Reaches))
  exact Subrelation.wf (fun hlink => ⟨.single hlink, graph.inside _ hlink⟩) hwf

/-! ## The least order -/

theorem Schedule.forward (h : graph.Schedule remaining order) {source target : Nat}
    (hs : source ∈ remaining) (ht : target ∈ remaining) (hlink : (source, target) ∈ graph.links) :
    order.idxOf source < order.idxOf target := by
  induction h with
  | nil => cases hs
  | @cons remaining rest next _ hready _ _ ih =>
    -- nothing that remains leads to the position taken
    have htarget : target ≠ next := by
      rintro rfl
      exact hready source hs hlink
    rw [List.idxOf_cons_ne rest htarget.symm]
    by_cases hsource : source = next
    · rw [hsource, List.idxOf_cons_self]
      exact Nat.succ_pos _
    · rw [List.idxOf_cons_ne rest (Ne.symm hsource)]
      exact Nat.succ_lt_succ
        (ih ((List.mem_erase_of_ne hsource).mpr hs) ((List.mem_erase_of_ne htarget).mpr ht))

theorem Schedule.isTopological (h : graph.Schedule (List.range graph.size) order) :
    IsTopological graph.size graph.links order where
  perm := h.perm
  forward link hlink := by
    obtain ⟨hs, ht⟩ := graph.inside link hlink
    exact h.forward (List.mem_range.mpr hs) (List.mem_range.mpr ht) hlink

/-- Whatever comes next in an order that the links allow is ready among the positions left. -/
theorem IsTopological.ready {before after : List Nat} {position : Nat}
    (h : IsTopological size graph.links (before ++ position :: after)) :
    graph.Ready (position :: after) position := by
  intro source hsource hlink
  have hnodup := h.perm.nodup_iff.mpr List.nodup_range
  obtain ⟨-, -, hdisjoint⟩ := List.nodup_append.mp hnodup
  have hlater : ∀ p ∈ position :: after, p ∉ before := fun p hp hb => hdisjoint p hb p hp rfl
  have hlt := h.forward _ hlink
  rw [List.idxOf_append_of_notMem (hlater source hsource),
    List.idxOf_append_of_notMem (hlater position List.mem_cons_self), List.idxOf_cons_self] at hlt
  omega

/-- Taking the least ready position each time keeps below every order of ready positions. -/
theorem Schedule.lex_of_ready (h : graph.Schedule remaining order) {other : List Nat}
    (hperm : other.Perm remaining)
    (hready : ∀ before position after, other = before ++ position :: after →
      graph.Ready (position :: after) position) (hne : other ≠ order) :
    List.Lex (· < ·) order other := by
  induction h generalizing other with
  | nil => exact absurd hperm.eq_nil hne
  | @cons remaining rest next hmem _ hleast _ ih =>
    cases other with
    | nil => exact absurd (hperm.symm.eq_nil ▸ hmem) List.not_mem_nil
    | cons first others =>
      have hfirst : graph.Ready remaining first :=
        (hready [] first others rfl).anti hperm.symm.subset
      rcases Nat.lt_or_eq_of_le (hleast first (hperm.subset List.mem_cons_self) hfirst) with
        hlt | rfl
      · exact .rel hlt
      · refine .cons (ih (List.cons_perm_iff_perm_erase.mp hperm).2 ?_ ?_)
        · intro before position after hothers
          exact hready (next :: before) position after (by rw [hothers, List.cons_append])
        · rintro rfl
          exact hne rfl

theorem Schedule.lex_of_isTopological (h : graph.Schedule (List.range graph.size) order)
    {other : List Nat} (hother : IsTopological graph.size graph.links other) (hne : other ≠ order) :
    List.Lex (· < ·) order other := by
  refine h.lex_of_ready hother.perm (fun before position after hsplit => ?_) hne
  rw [hsplit] at hother
  exact hother.ready

theorem exists_ordered (h : ¬ HasCycle graph.links) : ∃ order, graph.ordered = some order := by
  obtain ⟨order, horder⟩ :=
    (isAcyclic_of_not_hasCycle h).exists_schedule (List.range graph.size)
  exact ⟨order, ordered_eq_some_iff.mpr horder⟩

/-- Links inside a graph give it an order unless they form a cycle. The order is the first one, in
the lexicographic order, of all those in which every link leads to a later position. -/
theorem ordered_isLeast (h : ∀ link ∈ links, link.1 < size ∧ link.2 < size) :
    ((ofLinks size links).ordered = none ↔ HasCycle links) ∧
      ∀ order, (ofLinks size links).ordered = some order ↔ IsTopological size links order ∧
        ∀ other, IsTopological size links other → other ≠ order →
          List.Lex (· < ·) order other := by
  have hsize := size_ofLinks h
  have hlinks := links_ofLinks h
  have hleast {order : List Nat} (horder : (ofLinks size links).ordered = some order) :
      IsTopological size links order ∧ ∀ other, IsTopological size links other → other ≠ order →
        List.Lex (· < ·) order other := by
    have hschedule := ordered_eq_some_iff.mp horder
    have htopological := hschedule.isTopological
    rw [hsize, hlinks] at htopological
    refine ⟨htopological, fun other hother => hschedule.lex_of_isTopological ?_⟩
    rwa [hsize, hlinks]
  have hexists (hacyclic : ¬ HasCycle links) : ∃ order, (ofLinks size links).ordered = some order :=
    exists_ordered (by rwa [hlinks])
  refine ⟨⟨fun hnone => ?_, fun hcycle => ?_⟩, fun order => ⟨hleast, fun ⟨horder, hfirst⟩ => ?_⟩⟩
  · by_contra hacyclic
    obtain ⟨order, horder⟩ := hexists hacyclic
    rw [hnone] at horder
    cases horder
  · by_contra hsome
    obtain ⟨order, horder⟩ := Option.ne_none_iff_exists'.mp hsome
    exact (hleast horder).1.not_hasCycle hcycle
  · obtain ⟨found, hfound⟩ := hexists horder.not_hasCycle
    by_cases heq : found = order
    · rw [hfound, heq]
    · obtain ⟨hperm, hless⟩ := hleast hfound
      exact absurd (hless order horder (Ne.symm heq)) (asymm (hfirst found hperm heq))

/-- A parallel link, and a position that has to wait for a later one. -/
theorem ordered_isLeast_of_parallel_links :
    let links := [(0, 3), (3, 1), (0, 2), (0, 3)]
    (∀ link ∈ links, link.1 < 4 ∧ link.2 < 4) ∧ (ofLinks 4 links).ordered = some [0, 2, 3, 1] ∧
      IsTopological 4 links [0, 3, 2, 1] ∧ List.Lex (· < ·) [0, 2, 3, 1] [0, 3, 2, 1] ∧
      ¬ HasCycle links := by
  intro links
  have hinside : ∀ link ∈ links, link.1 < 4 ∧ link.2 < 4 := by decide
  have horder : (ofLinks 4 links).ordered = some [0, 2, 3, 1] := by decide
  have hother : IsTopological 4 links [0, 3, 2, 1] := ⟨by decide, by decide⟩
  obtain ⟨hcycle, hleast⟩ := ordered_isLeast hinside
  refine ⟨hinside, horder, hother, ?_, ?_⟩
  · exact ((hleast _).mp horder).2 _ hother (by decide)
  · rw [← hcycle, horder]
    exact Option.some_ne_none _

end EncodingPlan.StageGraph
