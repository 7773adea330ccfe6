import EncodingPlan.Proofs.Pipeline.GraphOrder
import Mathlib.Data.List.Forall2

/-! A graph under other numbers. A position is ready under its new number when it is ready under its
old one, so the layers collect the same positions. Only the order within a layer follows the
numbers. -/

namespace EncodingPlan

/-- What passes is the same before and after new names are given. -/
theorem filter_map_of_eq {α β : Type} {f : α → β} {test : α → Bool} {renamed : β → Bool}
    (h : ∀ a, renamed (f a) = test a) (l : List α) :
    (l.map f).filter renamed = (l.filter test).map f := by
  rw [List.filter_map]
  congr 1
  exact List.filter_congr fun a _ => h a

namespace StageGraph

variable {graph other : StageGraph} {rank : Nat → Nat} {remaining numbers : List Nat}

theorem filter_perm_map {test renamed : Nat → Bool} (hnumbers : numbers.Perm (remaining.map rank))
    (htest : ∀ p, renamed (rank p) = test p) :
    (numbers.filter renamed).Perm ((remaining.filter test).map rank) :=
  (hnumbers.filter renamed).trans (.of_eq (filter_map_of_eq htest remaining))

/-- The links of both graphs are the same, under the new numbers in the second one. -/
def Relabels (graph other : StageGraph) (rank : Nat → Nat) : Prop :=
  ∀ p q, (rank p, rank q) ∈ other.links ↔ (p, q) ∈ graph.links

namespace Relabels

variable (h : graph.Relabels other rank)
include h

theorem ready_iff (hnumbers : numbers.Perm (remaining.map rank)) {p : Nat} :
    other.Ready numbers (rank p) ↔ graph.Ready remaining p := by
  simp only [Ready, hnumbers.mem_iff, List.forall_mem_map]
  exact forall₂_congr fun source _ => not_congr (h source p)

/-- Both graphs take the same positions at once. -/
theorem layers {levels ranked : List (List Nat)} (hl : graph.Layers remaining levels)
    (hnumbers : numbers.Perm (remaining.map rank)) (hr : other.Layers numbers ranked) :
    List.Forall₂ List.Perm ranked (levels.map (List.map rank)) := by
  induction hl generalizing numbers ranked with
  | nil =>
    obtain rfl := hnumbers.eq_nil
    cases hr with
    | nil => exact .nil
    | cons hne _ => exact absurd rfl hne
  | @cons remaining rest hne _ ih =>
    have hready (p : Nat) := h.ready_iff hnumbers (p := p)
    have hlevel : (numbers.filter (other.Ready numbers ·)).Perm
        ((remaining.filter (graph.Ready remaining ·)).map rank) :=
      filter_perm_map hnumbers fun p => decide_eq_decide.mpr (hready p)
    have hrest : (numbers.filter (¬ other.Ready numbers ·)).Perm
        ((remaining.filter (¬ graph.Ready remaining ·)).map rank) :=
      filter_perm_map hnumbers fun p => decide_eq_decide.mpr (not_congr (hready p))
    cases hr with
    | nil => exact absurd (List.map_eq_nil_iff.mp hlevel.symm.eq_nil) hne
    | cons _ hothers => exact .cons hlevel (ih hrest hothers)

end Relabels

end StageGraph

end EncodingPlan
