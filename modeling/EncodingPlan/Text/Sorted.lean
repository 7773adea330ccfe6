/-! Lists in strictly ascending order, as sets are listed. -/

namespace EncodingPlan.Text

variable {α : Type} [LT α] [DecidableLT α]

/-- Puts a member in its place unless it is there already. -/
def insertSorted (a : α) : List α → List α
  | [] => [a]
  | b :: bs => if a < b then a :: b :: bs else if b < a then b :: insertSorted a bs else b :: bs

/-- The members in ascending order, each once. -/
def sorted (as : List α) : List α := as.foldr insertSorted []

section
variable [Std.Trichotomous (α := α) (· < ·)]

/-- A member that is neither smaller nor greater than the new one is the new one. -/
theorem mem_insertSorted {a b : α} {bs : List α} : a ∈ insertSorted b bs ↔ a = b ∨ a ∈ bs := by
  induction bs with
  | nil => simp [insertSorted]
  | cons c cs ih =>
    rw [insertSorted]
    split
    · rw [List.mem_cons]
    · rename_i hbc
      split
      · rw [List.mem_cons, ih, List.mem_cons]
        exact or_left_comm
      · rename_i hcb
        rw [List.mem_cons, Std.Trichotomous.trichotomous b c hbc hcb, or_self_left]

theorem mem_sorted {a : α} {as : List α} : a ∈ sorted as ↔ a ∈ as := by
  induction as with
  | nil => rfl
  | cons b bs ih => rw [sorted, List.foldr_cons, ← sorted, mem_insertSorted, ih, List.mem_cons]

variable [Trans (α := α) (β := α) (γ := α) (· < ·) (· < ·) (· < ·)]

theorem pairwise_insertSorted {a : α} {bs : List α} (h : bs.Pairwise (· < ·)) :
    (insertSorted a bs).Pairwise (· < ·) := by
  induction bs with
  | nil => exact List.pairwise_singleton _ a
  | cons b bs ih =>
    obtain ⟨hb, hbs⟩ := List.pairwise_cons.mp h
    rw [insertSorted]
    split
    · rename_i hab
      refine List.pairwise_cons.mpr ⟨fun c hc => ?_, h⟩
      rcases List.mem_cons.mp hc with rfl | hc
      · exact hab
      · exact Trans.trans hab (hb c hc)
    · split
      · rename_i hba
        refine List.pairwise_cons.mpr ⟨fun c hc => ?_, ih hbs⟩
        rcases mem_insertSorted.mp hc with rfl | hc
        · exact hba
        · exact hb c hc
      · exact h

theorem pairwise_sorted (as : List α) : (sorted as).Pairwise (· < ·) := by
  induction as with
  | nil => exact List.Pairwise.nil
  | cons a as ih => exact pairwise_insertSorted ih

/-- Members that are the same, in whatever order and number, are listed the same. -/
theorem sorted_eq_of_mem_iff [Std.Irrefl (α := α) (· < ·)] {as bs : List α}
    (h : ∀ a, a ∈ as ↔ a ∈ bs) : sorted as = sorted bs := by
  have hnodup (cs : List α) : (sorted cs).Nodup := by
    refine (pairwise_sorted cs).imp fun {a b} hlt => ?_
    rintro rfl
    exact Std.Irrefl.irrefl a hlt
  have hperm : (sorted as).Perm (sorted bs) :=
    (List.perm_ext_iff_of_nodup (hnodup as) (hnodup bs)).mpr fun a => by
      rw [mem_sorted, mem_sorted, h]
  refine hperm.eq_of_pairwise (fun a b _ _ hab hba => ?_) (pairwise_sorted as) (pairwise_sorted bs)
  exact absurd (Trans.trans hab hba) (Std.Irrefl.irrefl a)

end

end EncodingPlan.Text
