import Mathlib.Data.List.Induction
import Mathlib.Data.List.Nodup

/-! Lists of which only the first occurrence of every member is kept. -/

namespace EncodingPlan

variable {α β : Type} [DecidableEq α] {l : List α} {a : α}

theorem eraseDups_eq_self (h : l.Nodup) : l.eraseDups = l := by
  induction l with
  | nil => rfl
  | cons a l ih =>
    obtain ⟨ha, hl⟩ := List.nodup_cons.mp h
    have hfilter : l.filter (fun b => !b == a) = l := by
      refine List.filter_eq_self.mpr fun b hb => ?_
      rw [Bool.not_eq_true', beq_eq_false_iff_ne]
      rintro rfl
      exact ha hb
    rw [List.eraseDups_cons, hfilter, ih hl]

theorem eraseDups_concat :
    (l ++ [a]).eraseDups = if a ∈ l then l.eraseDups else l.eraseDups ++ [a] := by
  rw [List.eraseDups_append]
  by_cases ha : a ∈ l
  · simp [ha, List.removeAll]
  · simp [ha, List.removeAll, List.eraseDups_cons]

/-- The members that are kept come in the order of their first occurrences. -/
theorem pairwise_eraseDups : l.eraseDups.Pairwise fun earlier later =>
    ∃ before after, l = before ++ earlier :: after ∧ later ∉ before ++ [earlier] := by
  induction l using List.reverseRecOn with
  | nil => exact .nil
  | append_singleton l a ih =>
    have hextend := ih.imp fun {earlier later} ⟨before, after, hl, hlater⟩ =>
      (⟨before, after ++ [a], by rw [hl, List.append_assoc, List.cons_append], hlater⟩ :
        ∃ before after, l ++ [a] = before ++ earlier :: after ∧ later ∉ before ++ [earlier])
    rw [eraseDups_concat]
    split
    · exact hextend
    · rename_i ha
      refine List.pairwise_append.mpr ⟨hextend, List.pairwise_singleton .., ?_⟩
      intro earlier hearlier later hlater
      rw [List.mem_singleton.mp hlater]
      obtain ⟨before, after, rfl⟩ := List.append_of_mem (List.mem_eraseDups.mp hearlier)
      refine ⟨before, after ++ [a], by simp, fun hmem => ha ?_⟩
      rw [List.append_cons]
      exact List.mem_append_left _ hmem

theorem nodup_eraseDups (l : List α) : l.eraseDups.Nodup :=
  pairwise_eraseDups.imp fun ⟨before, _, _, hlater⟩ heq => hlater (heq ▸ by simp)

/-! ## First occurrences up to likeness -/

section
variable {γ : Type} {like : γ → γ → Bool} {l : List γ}

/-- Keeps what is not like anything kept before. -/
theorem foldl_unlike_subset :
    l.foldl (fun kept a => if kept.any (like a) then kept else kept ++ [a]) [] ⊆ l := by
  induction l using List.reverseRecOn with
  | nil => exact List.Subset.refl _
  | append_singleton l a ih =>
    have hsub := List.subset_append_of_subset_left [a] ih
    rw [List.foldl_concat]
    split
    · exact hsub
    · exact List.append_subset.mpr ⟨hsub, List.subset_append_right _ _⟩

/-- Keeping what is not like anything kept before is keeping the first occurrences, once like things
are made equal. -/
theorem map_foldl_unlike [DecidableEq β] {f : γ → β}
    (h : ∀ a ∈ l, ∀ b ∈ l, like a b = true ↔ f a = f b) :
    (l.foldl (fun kept a => if kept.any (like a) then kept else kept ++ [a]) []).map f =
      (l.map f).eraseDups := by
  induction l using List.reverseRecOn with
  | nil => rfl
  | append_singleton l a ih =>
    replace ih := ih fun b hb c hc =>
      h b (List.mem_append_left _ hb) c (List.mem_append_left _ hc)
    have hlike : (l.foldl (fun kept a => if kept.any (like a) then kept else kept ++ [a]) []).any
        (like a) = true ↔ f a ∈ l.map f := by
      rw [← List.mem_eraseDups, ← ih, List.any_eq_true, List.mem_map]
      refine exists_congr fun b => and_congr_right fun hb => ?_
      rw [h a (by simp) b (List.mem_append_left _ (foldl_unlike_subset hb)), eq_comm]
    rw [List.map_append, List.map_singleton, eraseDups_concat, ← ih, List.foldl_concat]
    simp only [hlike]
    split
    · rfl
    · rw [List.map_append, List.map_singleton]

end

end EncodingPlan
