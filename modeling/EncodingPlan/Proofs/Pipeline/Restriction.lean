import EncodingPlan.Proofs.Pipeline.GraphOrder

/-! A part of a graph that nothing leads into from outside. Positions outside it can change neither
what is ready in the part nor which of two ready positions comes first. So the schedule of the part
is what the schedule of the graph leaves when the other positions are dropped and the rest is
numbered anew, and its layers are what is left of the layers of the graph. -/

namespace EncodingPlan.StageGraph

variable {graph part : StageGraph} {kept : Nat → Bool} {rank : Nat → Nat}

/-- The positions that are kept make up the part, under numbers that ascend as the old ones do, and
whatever leads to one of them is kept. -/
structure HasPart (graph part : StageGraph) (kept : Nat → Bool) (rank : Nat → Nat) : Prop where
  ascending : ∀ p q, kept p = true → kept q = true → p < q → rank p < rank q
  links : ∀ p q, kept p = true → kept q = true →
    ((rank p, rank q) ∈ part.links ↔ (p, q) ∈ graph.links)
  closed : ∀ p q, (p, q) ∈ graph.links → kept q = true → kept p = true

/-- Those of the positions that are kept, under their new numbers. -/
def restrict (kept : Nat → Bool) (rank : Nat → Nat) (positions : List Nat) : List Nat :=
  (positions.filter kept).map rank

theorem mem_restrict {positions : List Nat} {number : Nat} :
    number ∈ restrict kept rank positions ↔
      ∃ p ∈ positions, kept p = true ∧ rank p = number := by
  simp [restrict, and_assoc]

theorem restrict_cons_of_pos {positions : List Nat} {p : Nat} (hp : kept p = true) :
    restrict kept rank (p :: positions) = rank p :: restrict kept rank positions := by
  rw [restrict, List.filter_cons_of_pos hp, List.map_cons, restrict]

theorem restrict_cons_of_neg {positions : List Nat} {p : Nat} (hp : ¬ kept p = true) :
    restrict kept rank (p :: positions) = restrict kept rank positions := by
  rw [restrict, List.filter_cons_of_neg hp, restrict]

theorem restrict_erase_of_neg {positions : List Nat} {p : Nat} (hp : ¬ kept p = true) :
    restrict kept rank (positions.erase p) = restrict kept rank positions := by
  rw [restrict, ← List.erase_filter, List.erase_of_not_mem fun hm => hp (List.mem_filter.mp hm).2,
    restrict]

theorem restrict_filter {test renamed : Nat → Bool}
    (h : ∀ p, kept p = true → renamed (rank p) = test p) (positions : List Nat) :
    restrict kept rank (positions.filter test) =
      (restrict kept rank positions).filter renamed := by
  induction positions with
  | nil => rfl
  | cons p positions ih =>
    by_cases hp : kept p = true
    · by_cases ht : test p = true
      · rw [List.filter_cons_of_pos ht, restrict_cons_of_pos hp, restrict_cons_of_pos hp, ih,
          List.filter_cons_of_pos ((h p hp).trans ht)]
      · rw [List.filter_cons_of_neg ht, restrict_cons_of_pos hp, ih,
          List.filter_cons_of_neg (fun hr => ht ((h p hp).symm.trans hr))]
    · rw [restrict_cons_of_neg hp, ← ih]
      by_cases ht : test p = true
      · rw [List.filter_cons_of_pos ht, restrict_cons_of_neg hp]
      · rw [List.filter_cons_of_neg ht]

namespace HasPart

variable (h : graph.HasPart part kept rank)
include h

theorem rank_inj {p q : Nat} (hp : kept p = true) (hq : kept q = true) (heq : rank p = rank q) :
    p = q := by
  rcases Nat.lt_trichotomy p q with hlt | rfl | hgt
  · exact absurd heq (Nat.ne_of_lt (h.ascending p q hp hq hlt))
  · rfl
  · exact absurd heq (Nat.ne_of_gt (h.ascending q p hq hp hgt))

theorem rank_le {p q : Nat} (hp : kept p = true) (hq : kept q = true) (hle : p ≤ q) :
    rank p ≤ rank q := by
  rcases Nat.eq_or_lt_of_le hle with rfl | hlt
  · exact Nat.le_refl _
  · exact Nat.le_of_lt (h.ascending p q hp hq hlt)

theorem rank_mem_restrict {positions : List Nat} {p : Nat} (hp : kept p = true) :
    rank p ∈ restrict kept rank positions ↔ p ∈ positions := by
  rw [mem_restrict]
  constructor
  · rintro ⟨q, hmem, hq, heq⟩
    rwa [← h.rank_inj hq hp heq]
  · exact fun hmem => ⟨p, hmem, hp, rfl⟩

theorem restrict_erase_of_pos {positions : List Nat} {p : Nat} (hp : kept p = true) :
    restrict kept rank (positions.erase p) = (restrict kept rank positions).erase (rank p) := by
  induction positions with
  | nil => rfl
  | cons q positions ih =>
    by_cases hqp : q = p
    · subst hqp
      rw [List.erase_cons_head, restrict_cons_of_pos hp, List.erase_cons_head]
    · rw [List.erase_cons_tail (by simpa using hqp)]
      by_cases hq : kept q = true
      · have hne : rank q ≠ rank p := fun heq => hqp (h.rank_inj hq hp heq)
        rw [restrict_cons_of_pos hq, restrict_cons_of_pos hq, ih,
          List.erase_cons_tail (by simpa using hne)]
      · rw [restrict_cons_of_neg hq, restrict_cons_of_neg hq, ih]

/-- A position that is kept waits for the same positions in the graph and in the part. -/
theorem ready_iff {remaining : List Nat} {p : Nat} (hp : kept p = true) :
    part.Ready (restrict kept rank remaining) (rank p) ↔ graph.Ready remaining p := by
  constructor
  · intro hready source hs hlink
    have hkept := h.closed source p hlink hp
    exact hready (rank source) ((h.rank_mem_restrict hkept).mpr hs)
      ((h.links source p hkept hp).mpr hlink)
  · intro hready number hnumber hlink
    obtain ⟨source, hs, hkept, rfl⟩ := mem_restrict.mp hnumber
    exact hready source hs ((h.links source p hkept hp).mp hlink)

/-! ## Schedules -/

/-- Taking a position that is not kept goes unnoticed, and one that is kept is the least ready one
in the part too. -/
theorem schedule {remaining order : List Nat} (hs : graph.Schedule remaining order) :
    part.Schedule (restrict kept rank remaining) (restrict kept rank order) := by
  induction hs with
  | nil => exact .nil
  | @cons remaining rest next hmem hready hleast _ ih =>
    by_cases hnext : kept next = true
    · rw [h.restrict_erase_of_pos hnext] at ih
      rw [restrict_cons_of_pos hnext]
      refine .cons ((h.rank_mem_restrict hnext).mpr hmem) ((h.ready_iff hnext).mpr hready) ?_ ih
      intro number hnumber hother
      obtain ⟨other, ho, hkept, rfl⟩ := mem_restrict.mp hnumber
      exact h.rank_le hnext hkept (hleast other ho ((h.ready_iff hkept).mp hother))
    · rw [restrict_erase_of_neg hnext] at ih
      rwa [restrict_cons_of_neg hnext]

/-! ## Layers -/

theorem restrict_filter_ready (remaining : List Nat) :
    restrict kept rank (remaining.filter (graph.Ready remaining ·)) =
      (restrict kept rank remaining).filter (part.Ready (restrict kept rank remaining) ·) :=
  restrict_filter (fun _ hp => decide_eq_decide.mpr (h.ready_iff hp)) remaining

theorem restrict_filter_not_ready (remaining : List Nat) :
    restrict kept rank (remaining.filter (¬ graph.Ready remaining ·)) =
      (restrict kept rank remaining).filter (¬ part.Ready (restrict kept rank remaining) ·) :=
  restrict_filter (fun _ hp => decide_eq_decide.mpr (not_congr (h.ready_iff hp))) remaining

/-- Layers of which nothing is kept are gone; the others keep their places. -/
theorem layers {remaining : List Nat} {levels : List (List Nat)}
    (hl : graph.Layers remaining levels) :
    part.Layers (restrict kept rank remaining)
      ((levels.map (restrict kept rank)).filter (!·.isEmpty)) := by
  induction hl with
  | nil => exact .nil
  | @cons remaining rest _ _ ih =>
    rw [h.restrict_filter_not_ready] at ih
    rw [List.map_cons, h.restrict_filter_ready]
    by_cases hempty : (restrict kept rank remaining).filter
        (part.Ready (restrict kept rank remaining) ·) = []
    · have hall : (restrict kept rank remaining).filter
          (¬ part.Ready (restrict kept rank remaining) ·) = restrict kept rank remaining := by
        refine List.filter_eq_self.mpr fun number hnumber => ?_
        simpa using List.filter_eq_nil_iff.mp hempty number hnumber
      rw [hall] at ih
      rwa [hempty, List.filter_cons_of_neg (by simp)]
    · rw [List.filter_cons_of_pos (by simpa using hempty)]
      exact .cons hempty ih

end HasPart

end EncodingPlan.StageGraph
