import EncodingPlan.Problem
import Mathlib.Data.List.Basic

/-! Checks that follow one another. The first one that fails decides what the problem is, and the
checks after it are not made. A computation with early returns is described by its checks: those of
a sequence are the checks of the steps in their order, and those of a loop are the checks of the
turns. -/

namespace EncodingPlan

/-- A check, by the problems that it finds. It is passed if there are none. -/
def Check : Type := Problem → Prop

def Check.Passes (check : Check) : Prop := ∀ problem, ¬ check problem

/-- The first of the checks that is not passed finds the problem. -/
inductive FirstFailure : List Check → Problem → Prop where
  | here {check : Check} {checks : List Check} {problem : Problem} :
    check problem → FirstFailure (check :: checks) problem
  | later {check : Check} {checks : List Check} {problem : Problem} :
    check.Passes → FirstFailure checks problem → FirstFailure (check :: checks) problem

namespace FirstFailure

variable {checks others : List Check} {problem : Problem}

theorem not_nil : ¬ FirstFailure [] problem :=
  nofun

theorem exists_iff : (∃ problem, FirstFailure checks problem) ↔
    ∃ check ∈ checks, ∃ problem, check problem := by
  induction checks with
  | nil => simp [not_nil]
  | cons check checks ih =>
    rw [List.exists_mem_cons_iff, ← ih]
    by_cases hcheck : ∃ problem, check problem
    · obtain ⟨problem, hproblem⟩ := hcheck
      exact ⟨fun _ => .inl ⟨problem, hproblem⟩, fun _ => ⟨problem, .here hproblem⟩⟩
    · rw [or_iff_right hcheck]
      refine exists_congr fun problem => ⟨fun h => ?_, .later (not_exists.mp hcheck)⟩
      cases h with
      | here hproblem => exact absurd ⟨problem, hproblem⟩ hcheck
      | later _ hrest => exact hrest

/-- What a check of the list found is what one of its checks can find. -/
theorem exists_mem (h : FirstFailure checks problem) : ∃ check ∈ checks, check problem := by
  induction h with
  | here hproblem => exact ⟨_, List.mem_cons_self, hproblem⟩
  | later _ _ ih =>
    obtain ⟨check, hmem, hproblem⟩ := ih
    exact ⟨check, List.mem_cons_of_mem _ hmem, hproblem⟩

/-- Later checks count only once the earlier ones are passed. -/
theorem append_iff : FirstFailure (checks ++ others) problem ↔
    FirstFailure checks problem ∨
      (∀ check ∈ checks, check.Passes) ∧ FirstFailure others problem := by
  induction checks with
  | nil =>
    rw [List.nil_append]
    exact ⟨fun h => .inr ⟨nofun, h⟩, fun h => h.elim (absurd · not_nil) And.right⟩
  | cons check checks ih =>
    rw [List.cons_append, List.forall_mem_cons]
    constructor
    · intro h
      cases h with
      | here hproblem => exact .inl (.here hproblem)
      | later hpasses hrest =>
        rcases ih.mp hrest with hfirst | ⟨hall, hrest⟩
        · exact .inl (.later hpasses hfirst)
        · exact .inr ⟨⟨hpasses, hall⟩, hrest⟩
    · rintro (h | ⟨⟨hpasses, hall⟩, hrest⟩)
      · cases h with
        | here hproblem => exact .here hproblem
        | later hpasses hrest => exact .later hpasses (ih.mpr (.inl hrest))
      · exact .later hpasses (ih.mpr (.inr ⟨hall, hrest⟩))

theorem singleton_iff {check : Check} : FirstFailure [check] problem ↔ check problem := by
  refine ⟨fun h => ?_, .here⟩
  cases h with
  | here hproblem => exact hproblem
  | later _ hrest => cases hrest

end FirstFailure

/-! ## Guarded computations -/

variable {α β ι : Type}

theorem bind_eq_ok {x : Except Problem α} {f : α → Except Problem β} {b : β} :
    (x >>= f) = .ok b ↔ ∃ a, x = .ok a ∧ f a = .ok b := by
  cases x <;> simp [Bind.bind, Except.bind]

/-- The computation is refused for what the first failing check finds, and goes through if there is
no such check. -/
def Guards (checks : List Check) (x : Except Problem α) : Prop :=
  ∀ problem, x = .error problem ↔ FirstFailure checks problem

namespace Guards

variable {checks others : List Check} {x : Except Problem α}

theorem nil_iff : Guards [] x ↔ ∃ a, x = .ok a := by
  cases x with
  | ok a => exact ⟨fun _ => ⟨a, rfl⟩, fun _ _ => ⟨nofun, (absurd · FirstFailure.not_nil)⟩⟩
  | error problem =>
    exact ⟨fun h => absurd ((h problem).mp rfl) FirstFailure.not_nil, nofun⟩

theorem ok (a : α) : Guards [] (.ok a) := nil_iff.mpr ⟨a, rfl⟩

theorem passes {a : α} (h : Guards checks x) (hx : x = .ok a) :
    ∀ check ∈ checks, check.Passes := by
  intro check hmem problem hproblem
  obtain ⟨first, hfirst⟩ := FirstFailure.exists_iff.mpr ⟨check, hmem, problem, hproblem⟩
  rw [← h first, hx] at hfirst
  cases hfirst

/-- A computation goes through exactly if it passes its checks. -/
theorem ok_iff (h : Guards checks x) : (∃ a, x = .ok a) ↔ ∀ check ∈ checks, check.Passes := by
  refine ⟨fun ⟨_, ha⟩ => h.passes ha, fun hpasses => ?_⟩
  cases hx : x with
  | ok a => exact ⟨a, rfl⟩
  | error problem =>
    obtain ⟨check, hmem, hproblem⟩ := ((h problem).mp hx).exists_mem
    exact absurd hproblem (hpasses check hmem problem)

/-- Refusing for one thing if it is so is a check of its own. -/
theorem of_cases {check : Check} (h : (∃ a, x = .ok a ∧ check.Passes) ∨
    ∃ problem, x = .error problem ∧ ∀ other, check other ↔ other = problem) :
    Guards [check] x := by
  intro problem
  rw [FirstFailure.singleton_iff]
  rcases h with ⟨a, rfl, hpasses⟩ | ⟨found, rfl, hfound⟩
  · exact ⟨nofun, fun h => absurd h (hpasses problem)⟩
  · rw [hfound, Except.error.injEq, eq_comm]

theorem bind {f : α → Except Problem β} (h : Guards checks x)
    (hf : ∀ a, x = .ok a → Guards others (f a)) : Guards (checks ++ others) (x >>= f) := by
  intro problem
  rw [FirstFailure.append_iff]
  cases hx : x with
  | error found =>
    have hfound : FirstFailure checks found := (h found).mp hx
    have hnot : ¬ ∀ check ∈ checks, check.Passes := by
      intro hall
      obtain ⟨check, hmem, hproblem⟩ := hfound.exists_mem
      exact hall check hmem found hproblem
    rw [← h problem, hx, or_iff_left fun hand => hnot hand.1]
    simp [Bind.bind, Except.bind]
  | ok a =>
    have hnot : ¬ FirstFailure checks problem := fun hfirst => by
      rw [← h problem, hx] at hfirst
      cases hfirst
    rw [or_iff_right hnot, and_iff_right (h.passes hx), ← hf a hx problem]
    rfl

theorem map {f : α → β} (h : Guards checks x) : Guards checks (f <$> x) := by
  intro problem
  rw [← h problem]
  cases x <;> simp [Functor.map, Except.map]

/-- The checks of a loop are those of its turns. -/
theorem foldlM {f : β → ι → Except Problem β} {turn : ι → List Check} {turns : List ι}
    (h : ∀ i ∈ turns, ∀ b, Guards (turn i) (f b i)) (b : β) :
    Guards (turns.flatMap turn) (turns.foldlM f b) := by
  induction turns generalizing b with
  | nil => exact ok b
  | cons i turns ih =>
    rw [List.flatMap_cons, List.foldlM_cons]
    exact (h i List.mem_cons_self b).bind fun b _ =>
      ih (fun j hj => h j (List.mem_cons_of_mem i hj)) b

/-- A loop whose turns are not checked is not checked. -/
theorem foldlM_nil {f : β → ι → Except Problem β} {turns : List ι}
    (h : ∀ i ∈ turns, ∀ b, Guards [] (f b i)) (b : β) : Guards [] (turns.foldlM f b) := by
  have hloop : Guards (turns.flatMap fun _ => []) (turns.foldlM f b) := foldlM h b
  rwa [List.flatMap_eq_nil_iff.mpr fun _ _ => rfl] at hloop

theorem mapM {f : ι → Except Problem β} {turn : ι → List Check}
    (h : ∀ i, Guards (turn i) (f i)) (turns : List ι) :
    Guards (turns.flatMap turn) (turns.mapM f) := by
  induction turns with
  | nil => exact ok []
  | cons i turns ih =>
    rw [List.flatMap_cons, List.mapM_cons]
    refine (h i).bind fun b _ => ?_
    rw [← List.append_nil (turns.flatMap turn)]
    exact ih.bind fun bs _ => ok (b :: bs)

end Guards

end EncodingPlan
