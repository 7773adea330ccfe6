import EncodingPlan.Proofs.Pipeline.LeastOrder
import Mathlib.Order.Bounds.Basic

/-! The levels of a graph by depth. The depth of a position is the length of the longest path that
leads to it, and a layer holds exactly the positions of one depth. While layers are taken, a path
with a link for each of them leads to every position that remains, and only shorter ones lead to
those that were taken. Around a cycle paths have any length, so a graph with a cycle has no levels,
just as it has no order. -/

namespace EncodingPlan.StageGraph

variable {graph : StageGraph} {size : Nat} {links : List (Nat × Nat)} {remaining : List Nat}
  {levels : List (List Nat)} {position source target steps depth : Nat}

/-! ## Paths -/

/-- A path of so many links leads to the position. -/
inductive PathTo (links : List (Nat × Nat)) : Nat → Nat → Prop where
  | start {position : Nat} : PathTo links 0 position
  | step {steps source target : Nat} : PathTo links steps source → (source, target) ∈ links →
      PathTo links (steps + 1) target

/-- The longest path to the position has so many links. -/
def IsDepth (links : List (Nat × Nat)) (position depth : Nat) : Prop :=
  IsGreatest {steps | PathTo links steps position} depth

/-- Where a path ends, a longer one leads to all that can be reached. -/
theorem PathTo.exists_longer (h : PathTo links steps source)
    (hreach : Relation.TransGen (fun source target => (source, target) ∈ links) source target) :
    ∃ more, steps < more ∧ PathTo links more target := by
  induction hreach with
  | single hlink => exact ⟨steps + 1, Nat.lt_succ_self steps, h.step hlink⟩
  | tail _ hlink ih =>
    obtain ⟨more, hlt, hpath⟩ := ih
    exact ⟨more + 1, Nat.lt_succ_of_lt hlt, hpath.step hlink⟩

namespace IsDepth

theorem unique {other : Nat} (h : IsDepth links position depth)
    (hother : IsDepth links position other) : depth = other :=
  IsGreatest.unique h hother

theorem not_reach_self (h : IsDepth links position depth) :
    ¬ Relation.TransGen (fun source target => (source, target) ∈ links) position position := by
  intro hcycle
  obtain ⟨more, hlt, hpath⟩ := PathTo.exists_longer h.1 hcycle
  exact Nat.not_le_of_lt hlt (h.2 hpath)

theorem lt_of_mem {deeper : Nat} (h : IsDepth links source depth)
    (htarget : IsDepth links target deeper) (hlink : (source, target) ∈ links) : depth < deeper :=
  htarget.2 (PathTo.step h.1 hlink)

/-- The longest path to a position comes from one that is just less deep. -/
theorem exists_source (h : IsDepth links target (depth + 1)) :
    ∃ source, (source, target) ∈ links ∧ IsDepth links source depth := by
  obtain ⟨hpath, hlongest⟩ := h
  cases hpath with
  | @step _ source _ hsource hlink =>
    refine ⟨source, hlink, hsource, fun steps hsteps => ?_⟩
    exact Nat.le_of_succ_le_succ (hlongest (PathTo.step hsteps hlink))

end IsDepth

/-! ## Taking layers -/

/-- What is known of paths once as many layers were taken as `depth` says. -/
structure Deeper (graph : StageGraph) (remaining : List Nat) (depth : Nat) : Prop where
  remains : ∀ position ∈ remaining, PathTo graph.links depth position
  taken : ∀ position < graph.size, position ∉ remaining →
    ∀ steps, PathTo graph.links steps position → steps < depth

namespace Deeper

theorem start (graph : StageGraph) : graph.Deeper (List.range graph.size) 0 where
  remains _ _ := .start
  taken _ hp hnot := absurd (List.mem_range.mpr hp) hnot

/-- Whatever leads to a ready position was taken. -/
theorem isDepth (h : graph.Deeper remaining depth) (hp : position ∈ remaining)
    (hready : graph.Ready remaining position) : IsDepth graph.links position depth := by
  refine ⟨h.remains position hp, fun steps hsteps => ?_⟩
  cases hsteps with
  | start => exact Nat.zero_le depth
  | @step steps source _ hsource hlink =>
    have hnot : source ∉ remaining := fun hmem => hready source hmem hlink
    exact h.taken source (graph.inside _ hlink).1 hnot steps hsource

/-- What is not ready has a predecessor that remains as well. -/
theorem next (h : graph.Deeper remaining depth) :
    graph.Deeper (remaining.filter (¬ graph.Ready remaining ·)) (depth + 1) where
  remains position hp := by
    obtain ⟨-, hwaits⟩ := List.mem_filter.mp hp
    simp only [Ready, not_forall, not_not, exists_prop, decide_eq_true_eq] at hwaits
    obtain ⟨source, hs, hlink⟩ := hwaits
    exact (h.remains source hs).step hlink
  taken position hlt hnot steps hsteps := by
    by_cases hp : position ∈ remaining
    · have hready : graph.Ready remaining position := by
        by_contra hwaits
        exact hnot (List.mem_filter.mpr ⟨hp, decide_eq_true hwaits⟩)
      exact Nat.lt_succ_of_le ((h.isDepth hp hready).2 hsteps)
    · exact Nat.lt_succ_of_lt (h.taken position hlt hp steps hsteps)

end Deeper

/-- The position is on the level with this number. -/
def OnLevel (levels : List (List Nat)) (index position : Nat) : Prop :=
  ∃ level, levels[index]? = some level ∧ position ∈ level

namespace Layers

/-- Layers hold the positions of one depth after the other. -/
theorem isDepth (h : graph.Layers remaining levels) (hdeeper : graph.Deeper remaining depth)
    {index : Nat} (hp : OnLevel levels index position) :
    IsDepth graph.links position (depth + index) := by
  obtain ⟨level, hlevel, hp⟩ := hp
  induction h generalizing depth index with
  | nil => cases hlevel
  | cons _ _ ih =>
    cases index with
    | zero =>
      rw [List.getElem?_cons_zero, Option.some.injEq] at hlevel
      subst hlevel
      obtain ⟨hmem, hready⟩ := mem_filter_ready.mp hp
      exact hdeeper.isDepth hmem hready
    | succ index =>
      rw [List.getElem?_cons_succ] at hlevel
      have hrest := ih hdeeper.next hlevel
      rwa [Nat.add_assoc, Nat.add_comm 1] at hrest

theorem ascending (h : graph.Layers remaining levels) (hremaining : remaining.Pairwise (· < ·)) :
    ∀ level ∈ levels, level.Pairwise (· < ·) := by
  induction h with
  | nil => exact fun _ hlevel => nomatch hlevel
  | cons _ _ ih =>
    intro level hlevel
    rcases List.mem_cons.mp hlevel with rfl | hlevel
    · exact hremaining.filter _
    · exact ih (hremaining.filter _) level hlevel

theorem mem_iff_onLevel (h : graph.Layers remaining levels) :
    position ∈ remaining ↔ ∃ index, OnLevel levels index position := by
  rw [← h.perm.mem_iff, List.mem_flatten]
  constructor
  · rintro ⟨level, hlevel, hp⟩
    obtain ⟨index, hindex⟩ := List.mem_iff_getElem?.mp hlevel
    exact ⟨index, level, hindex, hp⟩
  · rintro ⟨index, level, hindex, hp⟩
    exact ⟨level, List.mem_of_getElem? hindex, hp⟩

theorem onLevel_iff (h : graph.Layers (List.range graph.size) levels) {index : Nat} :
    OnLevel levels index position ↔ position < graph.size ∧ IsDepth graph.links position index := by
  have hdepth {index : Nat} (hp : OnLevel levels index position) :
      IsDepth graph.links position index := by
    have hfound := h.isDepth (.start graph) hp
    rwa [Nat.zero_add] at hfound
  rw [← List.mem_range, h.mem_iff_onLevel]
  constructor
  · exact fun hp => ⟨⟨index, hp⟩, hdepth hp⟩
  · rintro ⟨⟨found, hp⟩, hindex⟩
    rwa [hindex.unique (hdepth hp)]

end Layers

/-! ## Levels -/

/-- Every position is on the level of its depth. -/
structure LevelsByDepth (size : Nat) (links : List (Nat × Nat)) (levels : List (List Nat)) :
    Prop where
  ascending : ∀ level ∈ levels, level.Pairwise (· < ·)
  onLevel : ∀ index position, OnLevel levels index position ↔
    position < size ∧ IsDepth links position index
  once : levels.flatten.Perm (List.range size)
  forward : ∀ source target : Nat, (source, target) ∈ links →
    ∃ i j, i < j ∧ OnLevel levels i source ∧ OnLevel levels j target
  /-- What is not on the first level has a predecessor on the level just before its own. -/
  nearest : ∀ index position, OnLevel levels (index + 1) position →
    ∃ source, OnLevel levels index source ∧ (source, position) ∈ links

theorem Layers.levelsByDepth (h : graph.Layers (List.range graph.size) levels) :
    LevelsByDepth graph.size graph.links levels := by
  refine ⟨h.ascending List.pairwise_lt_range, fun index position => h.onLevel_iff, h.perm,
    fun source target hlink => ?_, fun index position hp => ?_⟩
  · obtain ⟨hs, ht⟩ := graph.inside _ hlink
    obtain ⟨i, hi⟩ := h.mem_iff_onLevel.mp (List.mem_range.mpr hs)
    obtain ⟨j, hj⟩ := h.mem_iff_onLevel.mp (List.mem_range.mpr ht)
    have hlt := (h.onLevel_iff.mp hi).2.lt_of_mem (h.onLevel_iff.mp hj).2 hlink
    exact ⟨i, j, hlt, hi, hj⟩
  · obtain ⟨source, hlink, hdepth⟩ := (h.onLevel_iff.mp hp).2.exists_source
    exact ⟨source, h.onLevel_iff.mpr ⟨(graph.inside _ hlink).1, hdepth⟩, hlink⟩

/-! ## Cycles -/

theorem ordered_eq_none_iff : graph.ordered = none ↔ HasCycle graph.links := by
  constructor
  · intro hnone
    by_contra hacyclic
    obtain ⟨order, horder⟩ := exists_ordered hacyclic
    rw [hnone] at horder
    cases horder
  · intro hcycle
    rw [Option.eq_none_iff_forall_ne_some]
    intro order horder
    exact (ordered_eq_some_iff.mp horder).isTopological.not_hasCycle hcycle

theorem levels_eq_none_iff : graph.levels = none ↔ HasCycle graph.links := by
  constructor
  · intro hnone
    by_contra hacyclic
    obtain ⟨levels, hlayers⟩ :=
      (isAcyclic_of_not_hasCycle hacyclic).exists_layers (List.range graph.size)
    rw [levels_eq_some_iff.mpr hlayers] at hnone
    cases hnone
  · rintro ⟨position, hcycle⟩
    rw [Option.eq_none_iff_forall_ne_some]
    intro levels hlevels
    have hlayers := levels_eq_some_iff.mp hlevels
    obtain ⟨source, -, hlink⟩ := Relation.TransGen.tail'_iff.mp hcycle
    obtain ⟨index, hindex⟩ :=
      hlayers.mem_iff_onLevel.mp (List.mem_range.mpr (graph.inside _ hlink).2)
    exact (hlayers.onLevel_iff.mp hindex).2.not_reach_self hcycle

/-- Links inside a graph give it levels whenever they give it an order, and then every position is
on the level of its depth. -/
theorem levels_byDepth (h : ∀ link ∈ links, link.1 < size ∧ link.2 < size) :
    ((ofLinks size links).levels = none ↔ (ofLinks size links).ordered = none) ∧
      ∀ levels, (ofLinks size links).levels = some levels → LevelsByDepth size links levels := by
  refine ⟨levels_eq_none_iff.trans ordered_eq_none_iff.symm, fun levels hlevels => ?_⟩
  have hdepth := (levels_eq_some_iff.mp hlevels).levelsByDepth
  rwa [size_ofLinks h, links_ofLinks h] at hdepth

/-- Parallel links, and positions to which a short path leads beside a long one. -/
theorem levels_byDepth_of_shortcuts :
    let links := [(0, 3), (3, 1), (0, 1), (0, 1), (0, 2), (1, 4), (2, 4)]
    (∀ link ∈ links, link.1 < 5 ∧ link.2 < 5) ∧
      (ofLinks 5 links).levels = some [[0], [2, 3], [1], [4]] ∧
      IsDepth links 1 2 ∧ IsDepth links 4 3 ∧ (ofLinks 5 links).ordered ≠ none := by
  intro links
  have hinside : ∀ link ∈ links, link.1 < 5 ∧ link.2 < 5 := by decide
  have hlayers : (ofLinks 5 links).Layers (List.range 5) [[0], [2, 3], [1], [4]] :=
    .cons (by decide) (.cons (by decide) (.cons (by decide) (.cons (by decide) .nil)))
  have hlevels := levels_eq_some_iff.mpr hlayers
  obtain ⟨hnone, hdepth⟩ := levels_byDepth hinside
  have honLevel := (hdepth _ hlevels).onLevel
  refine ⟨hinside, hlevels, ((honLevel 2 1).mp ?_).2, ((honLevel 3 4).mp ?_).2, ?_⟩
  · exact ⟨[1], rfl, List.mem_singleton_self 1⟩
  · exact ⟨[4], rfl, List.mem_singleton_self 4⟩
  · rw [ne_eq, ← hnone, hlevels]
    exact Option.some_ne_none _

end EncodingPlan.StageGraph
