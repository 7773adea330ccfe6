import EncodingPlan.Proofs.Pipeline.GraphOrder
import Mathlib.Data.List.Count
import Mathlib.Data.List.Nodup
import Mathlib.Data.List.Sort

/-! Counting links orders a graph. While positions are taken, the frontier counts for every position
the links from positions that remain, and holds those that remain and are ready. So the order that
counting finds is the schedule of the graph, and its levels are the layers. -/

namespace EncodingPlan.StageGraph

variable {graph : StageGraph} {remaining positions : List Nat} {frontier : Frontier}

/-! ## Pending links -/

/-- The number of links to the position from positions that remain. -/
def pending (graph : StageGraph) (remaining : List Nat) (position : Nat) : Nat :=
  graph.links.countP fun link => link.2 == position && remaining.contains link.1

theorem pending_eq_zero_iff {position : Nat} :
    graph.pending remaining position = 0 ↔ graph.Ready remaining position := by
  simp only [pending, List.countP_eq_zero, Bool.and_eq_true, beq_iff_eq, List.contains_iff_mem,
    not_and, Ready, Prod.forall]
  exact ⟨fun h source hs hl => h source position hl rfl hs,
    fun h source _ hl ht hs => h source hs (ht ▸ hl)⟩

theorem pending_range (graph : StageGraph) (position : Nat) :
    graph.pending (List.range graph.size) position = graph.inDegree position := by
  refine List.countP_congr fun link hl => ?_
  simp [(graph.inside link hl).1]

private theorem countP_disjoint {α : Type} {p q r : α → Bool} (l : List α)
    (h : ∀ a, p a = (q a || r a)) (hdisjoint : ∀ a, ¬ (q a = true ∧ r a = true)) :
    l.countP p = l.countP q + l.countP r := by
  induction l with
  | nil => rfl
  | cons a l ih =>
    have ha := h a
    have hd := hdisjoint a
    cases hq : q a <;> cases hr : r a <;> simp_all <;> omega

/-- Links come either from positions that are taken or from those that still remain then. -/
theorem pending_split (graph : StageGraph) (hsub : positions ⊆ remaining) (position : Nat) :
    graph.pending remaining position = graph.pending positions position +
      graph.pending (remaining.filter (!positions.contains ·)) position := by
  refine countP_disjoint _ (fun link => ?_) (fun link => ?_)
  · by_cases hp : link.1 ∈ positions
    · simp [hp, hsub hp]
    · simp [hp]
  · simp +contextual

theorem count_outgoing (source target : Nat) :
    (graph.outgoing source).count target = graph.pending [source] target := by
  rw [outgoing, List.count_eq_countP, List.countP_map, List.countP_filter, pending]
  refine List.countP_congr fun link _ => ?_
  simp

theorem count_flatMap_outgoing (graph : StageGraph) (hnodup : positions.Nodup) (target : Nat) :
    (positions.flatMap graph.outgoing).count target = graph.pending positions target := by
  induction positions with
  | nil => simp [pending]
  | cons source positions ih =>
    obtain ⟨hnot, hnodup⟩ := List.nodup_cons.mp hnodup
    have hrest : (source :: positions).filter (!([source] : List Nat).contains ·) = positions := by
      rw [List.filter_cons_of_neg (by simp)]
      refine List.filter_eq_self.mpr fun position hp => ?_
      have hne : position ≠ source := by
        rintro rfl
        exact hnot hp
      simpa using hne
    have hsub : [source] ⊆ source :: positions :=
      List.cons_subset.mpr ⟨List.mem_cons_self, List.nil_subset _⟩
    have hsplit := graph.pending_split hsub target
    rw [List.flatMap_cons, List.count_append, count_outgoing, ih hnodup, hsplit, hrest]

/-! ## Releasing -/

theorem waiting_release (frontier : Frontier) (target position : Nat) :
    (frontier.release target).waiting[position]? =
      frontier.waiting[position]?.map (· - if target = position then 1 else 0) := by
  rw [Frontier.release, List.getElem?_modify]
  split <;> simp

theorem waiting_foldl_release (targets : List Nat) (position : Nat) :
    (targets.foldl Frontier.release frontier).waiting[position]? =
      frontier.waiting[position]?.map (· - targets.count position) := by
  induction targets generalizing frontier with
  | nil => simp
  | cons target targets ih =>
    rw [List.foldl_cons, ih, waiting_release, List.count_cons, Option.map_map]
    refine congrArg (Option.map · _) (funext fun left => ?_)
    simp only [Function.comp_apply, beq_iff_eq]
    omega

/-- The position released gets ready if one link was left. -/
theorem count_ready_release {target left : Nat} (hleft : frontier.waiting[target]? = some left)
    (hpos : 0 < left) (position : Nat) :
    (frontier.release target).ready.count position =
      frontier.ready.count position + if target = position ∧ left = 1 then 1 else 0 := by
  have hzero : (frontier.waiting.modify target (· - 1))[target]? = some 0 ↔ left = 1 := by
    rw [List.getElem?_modify, hleft]
    simp
    omega
  simp only [Frontier.release, hzero]
  by_cases hl : left = 1
  · simp [hl, List.count_append, List.count_singleton]
  · simp [hl]

/-- A position that gets ready does so once, when the last link to it is released. -/
theorem count_ready_foldl_release {targets : List Nat}
    (h : ∀ target ∈ targets, ∃ left, frontier.waiting[target]? = some left ∧
      targets.count target ≤ left) (position : Nat) :
    (targets.foldl Frontier.release frontier).ready.count position =
      frontier.ready.count position +
        if position ∈ targets ∧ frontier.waiting[position]? = some (targets.count position)
        then 1 else 0 := by
  induction targets generalizing frontier with
  | nil => simp
  | cons target targets ih =>
    obtain ⟨left, hleft, hcount⟩ := h target List.mem_cons_self
    rw [List.count_cons_self] at hcount
    have hrest : ∀ other ∈ targets, ∃ left, (frontier.release target).waiting[other]? = some left ∧
        targets.count other ≤ left := by
      intro other ho
      obtain ⟨left, hother, hle⟩ := h other (List.mem_cons_of_mem _ ho)
      refine ⟨left - if target = other then 1 else 0, by rw [waiting_release, hother]; rfl, ?_⟩
      rw [List.count_cons] at hle
      split <;> simp_all
      omega
    rw [List.foldl_cons, ih hrest, count_ready_release hleft (by omega), waiting_release]
    by_cases hp : target = position
    · subst hp
      have hmem : target ∈ targets ↔ 0 < targets.count target := List.count_pos_iff.symm
      simp only [hleft, hmem, true_and, if_true, Option.map_some, Option.some.injEq,
        List.mem_cons_self, List.count_cons_self]
      split <;> split <;> split <;> omega
    · simp [hp, Ne.symm hp]

/-! ## The frontier -/

/-- What the frontier knows when the positions of `remaining` were not taken. -/
structure Frontier.Tracks (frontier : Frontier) (graph : StageGraph) (remaining : List Nat) :
    Prop where
  inside : ∀ position ∈ remaining, position < graph.size
  ascending : remaining.Pairwise (· < ·)
  /-- Whatever leads to a position was taken before it. -/
  taken : ∀ position < graph.size, position ∉ remaining → graph.Ready remaining position
  waiting : ∀ position < graph.size,
    frontier.waiting[position]? = some (graph.pending remaining position)
  ready : frontier.ready.Perm (remaining.filter (graph.Ready remaining ·))

namespace Frontier.Tracks

theorem start (graph : StageGraph) : graph.start.Tracks graph (List.range graph.size) where
  inside _ hp := List.mem_range.mp hp
  ascending := List.pairwise_lt_range
  taken _ hp hnot := absurd (List.mem_range.mpr hp) hnot
  waiting position hp := by
    rw [StageGraph.start, List.getElem?_map, List.getElem?_range hp, pending_range]
    rfl
  ready := by
    have : ∀ position, (graph.inDegree position == 0) =
        decide (graph.Ready (List.range graph.size) position) := by
      intro position
      rw [← pending_range, Bool.eq_iff_iff, beq_iff_eq, decide_eq_true_eq, pending_eq_zero_iff]
    simp only [StageGraph.start, this]
    exact .refl _

theorem nodup (h : frontier.Tracks graph remaining) : remaining.Nodup :=
  h.ascending.imp Nat.ne_of_lt

theorem mem_ready (h : frontier.Tracks graph remaining) {position : Nat} :
    position ∈ frontier.ready ↔ position ∈ remaining ∧ graph.Ready remaining position :=
  h.ready.mem_iff.trans mem_filter_ready

theorem ready_nodup (h : frontier.Tracks graph remaining) : frontier.ready.Nodup :=
  h.ready.nodup_iff.mpr (h.nodup.filter _)

private theorem lt_of_mem_outgoing {target : Nat}
    (h : target ∈ positions.flatMap graph.outgoing) : target < graph.size := by
  obtain ⟨source, _, ht⟩ := List.mem_flatMap.mp h
  obtain ⟨link, hl, rfl⟩ := List.mem_map.mp ht
  exact (graph.inside link (List.mem_filter.mp hl).1).2

private theorem mem_filter_not_contains {positions remaining : List Nat} {position : Nat} :
    position ∈ remaining.filter (!positions.contains ·) ↔
      position ∈ remaining ∧ position ∉ positions := by
  simp

/-- A position gets ready when the last position that leads to it is taken. -/
private theorem newly_ready (h : frontier.Tracks graph remaining) (hnodup : positions.Nodup)
    (hready : ∀ position ∈ positions, position ∈ remaining ∧ graph.Ready remaining position)
    {position : Nat} :
    (position ∈ positions.flatMap graph.outgoing ∧ frontier.waiting[position]? =
        some ((positions.flatMap graph.outgoing).count position)) ↔
      position ∈ remaining ∧ position ∉ positions ∧ ¬ graph.Ready remaining position ∧
        graph.Ready (remaining.filter (!positions.contains ·)) position := by
  have hsplit := graph.pending_split (fun position hp => (hready position hp).1) position
  rw [← List.count_pos_iff, graph.count_flatMap_outgoing hnodup, ← pending_eq_zero_iff,
    ← pending_eq_zero_iff]
  constructor
  · rintro ⟨hpos, hwaiting⟩
    have hlt := lt_of_mem_outgoing (List.count_pos_iff.mp
      ((graph.count_flatMap_outgoing hnodup position).symm ▸ hpos))
    rw [h.waiting position hlt, Option.some.injEq] at hwaiting
    have hnot : ¬ graph.Ready remaining position := by
      rw [← pending_eq_zero_iff]
      omega
    refine ⟨?_, fun hp => hnot (hready position hp).2, by omega, by omega⟩
    by_contra hr
    exact hnot (h.taken position hlt hr)
  · rintro ⟨hr, -, hne, hzero⟩
    rw [h.waiting position (h.inside position hr), Option.some.injEq]
    omega

/-- Taking ready positions keeps track. -/
theorem take (h : frontier.Tracks graph remaining) (hnodup : positions.Nodup)
    (hready : ∀ position ∈ positions, position ∈ remaining ∧ graph.Ready remaining position) :
    (graph.take frontier positions).Tracks graph
      (remaining.filter (!positions.contains ·)) := by
  have hsub : positions ⊆ remaining := fun position hp => (hready position hp).1
  have hfewer : remaining.filter (!positions.contains ·) ⊆ remaining := List.filter_subset_self _
  have hsplit := graph.pending_split hsub
  have hcount := fun position => graph.count_flatMap_outgoing hnodup position
  refine ⟨fun position hp => h.inside position (hfewer hp), h.ascending.filter _,
    fun position hp hnot => ?_, fun position hp => ?_, List.perm_iff_count.mpr fun position => ?_⟩
  · refine Ready.anti ?_ hfewer
    by_cases hr : position ∈ remaining
    · refine (hready position ?_).2
      simpa [hr] using hnot
    · exact h.taken position hp hr
  · rw [StageGraph.take, waiting_foldl_release, h.waiting position hp, hcount, hsplit]
    simp
  · rw [StageGraph.take, count_ready_foldl_release ?_ position]
    · rw [(h.ready_nodup.filter _).count, ((h.nodup.filter _).filter _).count]
      simp only [mem_filter_ready, mem_filter_not_contains, h.mem_ready,
        h.newly_ready hnodup hready]
      by_cases hr : graph.Ready remaining position
      · simp only [hr, hr.anti hfewer, and_true, not_true, and_false, if_false, Nat.add_zero]
      · simp only [hr, and_false, false_and, if_false, not_false_iff, true_and, and_assoc,
          Nat.zero_add]
    · intro target ht
      refine ⟨_, h.waiting target (lt_of_mem_outgoing ht), ?_⟩
      rw [hcount, hsplit]
      exact Nat.le_add_right _ _

theorem min?_ready (h : frontier.Tracks graph remaining) {next : Nat} :
    frontier.ready.min? = some next ↔
      (next ∈ remaining ∧ graph.Ready remaining next) ∧
        ∀ other ∈ remaining, graph.Ready remaining other → next ≤ other := by
  rw [List.min?_eq_some_iff, h.mem_ready]
  simp only [h.mem_ready, and_imp]

theorem take_one (h : frontier.Tracks graph remaining) {next : Nat}
    (hready : next ∈ remaining ∧ graph.Ready remaining next) :
    (graph.take frontier [next]).Tracks graph (remaining.erase next) := by
  have herase : remaining.erase next = remaining.filter (!([next] : List Nat).contains ·) := by
    rw [h.nodup.erase_eq_filter]
    exact List.filter_congr fun position _ => by simp [bne, Bool.beq_eq_decide_eq]
  rw [herase]
  exact h.take (List.nodup_singleton next) (by simpa using hready)

theorem mergeSort_ready (h : frontier.Tracks graph remaining) :
    frontier.ready.mergeSort = remaining.filter (graph.Ready remaining ·) := by
  have hsorted := List.pairwise_mergeSort' (· ≤ ·) frontier.ready
  exact ((List.mergeSort_perm _ _).trans h.ready).eq_of_pairwise
    (fun _ _ _ _ => Nat.le_antisymm) hsorted ((h.ascending.filter _).imp Nat.le_of_lt)

theorem take_level (h : frontier.Tracks graph remaining) :
    (graph.take frontier frontier.ready.mergeSort).Tracks graph
      (remaining.filter (¬ graph.Ready remaining ·)) := by
  have hrest : remaining.filter (¬ graph.Ready remaining ·) =
      remaining.filter (!frontier.ready.mergeSort.contains ·) := by
    refine List.filter_congr fun position hp => ?_
    simp [h.mergeSort_ready, hp]
  rw [hrest]
  exact h.take ((List.mergeSort_perm _ _).nodup_iff.mpr h.ready_nodup)
    fun position hp => h.mem_ready.mp (List.mem_mergeSort.mp hp)

end Frontier.Tracks

/-! ## Order -/

private theorem schedule_orderFrom {fuel : Nat} (h : frontier.Tracks graph remaining)
    (hlen : (graph.orderFrom fuel frontier).length = remaining.length) :
    graph.Schedule remaining (graph.orderFrom fuel frontier) := by
  induction fuel generalizing frontier remaining with
  | zero =>
    rw [List.length_eq_zero_iff.mp hlen.symm]
    exact .nil
  | succ fuel ih =>
    rw [orderFrom] at hlen ⊢
    cases hmin : frontier.ready.min? with
    | none =>
      rw [hmin] at hlen
      rw [List.length_eq_zero_iff.mp hlen.symm]
      exact .nil
    | some next =>
      obtain ⟨hready, hleast⟩ := h.min?_ready.mp hmin
      rw [hmin] at hlen
      refine .cons hready.1 hready.2 hleast (ih (h.take_one hready) ?_)
      rw [List.length_erase_of_mem hready.1, ← hlen, List.length_cons, Nat.add_sub_cancel]

private theorem Schedule.orderFrom {order : List Nat} (hs : graph.Schedule remaining order)
    {fuel : Nat} (h : frontier.Tracks graph remaining) (hfuel : remaining.length ≤ fuel) :
    graph.orderFrom fuel frontier = order := by
  induction hs generalizing fuel frontier with
  | nil =>
    have hempty : frontier.ready = [] := h.ready.eq_nil
    cases fuel <;> simp [StageGraph.orderFrom, hempty]
  | @cons remaining rest next hmem hready hleast _ ih =>
    have hpos := List.length_pos_of_mem hmem
    obtain ⟨fuel, rfl⟩ : ∃ n, fuel = n + 1 := ⟨fuel - 1, by omega⟩
    have hmin := h.min?_ready.mpr ⟨⟨hmem, hready⟩, hleast⟩
    have hlen : (remaining.erase next).length ≤ fuel := by
      rw [List.length_erase_of_mem hmem]
      omega
    simp only [StageGraph.orderFrom, hmin, ih (h.take_one ⟨hmem, hready⟩) hlen]

/-- Counting links finds the schedule of the graph. -/
theorem ordered_eq_some_iff {order : List Nat} :
    graph.ordered = some order ↔ graph.Schedule (List.range graph.size) order := by
  have hstart := Frontier.Tracks.start graph
  simp only [ordered, Option.ite_none_right_eq_some, Option.some.injEq]
  constructor
  · rintro ⟨hlen, rfl⟩
    exact schedule_orderFrom hstart (by rw [hlen, List.length_range])
  · intro h
    have horder := h.orderFrom hstart (by rw [List.length_range])
    rw [horder, h.perm.length_eq, List.length_range]
    exact ⟨rfl, rfl⟩

/-! ## Levels -/

private theorem layers_levelsFrom {fuel : Nat} (h : frontier.Tracks graph remaining)
    (hlen : (graph.levelsFrom fuel frontier).flatten.length = remaining.length) :
    graph.Layers remaining (graph.levelsFrom fuel frontier) := by
  induction fuel generalizing frontier remaining with
  | zero =>
    rw [List.length_eq_zero_iff.mp hlen.symm]
    exact .nil
  | succ fuel ih =>
    rw [levelsFrom] at hlen ⊢
    by_cases hempty : frontier.ready = []
    · simp only [hempty, List.isEmpty_nil, if_true] at hlen ⊢
      rw [List.length_eq_zero_iff.mp hlen.symm]
      exact .nil
    simp only [List.isEmpty_iff, hempty, if_false] at hlen ⊢
    have hsplit := (List.filter_append_perm (graph.Ready remaining ·) remaining).length_eq
    rw [List.flatten_cons, List.length_append, h.mergeSort_ready] at hlen
    rw [List.length_append] at hsplit
    have hrest := ih h.take_level (by simp only [decide_not]; rw [h.mergeSort_ready]; omega)
    rw [h.mergeSort_ready] at hrest ⊢
    refine .cons (fun hnil => hempty ?_) hrest
    exact (hnil ▸ h.ready).eq_nil

private theorem Layers.levelsFrom {levels : List (List Nat)} (hl : graph.Layers remaining levels)
    {fuel : Nat} (h : frontier.Tracks graph remaining) (hfuel : remaining.length ≤ fuel) :
    graph.levelsFrom fuel frontier = levels := by
  induction hl generalizing fuel frontier with
  | nil =>
    have hempty : frontier.ready = [] := h.ready.eq_nil
    cases fuel <;> simp [StageGraph.levelsFrom, hempty]
  | @cons remaining rest hne _ ih =>
    have hsplit := (List.filter_append_perm (graph.Ready remaining ·) remaining).length_eq
    rw [List.length_append] at hsplit
    have hpos := List.length_pos_of_ne_nil hne
    obtain ⟨fuel, rfl⟩ : ∃ n, fuel = n + 1 := ⟨fuel - 1, by omega⟩
    have hready : frontier.ready ≠ [] := fun hempty => hne (hempty ▸ h.ready).symm.eq_nil
    have hlen : (remaining.filter (¬ graph.Ready remaining ·)).length ≤ fuel := by
      simp only [decide_not]
      omega
    have hrest := ih h.take_level hlen
    simp only [StageGraph.levelsFrom, List.isEmpty_iff, hready, if_false, hrest]
    rw [h.mergeSort_ready]

/-- Counting links finds the layers of the graph. -/
theorem levels_eq_some_iff {levels : List (List Nat)} :
    graph.levels = some levels ↔ graph.Layers (List.range graph.size) levels := by
  have hstart := Frontier.Tracks.start graph
  simp only [StageGraph.levels, Option.ite_none_right_eq_some, Option.some.injEq]
  constructor
  · rintro ⟨hlen, rfl⟩
    exact layers_levelsFrom hstart (by rw [hlen, List.length_range])
  · intro h
    have hlevels := h.levelsFrom hstart (by rw [List.length_range])
    rw [hlevels, h.perm.length_eq, List.length_range]
    exact ⟨rfl, rfl⟩

end EncodingPlan.StageGraph
