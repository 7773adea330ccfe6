import EncodingPlan.Proofs.FirstOccurrences
import EncodingPlan.Proofs.Pipeline.Soundness
import Mathlib.Data.List.Cycle

/-! The loops of transformers that a plan is refused for. Whatever is reported goes around: every
member names the next one. Where identifiers are distinct, every identifier names at most one other,
so a walk that comes to a loop finds all of it and can find no other one. Walks that start at
different transformers meet a loop at different members, which makes no difference to the cycle. So
every loop is reported once, in the order of the first transformers that lead into them. -/

namespace EncodingPlan

/-! ## Cycles of a relation -/

section
variable {α : Type} {R : α → α → Prop} {loop other : Cycle α} {a b c : α}

theorem exists_cycle_cons (h : a ∈ loop) : ∃ rest : List α, loop = (a :: rest : List α) := by
  induction loop using Quotient.inductionOn' with
  | h members =>
    obtain ⟨before, after, rfl⟩ := List.append_of_mem (Cycle.mem_coe_iff.mp h)
    exact ⟨after ++ before, Cycle.coe_eq_coe.mpr List.isRotated_append⟩

theorem exists_next_of_chain (h : loop.Chain R) (ha : a ∈ loop) : ∃ b ∈ loop, R a b := by
  obtain ⟨rest, rfl⟩ := exists_cycle_cons ha
  rw [Cycle.chain_coe_cons] at h
  cases rest with
  | nil => exact ⟨a, ha, by simpa using h⟩
  | cons b rest => exact ⟨b, by simp, (List.isChain_cons_cons.mp h).1⟩

section
variable (hunique : Relator.RightUnique R)
include hunique

theorem mem_of_chain_of_reach (h : loop.Chain R) (ha : a ∈ loop)
    (hreach : Relation.ReflTransGen R a b) : b ∈ loop := by
  induction hreach with
  | refl => exact ha
  | tail _ hstep ih =>
    obtain ⟨next, hmem, hnext⟩ := exists_next_of_chain h ih
    rwa [hunique hstep hnext]

private theorem eq_of_chain_to {rest others : List α} (h : (a :: (rest ++ [b])).IsChain R)
    (h' : (a :: (others ++ [b])).IsChain R) (hnot : b ∉ rest) (hnot' : b ∉ others) :
    rest = others := by
  induction rest generalizing a others with
  | nil =>
    cases others with
    | nil => rfl
    | cons c others =>
      have hstep : R a b := (List.isChain_cons_cons.mp h).1
      have heq : b = c := hunique hstep (List.isChain_cons_cons.mp h').1
      exact absurd (heq ▸ List.mem_cons_self) hnot'
  | cons c rest ih =>
    obtain ⟨hstep, hrest⟩ := List.isChain_cons_cons.mp h
    cases others with
    | nil =>
      have heq : b = c := hunique (List.isChain_cons_cons.mp h').1 hstep
      exact absurd (heq ▸ List.mem_cons_self) hnot
    | cons d others =>
      obtain ⟨hstep', hothers⟩ := List.isChain_cons_cons.mp h'
      obtain rfl := hunique hstep hstep'
      rw [ih hrest hothers (fun hmem => hnot (List.mem_cons_of_mem _ hmem))
        fun hmem => hnot' (List.mem_cons_of_mem _ hmem)]

/-- Two cycles that have a member in common are one. -/
theorem cycle_eq_of_mem (h : loop.Chain R) (hnodup : loop.Nodup) (h' : other.Chain R)
    (hnodup' : other.Nodup) (ha : a ∈ loop) (ha' : a ∈ other) : loop = other := by
  obtain ⟨rest, rfl⟩ := exists_cycle_cons ha
  obtain ⟨others, rfl⟩ := exists_cycle_cons ha'
  rw [Cycle.chain_coe_cons] at h h'
  rw [Cycle.nodup_coe_iff, List.nodup_cons] at hnodup hnodup'
  rw [eq_of_chain_to hunique h h' hnodup.1 hnodup'.1]

/-- No member of a longer cycle comes right after itself. -/
theorem not_self_of_chain (h : loop.Chain R) (hnodup : loop.Nodup) (hlength : 2 ≤ loop.length)
    (ha : a ∈ loop) : ¬ R a a := by
  intro hself
  obtain ⟨rest, rfl⟩ := exists_cycle_cons ha
  rw [Cycle.chain_coe_cons] at h
  rw [Cycle.nodup_coe_iff, List.nodup_cons] at hnodup
  cases rest with
  | nil => simp at hlength
  | cons b rest =>
    have heq : b = a := hunique (List.isChain_cons_cons.mp h).1 hself
    exact hnodup.1 (heq ▸ List.mem_cons_self)

end

end

namespace StagePlan

variable {plan : StagePlan} {start current t : Transformer} {path members : List StageId}
  {loop other : Cycle StageId} {found : Option (List StageId)} {id : StageId}

/-- Two or more different identifiers, each of which names the next one around. -/
structure IsLoop (plan : StagePlan) (loop : Cycle StageId) : Prop where
  two_le : 2 ≤ loop.length
  nodup : loop.Nodup
  linked : loop.Chain plan.Names

theorem IsLoop.exists_mem (h : plan.IsLoop loop) : ∃ id, id ∈ loop := by
  have hlength := h.two_le
  induction loop using Quotient.inductionOn' with
  | h members =>
    obtain ⟨id, hid⟩ := List.exists_mem_of_length_pos (Nat.lt_of_lt_of_le Nat.zero_lt_two hlength)
    exact ⟨id, hid⟩

/-- The walk from the identifier comes to the loop. -/
def LeadsInto (plan : StagePlan) (id : StageId) (loop : Cycle StageId) : Prop :=
  ∃ member ∈ loop, Relation.ReflTransGen plan.Names id member

/-- The first transformer that leads into one loop is declared before all that lead into the
other. -/
def LedIntoBefore (plan : StagePlan) (earlier later : Cycle StageId) : Prop :=
  ∃ before t after, plan.transformers = before ++ t :: after ∧ plan.LeadsInto t.id earlier ∧
    ∀ s ∈ before ++ [t], ¬ plan.LeadsInto s.id later

/-! ## What a walk finds -/

theorem IsPath.reach (h : plan.IsPath start path current) (hid : id ∈ path) :
    Relation.ReflTransGen plan.Names start.id id := by
  obtain ⟨rest, rfl⟩ := List.head?_eq_some_iff.mp h.head
  exact List.IsChain.induction (Relation.ReflTransGen plan.Names start.id) _ h.linked
    (fun _ _ hstep hreach => hreach.tail hstep) (fun _ => .refl) id hid

/-- Whatever a walk finds is a loop that it leads into, also where identifiers are repeated. -/
theorem Finds.isLoop (h : plan.Finds path current found) (hpath : plan.IsPath start path current) :
    ∀ members ∈ found, plan.IsLoop members ∧ plan.LeadsInto start.id members := by
  induction h with
  | input | unknown | itself => simp
  | @loop before after current id hid hafter =>
    intro members hmembers
    obtain rfl := Option.mem_some_iff.mp hmembers
    obtain ⟨-, hnodup, -⟩ := List.nodup_append.mp hpath.nodup
    have hlinked := (List.isChain_append.mp hpath.linked).2.1
    have hlast := hpath.last
    rw [List.getLast?_append_of_ne_nil _ (List.cons_ne_nil _ _)] at hlast
    refine ⟨⟨?_, hnodup, ?_⟩, id, by simp, hpath.reach (by simp)⟩
    · have hpos := List.length_pos_of_ne_nil hafter
      rw [Cycle.length_coe, List.length_cons]
      omega
    · rw [Cycle.chain_coe_cons, ← List.cons_append]
      refine hlinked.append (List.isChain_singleton _) fun last hl first hf => ?_
      rw [hlast, Option.mem_some_iff] at hl
      rw [List.head?_singleton, Option.mem_some_iff] at hf
      exact ⟨current, hpath.mem, hl, hf ▸ hid⟩
  | next hid hnew hnext _ ih => exact ih (hpath.next hid hnew hnext)

theorem isLoop_of_loopFrom (ht : t ∈ plan.transformers) (h : plan.loopFrom t = some members) :
    plan.IsLoop members ∧ plan.LeadsInto t.id members :=
  (finds_loopFrom ht).isLoop (.single ht) members h

/-- Dropping repeats keeps loops that walks found. -/
theorem exists_loopFrom_of_mem (h : members ∈ plan.loops) :
    ∃ t ∈ plan.transformers, plan.loopFrom t = some members :=
  List.mem_filterMap.mp (foldl_unlike_subset h)

/-! ## Distinct identifiers -/

/-- Every identifier on the way to a loop is that of a transformer. -/
theorem LeadsInto.exists_names (hleads : plan.LeadsInto id loop) (h : plan.IsLoop loop) :
    ∃ source, plan.Names id source := by
  obtain ⟨member, hmem, hreach⟩ := hleads
  cases hreach using Relation.ReflTransGen.head_induction_on with
  | refl =>
    obtain ⟨source, -, hnames⟩ := exists_next_of_chain h.linked hmem
    exact ⟨source, hnames⟩
  | head hnames _ => exact ⟨_, hnames⟩

section
variable (hids : plan.declaredIds.Nodup)
include hids

theorem names_rightUnique : Relator.RightUnique plan.Names := by
  rintro id source other ⟨t, ht, rfl, hsource⟩ ⟨s, hs, hid, hother⟩
  rw [List.inj_on_of_nodup_map (List.nodup_cons.mp hids).2 hs ht hid] at hother
  exact Option.some.inj (hsource.symm.trans hother)

theorem IsLoop.eq_of_leadsInto (h : plan.IsLoop loop) (h' : plan.IsLoop other)
    (hleads : plan.LeadsInto id loop) (hleads' : plan.LeadsInto id other) : loop = other := by
  have hunique := names_rightUnique hids
  obtain ⟨a, ha, hreach⟩ := hleads
  obtain ⟨b, hb, hreach'⟩ := hleads'
  rcases hreach.total_of_right_unique hunique hreach' with hab | hba
  · exact cycle_eq_of_mem hunique h.linked h.nodup h'.linked h'.nodup
      (mem_of_chain_of_reach hunique h.linked ha hab) hb
  · exact cycle_eq_of_mem hunique h.linked h.nodup h'.linked h'.nodup ha
      (mem_of_chain_of_reach hunique h'.linked hb hba)

theorem LeadsInto.names (hleads : plan.LeadsInto id loop) (h : plan.IsLoop loop)
    {source : StageId} (hnames : plan.Names id source) : plan.LeadsInto source loop := by
  have hunique := names_rightUnique hids
  obtain ⟨member, hmem, hreach⟩ := hleads
  cases hreach using Relation.ReflTransGen.head_induction_on with
  | refl => exact ⟨source, mem_of_chain_of_reach hunique h.linked hmem (.single hnames), .refl⟩
  | head hstep hrest => exact ⟨member, hmem, hunique hnames hstep ▸ hrest⟩

/-- A walk that leads into a loop does not end elsewhere. -/
theorem Finds.ne_none (h : plan.Finds path current found) (hpath : plan.IsPath start path current)
    (hloop : plan.IsLoop loop) (hleads : plan.LeadsInto current.id loop) : found ≠ none := by
  induction h with
  | @input _ current hinput =>
    obtain ⟨source, s, hs, hid, hsource⟩ := hleads.exists_names hloop
    have hnext := hleads.names hids hloop ⟨s, hs, hid, hsource⟩
    obtain ⟨_, t, ht, htid, _⟩ := hnext.exists_names hloop
    obtain ⟨hnot, hnodup⟩ := List.nodup_cons.mp hids
    rw [List.inj_on_of_nodup_map hnodup hs hpath.mem hid] at hsource
    rw [Transformer.predecessorIn_eq hsource] at hinput
    exact absurd (hinput ▸ htid ▸ List.mem_map_of_mem ht) hnot
  | unknown hid _ hunknown =>
    have hnext := hleads.names hids hloop ⟨_, hpath.mem, rfl, hid⟩
    obtain ⟨_, t, ht, rfl, _⟩ := hnext.exists_names hloop
    obtain ⟨known, hknown⟩ := exists_transformer? ht
    rw [hunknown] at hknown
    cases hknown
  | @itself before current id hid =>
    have hlast := hpath.last
    rw [List.getLast?_concat, Option.some.injEq] at hlast
    have hself : plan.Names id id := ⟨current, hpath.mem, hlast.symm, hid⟩
    have hstays : ∀ {reached}, Relation.ReflTransGen plan.Names id reached → reached = id := by
      intro reached hreach
      induction hreach with
      | refl => rfl
      | tail _ hstep ih => exact names_rightUnique hids hstep (ih ▸ hself)
    obtain ⟨member, hmem, hreach⟩ := hleads
    rw [← hlast] at hreach
    rw [hstays hreach] at hmem
    exact absurd hself (not_self_of_chain (names_rightUnique hids) hloop.linked hloop.nodup
      hloop.two_le hmem)
  | loop => exact Option.some_ne_none _
  | next hid hnew hnext _ ih =>
    exact ih (hpath.next hid hnew hnext) (hleads.names hids hloop ⟨_, hpath.mem, rfl, hid⟩)

/-- The walk from a transformer finds the loop that it leads into. -/
theorem loopFrom_eq_some_iff (ht : t ∈ plan.transformers) :
    (plan.loopFrom t).map Cycle.ofList = some loop ↔
      plan.IsLoop loop ∧ plan.LeadsInto t.id loop := by
  rw [Option.map_eq_some_iff]
  constructor
  · rintro ⟨members, hmembers, rfl⟩
    exact isLoop_of_loopFrom ht hmembers
  · rintro ⟨hloop, hleads⟩
    obtain ⟨members, hmembers⟩ := Option.ne_none_iff_exists'.mp
      ((finds_loopFrom ht).ne_none hids (.single ht) hloop hleads)
    obtain ⟨hfound, hinto⟩ := isLoop_of_loopFrom ht hmembers
    exact ⟨members, hmembers, hfound.eq_of_leadsInto hids hloop hinto hleads⟩

/-- Loops with the same members are one cycle. -/
theorem sameMembers_iff {a b : List StageId} (ha : plan.IsLoop a) (hb : plan.IsLoop b) :
    sameMembers a b = true ↔ (a : Cycle StageId) = b := by
  simp only [sameMembers, Bool.and_eq_true, List.all_eq_true, List.contains_iff_mem]
  refine ⟨fun ⟨hsub, _⟩ => ?_, fun heq => ?_⟩
  · cases a with
    | nil => exact absurd ha.two_le (by simp)
    | cons id a =>
      exact cycle_eq_of_mem (names_rightUnique hids) ha.linked ha.nodup hb.linked hb.nodup
        (a := id) (by simp) (Cycle.mem_coe_iff.mpr (hsub id List.mem_cons_self))
  · have hrotated := Cycle.coe_eq_coe.mp heq
    exact ⟨fun id hid => hrotated.mem_iff.mp hid, fun id hid => hrotated.mem_iff.mpr hid⟩

/-- The loops are what the walks find, each cycle once. -/
theorem map_loops : plan.loops.map Cycle.ofList =
    (plan.transformers.filterMap fun t => (plan.loopFrom t).map Cycle.ofList).eraseDups := by
  have hloop {members : List StageId} (h : members ∈ plan.transformers.filterMap plan.loopFrom) :
      plan.IsLoop members := by
    obtain ⟨t, ht, hmembers⟩ := List.mem_filterMap.mp h
    exact (isLoop_of_loopFrom ht hmembers).1
  have hsame : ∀ a ∈ plan.transformers.filterMap plan.loopFrom,
      ∀ b ∈ plan.transformers.filterMap plan.loopFrom,
        sameMembers a b = true ↔ Cycle.ofList a = Cycle.ofList b :=
    fun a ha b hb => sameMembers_iff hids (hloop ha) (hloop hb)
  rw [loops, map_foldl_unlike hsame, List.map_filterMap]

theorem mem_walkLoops_iff : loop ∈ (plan.transformers.filterMap fun t =>
    (plan.loopFrom t).map Cycle.ofList) ↔
      plan.IsLoop loop ∧ ∃ t ∈ plan.transformers, plan.LeadsInto t.id loop := by
  rw [List.mem_filterMap]
  constructor
  · rintro ⟨t, ht, hfound⟩
    obtain ⟨hloop, hleads⟩ := (loopFrom_eq_some_iff hids ht).mp hfound
    exact ⟨hloop, t, ht, hleads⟩
  · rintro ⟨hloop, t, ht, hleads⟩
    exact ⟨t, ht, (loopFrom_eq_some_iff hids ht).mpr ⟨hloop, hleads⟩⟩

/-- A loop is led into by its own members at least. -/
theorem count_map_loops (h : plan.IsLoop loop) : (plan.loops.map Cycle.ofList).count loop = 1 := by
  rw [map_loops hids]
  refine List.count_eq_one_of_mem (nodup_eraseDups _) (List.mem_eraseDups.mpr ?_)
  obtain ⟨id, hid⟩ := h.exists_mem
  obtain ⟨_, -, t, ht, rfl, -⟩ := exists_next_of_chain h.linked hid
  exact (mem_walkLoops_iff hids).mpr ⟨h, t, ht, t.id, hid, .refl⟩

/-- The walks that come first in the order of the transformers find the loops that come first. -/
theorem pairwise_map_loops : (plan.loops.map Cycle.ofList).Pairwise plan.LedIntoBefore := by
  have hkept := pairwise_eraseDups (l := plan.transformers.filterMap fun t =>
    (plan.loopFrom t).map Cycle.ofList)
  rw [map_loops hids]
  refine hkept.imp_of_mem ?_
  rintro earlier later - hmem ⟨before, after, hsplit, hlater⟩
  have hloop := ((mem_walkLoops_iff hids).mp (List.mem_eraseDups.mp hmem)).1
  obtain ⟨first, others, hfirst, rfl, hothers⟩ := List.filterMap_eq_append_iff.mp hsplit
  obtain ⟨silent, t, rest, rfl, hsilent, ht, -⟩ := List.filterMap_eq_cons_iff.mp hothers
  have hmemt : t ∈ plan.transformers := by simp [hfirst]
  refine ⟨first ++ silent, t, rest, by simp [hfirst],
    ((loopFrom_eq_some_iff hids hmemt).mp ht).2, fun s hs hleads => hlater ?_⟩
  have hmems : s ∈ plan.transformers := by
    rw [hfirst]
    simp only [List.mem_append, List.mem_cons] at hs ⊢
    tauto
  have hfound := (loopFrom_eq_some_iff hids hmems).mpr ⟨hloop, hleads⟩
  rcases List.mem_append.mp hs with hs | hs
  · rcases List.mem_append.mp hs with hs | hs
    · exact List.mem_append_left _ (List.mem_filterMap.mpr ⟨s, hs, hfound⟩)
    · rw [hsilent s hs] at hfound
      cases hfound
  · obtain rfl := List.mem_singleton.mp hs
    rw [hfound, Option.some.injEq] at ht
    exact List.mem_append_right _ (List.mem_singleton.mpr ht)

end

/-! ## What is reported -/

/-- The loop that a problem is about. -/
def loop? : Problem → Option (Cycle StageId)
  | .cyclicPipeline members => some members
  | _ => none

/-- The loops among the problems of a plan, in the order in which they are reported. -/
def reportedLoops (plan : StagePlan) : List (Cycle StageId) := plan.problems.filterMap loop?

theorem reportedLoops_eq (plan : StagePlan) :
    plan.reportedLoops = plan.loops.map Cycle.ofList := by
  have hduplicates : (duplicates [plan.input.id] plan.transformers).filterMap loop? = [] :=
    List.filterMap_eq_nil_iff.mpr fun problem h => by
      obtain ⟨_, rfl⟩ := eq_duplicateStage_of_mem h
      rfl
  have hdangling : plan.dangling.filterMap loop? = [] :=
    List.filterMap_eq_nil_iff.mpr fun problem h => by
      obtain ⟨_, _, rfl⟩ := eq_danglingPredecessor_of_mem h
      rfl
  have hself : plan.selfReferences.filterMap loop? = [] :=
    List.filterMap_eq_nil_iff.mpr fun problem h => by
      obtain ⟨_, rfl⟩ := eq_selfReference_of_mem h
      rfl
  have hdisabled : plan.disabledPredecessors.filterMap loop? = [] :=
    List.filterMap_eq_nil_iff.mpr fun problem h => by
      obtain ⟨_, _, rfl⟩ := eq_disabledPredecessor_of_mem h
      rfl
  have htargets : (if plan.targets.isEmpty then [Problem.noTargets] else []).filterMap loop? = [] :=
    List.filterMap_eq_nil_iff.mpr fun problem h => by
      rw [eq_noTargets_of_mem h]
      rfl
  have hloops : (plan.loops.map Problem.cyclicPipeline).filterMap loop? =
      plan.loops.map Cycle.ofList := by
    rw [List.filterMap_map, ← List.filterMap_eq_map]
    rfl
  simp only [reportedLoops, problems, List.filterMap_append, hduplicates, hdangling, hself,
    hloops, hdisabled, htargets, List.nil_append, List.append_nil]

/-- Every problem about a loop lists two or more different identifiers, each of which is that of a
transformer that names the next one as its predecessor, and the last one names the first. If no
identifier is declared twice, then every loop is reported once, whichever member comes first in the
report; and loops come in the order of the first declared transformers that lead into them. -/
theorem loops_reported (plan : StagePlan) :
    (∀ members : List StageId, .cyclicPipeline members ∈ plan.problems → plan.IsLoop members) ∧
      (plan.declaredIds.Nodup →
        (∀ loop, plan.IsLoop loop → plan.reportedLoops.count loop = 1) ∧
        plan.reportedLoops.Pairwise plan.LedIntoBefore) := by
  rw [reportedLoops_eq]
  refine ⟨fun members hmem => ?_, fun hids => ⟨fun loop => count_map_loops hids,
    pairwise_map_loops hids⟩⟩
  obtain ⟨t, ht, hfound⟩ := exists_loopFrom_of_mem (mem_loops_iff.mp hmem)
  exact (isLoop_of_loopFrom ht hfound).1

/-- One loop is met from behind first, at its second member; the other one is declared in between.
-/
theorem loops_reported_of_tail :
    let stage (id source : String) : Transformer := ⟨⟨id⟩, .identity, .enabled, some ⟨source⟩⟩
    let plan : StagePlan := ⟨⟨.input⟩, [stage "tail" "b", stage "p" "q", stage "a" "b",
      stage "b" "a", stage "q" "p"], []⟩
    let first : Cycle StageId := ([⟨"a"⟩, ⟨"b"⟩] : List StageId)
    let second : Cycle StageId := ([⟨"p"⟩, ⟨"q"⟩] : List StageId)
    plan.declaredIds.Nodup ∧ plan.reportedLoops = [first, second] ∧ plan.IsLoop first ∧
      plan.reportedLoops.count first = 1 ∧ plan.LedIntoBefore first second := by
  intro stage plan first second
  have hids : plan.declaredIds.Nodup := by decide
  have hloops : plan.loops = [[⟨"b"⟩, ⟨"a"⟩], [⟨"p"⟩, ⟨"q"⟩]] := by decide
  have hrotated : Cycle.ofList [⟨"b"⟩, ⟨"a"⟩] = first := Cycle.coe_eq_coe.mpr ⟨1, rfl⟩
  have hreported : plan.reportedLoops = [first, second] := by
    rw [reportedLoops_eq, hloops, List.map_cons, hrotated]
    rfl
  obtain ⟨hloop, hdistinct⟩ := loops_reported plan
  obtain ⟨honce, horder⟩ := hdistinct hids
  have hfirst : plan.IsLoop first := by
    rw [← hrotated]
    exact hloop _ (mem_loops_iff.mpr (by rw [hloops]; exact List.mem_cons_self))
  rw [hreported, List.pairwise_pair] at horder
  exact ⟨hids, hreported, hfirst, honce first hfirst, horder⟩

end StagePlan

end EncodingPlan
