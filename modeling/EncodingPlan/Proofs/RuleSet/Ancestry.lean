import EncodingPlan.RuleSet.Registry
import Mathlib.Data.List.Chain
import Mathlib.Data.List.Nodup
import Mathlib.Logic.Relation

/-! The walk from a rule set to its ancestors. Whatever the parents look like, it goes from each set
to its parent, meets no set twice, and ends at a set without a parent or just before it would repeat
one. Only one list of names does so, and its members are the sets that going to parents reaches at
all. -/

namespace EncodingPlan.Registry

variable {registry : Registry} {name : RuleSetName}

/-- The second set is the declared parent of the first. -/
def Extends (registry : Registry) (name parent : RuleSetName) : Prop :=
  registry.parent? name = some parent

theorem Extends.unique {a b c : RuleSetName} (hb : registry.Extends a b)
    (hc : registry.Extends a c) : b = c :=
  Option.some.inj (hb.symm.trans hc)

theorem Extends.hasRuleSet {parent : RuleSetName} (h : registry.Extends name parent) :
    registry.hasRuleSet name = true := by
  obtain ⟨ruleSet, hset, _⟩ := Option.bind_eq_some_iff.mp h
  rw [Registry.hasRuleSet, Dict.contains, ← ruleSet?, hset]
  rfl

/-- The names in line from a set: from each to its parent, until there is no parent or the parent is
in the line. -/
structure IsLine (registry : Registry) (name : RuleSetName) (members : List RuleSetName) :
    Prop where
  head : members.head? = some name
  linked : members.IsChain registry.Extends
  nodup : members.Nodup
  closed : ∀ last ∈ members.getLast?, ∀ parent, registry.Extends last parent → parent ∈ members

private theorem prefix_or_prefix {rest rest' : List RuleSetName}
    (h : (name :: rest).IsChain registry.Extends) (h' : (name :: rest').IsChain registry.Extends) :
    name :: rest <+: name :: rest' ∨ name :: rest' <+: name :: rest := by
  induction rest generalizing name rest' with
  | nil => exact .inl (by simp)
  | cons b rest ih =>
    cases rest' with
    | nil => exact .inr (by simp)
    | cons b' rest' =>
      obtain ⟨hb, hrest⟩ := List.isChain_cons_cons.mp h
      obtain ⟨hb', hrest'⟩ := List.isChain_cons_cons.mp h'
      obtain rfl := hb.unique hb'
      simpa using ih hrest hrest'

namespace IsLine

variable {members : List RuleSetName}

/-- From every member, not only from the last one, the parent is a member. -/
theorem parent_mem (h : registry.IsLine name members) {a b : RuleSetName} (ha : a ∈ members)
    (hab : registry.Extends a b) : b ∈ members := by
  obtain ⟨before, after, rfl⟩ := List.append_of_mem ha
  cases after with
  | nil => exact h.closed a (by simp) b hab
  | cons c after =>
    rw [(List.isChain_append_cons_cons.mp h.linked).2.1.unique hab]
    simp

/-- A line holds what going to parents reaches, and nothing else. -/
theorem mem_iff (h : registry.IsLine name members) {b : RuleSetName} :
    b ∈ members ↔ Relation.ReflTransGen registry.Extends name b := by
  refine ⟨fun hb => ?_, fun hb => ?_⟩
  · obtain ⟨rest, rfl⟩ := List.head?_eq_some_iff.mp h.head
    exact List.IsChain.induction (Relation.ReflTransGen registry.Extends name) _ h.linked
      (fun _ _ hstep hreach => hreach.tail hstep) (fun _ => .refl) b hb
  · induction hb with
    | refl => exact List.mem_of_mem_head? h.head
    | tail _ hstep ih => exact h.parent_mem ih hstep

/-- A line that goes on as another one does from the start goes on to the same end. -/
theorem eq_of_prefix {others : List RuleSetName} (h : registry.IsLine name members)
    (h' : registry.IsLine name others) (hpre : members <+: others) : members = others := by
  obtain ⟨after, rfl⟩ := hpre
  cases after with
  | nil => rw [List.append_nil]
  | cons b after =>
    have hne : members ≠ [] := List.ne_nil_of_mem (List.mem_of_mem_head? h.head)
    have hlast := List.getLast?_eq_some_getLast hne
    have hstep := (List.isChain_append.mp h'.linked).2.2 _ hlast b rfl
    have hmem := h.closed _ hlast b hstep
    exact absurd rfl ((List.nodup_append.mp h'.nodup).2.2 b hmem b List.mem_cons_self)

theorem unique {others : List RuleSetName} (h : registry.IsLine name members)
    (h' : registry.IsLine name others) : members = others := by
  obtain ⟨rest, rfl⟩ := List.head?_eq_some_iff.mp h.head
  obtain ⟨rest', rfl⟩ := List.head?_eq_some_iff.mp h'.head
  rcases prefix_or_prefix h.linked h'.linked with hpre | hpre
  · exact h.eq_of_prefix h' hpre
  · exact (h'.eq_of_prefix h hpre).symm

end IsLine

/-! ## The walk -/

/-- The outcome of a walk: the line from the set, with the mark whether the last member's parent
was met before. -/
structure IsWalk (registry : Registry) (name : RuleSetName) (chain : Chain) : Prop where
  isLine : registry.IsLine name chain.members
  cyclic : chain.cyclic = true →
    ∃ last ∈ chain.members.getLast?, ∃ parent, registry.Extends last parent
  acyclic : chain.cyclic = false → ∀ last ∈ chain.members.getLast?, registry.parent? last = none

/-- All but the last member of a line have a parent, so they are declared. -/
private theorem subset_keys {members : List RuleSetName} {last : RuleSetName}
    (h : (members ++ [last]).IsChain registry.Extends) : members ⊆ registry.ruleSets.keys := by
  intro a ha
  obtain ⟨before, after, rfl⟩ := List.append_of_mem ha
  obtain ⟨b, rest, hrest⟩ : ∃ b rest, after ++ [last] = b :: rest :=
    List.exists_cons_of_ne_nil (by simp)
  rw [List.append_assoc, List.cons_append, hrest, List.isChain_append_cons_cons] at h
  exact (Dict.contains_iff _ _).mp h.2.1.hasRuleSet

private theorem isWalk_of_repeat {members : List RuleSetName} {current : RuleSetName}
    (hhead : (members ++ [current]).head? = some name) (hnodup : members.Nodup)
    (hlinked : (members ++ [current]).IsChain registry.Extends) (hmem : current ∈ members) :
    registry.IsWalk name ⟨members, true⟩ := by
  have hne := List.ne_nil_of_mem hmem
  have hstep : ∀ last ∈ members.getLast?, registry.Extends last current := fun last hlast =>
    (List.isChain_append.mp hlinked).2.2 last hlast current rfl
  have hlast := List.getLast?_eq_some_getLast hne
  refine ⟨⟨?_, hlinked.left_of_append, hnodup, fun last hlast parent hparent => ?_⟩,
    fun _ => ⟨_, hlast, current, hstep _ hlast⟩, fun h => Bool.noConfusion h⟩
  · rw [← hhead, List.head?_append_of_ne_nil _ hne]
  · rwa [hparent.unique (hstep last hlast)]

private theorem isWalk_of_end {members : List RuleSetName} {current : RuleSetName}
    (hhead : (members ++ [current]).head? = some name) (hnodup : (members ++ [current]).Nodup)
    (hlinked : (members ++ [current]).IsChain registry.Extends)
    (hparent : registry.parent? current = none) :
    registry.IsWalk name ⟨members ++ [current], false⟩ := by
  have hend : ∀ last ∈ (members ++ [current]).getLast?, registry.parent? last = none := by
    simpa using hparent
  refine ⟨⟨hhead, hlinked, hnodup, fun last hlast parent hstep => ?_⟩,
    fun h => Bool.noConfusion h, fun _ => hend⟩
  rw [Extends, hend last hlast] at hstep
  cases hstep

/-- A walk that has met a line so far, and has a step left for every set that it has not met. -/
theorem walk_isWalk {fuel : Nat} {members : List RuleSetName} {current : RuleSetName}
    (hhead : (members ++ [current]).head? = some name) (hnodup : members.Nodup)
    (hlinked : (members ++ [current]).IsChain registry.Extends)
    (hfuel : registry.ruleSets.size < members.length + fuel) :
    registry.IsWalk name (registry.walk fuel members current) := by
  induction fuel generalizing members current with
  | zero =>
    -- distinct declared members cannot be more than there are declared sets
    have hle := hnodup.length_le_of_subset (subset_keys hlinked)
    rw [Dict.keys, List.length_map] at hle
    exact absurd hfuel (Nat.not_lt.mpr hle)
  | succ fuel ih =>
    rw [walk]
    by_cases hmem : current ∈ members
    · rw [if_pos (List.contains_iff_mem.mpr hmem)]
      exact isWalk_of_repeat hhead hnodup hlinked hmem
    rw [if_neg fun hc => hmem (List.contains_iff_mem.mp hc)]
    have hnodup' : (members ++ [current]).Nodup := by
      rw [← List.concat_eq_append]
      exact hnodup.concat hmem
    cases hparent : registry.parent? current with
    | none => exact isWalk_of_end hhead hnodup' hlinked hparent
    | some parent =>
      refine ih ?_ hnodup' ?_ ?_
      · rw [List.head?_append_of_ne_nil _ (by simp), hhead]
      · refine hlinked.append (List.isChain_singleton _) fun last hlast next hnext => ?_
        rw [List.getLast?_concat, Option.mem_some_iff] at hlast
        rw [List.head?_singleton, Option.mem_some_iff] at hnext
        rwa [← hlast, ← hnext]
      · rw [List.length_append, List.length_singleton]
        omega

theorem resolve_isWalk (registry : Registry) (name : RuleSetName) :
    registry.IsWalk name (registry.resolve name) :=
  walk_isWalk rfl List.nodup_nil (List.isChain_singleton _) (by simp)

/-- The line from a set is bounded by the number of the declared sets and one name that may not be
declared. -/
theorem IsLine.length_le {members : List RuleSetName} (h : registry.IsLine name members) :
    members.length ≤ registry.ruleSets.size + 1 := by
  obtain rfl | ⟨before, last, rfl⟩ := List.eq_nil_or_concat members
  · exact Nat.zero_le _
  rw [List.concat_eq_append] at h ⊢
  have hle := (List.nodup_append.mp h.nodup).1.length_le_of_subset (subset_keys h.linked)
  rw [Dict.keys, List.length_map] at hle
  rw [List.length_append]
  exact Nat.succ_le_succ hle

end EncodingPlan.Registry
