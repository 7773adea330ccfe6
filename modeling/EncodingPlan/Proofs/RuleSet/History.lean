import EncodingPlan.Proofs.RuleSet.Ancestry
import EncodingPlan.RuleSet.Standard

/-! Registries through their histories: declarations, grants, and questions asked in between. After
every history the remembered chains are those that the declarations give now, and the root alone is
declared without a parent. So the ancestors of a set are its line, read off the declarations. -/

namespace EncodingPlan.Registry

variable {registry : Registry} {name : RuleSetName}

/-- What is done to a registry from outside. -/
inductive Operation where
  | declareRule (rule : RuleName)
  | declareRuleSet (name : RuleSetName) (parent : Option RuleSetName) (rules : List RuleName)
  | grant (rule : RuleName) (name : RuleSetName)
  /-- Any question that is answered from the chains. -/
  | ask

def Operation.apply (registry : Registry) : Operation → Registry
  | .declareRule rule => registry.declareRule rule
  | .declareRuleSet name parent rules => (registry.declareRuleSet name parent rules).1
  | .grant rule name => registry.grant rule name
  | .ask => registry.resolved

/-- The registries that histories lead to. -/
inductive Reachable : Registry → Prop where
  | bare : Reachable bare
  | standard : Reachable standard
  | step {registry : Registry} (op : Operation) : Reachable registry → Reachable (op.apply registry)

/-! ## Coherence -/

/-- What is remembered is what the declarations give, and a declared set has no parent only if it is
the root. -/
structure Coherent (registry : Registry) : Prop where
  memo : ∀ chains ∈ registry.memo, chains = registry.resolveAll
  parentless : ∀ name ruleSet, registry.ruleSet? name = some ruleSet →
    (ruleSet.parent = none ↔ name = .root)

/-- Walks read nothing but the declared sets. -/
theorem walk_congr {other : Registry} (h : registry.ruleSets = other.ruleSets) (fuel : Nat)
    (members : List RuleSetName) (name : RuleSetName) :
    registry.walk fuel members name = other.walk fuel members name := by
  induction fuel generalizing members name with
  | zero => rfl
  | succ fuel ih =>
    have hparent : registry.parent? name = other.parent? name := by
      rw [parent?, parent?, ruleSet?, ruleSet?, h]
    simp only [walk, hparent, ih]

theorem resolve_congr {other : Registry} (h : registry.ruleSets = other.ruleSets)
    (name : RuleSetName) : registry.resolve name = other.resolve name := by
  rw [resolve, resolve, walk_congr h, h]

theorem resolveAll_congr {other : Registry} (h : registry.ruleSets = other.ruleSets) :
    registry.resolveAll = other.resolveAll := by
  simp only [resolveAll, h, resolve_congr h]

theorem isRoot_iff : name.isRoot = true ↔ name = .root := by
  rw [RuleSetName.isRoot, beq_iff_eq]
  cases name
  simp only [RuleSetName.root, Name.ofText, Name.mk.injEq]
  rfl

theorem parentFor_eq {parent : Option RuleSetName} :
    parentFor name parent = if name = .root then none else some (parent.getD .root) := by
  simp only [parentFor, isRoot_iff]

theorem parentFor_eq_none_iff {parent : Option RuleSetName} :
    parentFor name parent = none ↔ name = .root := by
  rw [parentFor_eq]
  split <;> simp [*]

namespace Coherent

theorem of_memo_eq_none (hmemo : registry.memo = none)
    (h : ∀ name ruleSet, registry.ruleSet? name = some ruleSet →
      (ruleSet.parent = none ↔ name = .root)) : registry.Coherent where
  memo := by simp [hmemo]
  parentless := h

/-- After a write, the set written is the only one to look at again. -/
private theorem of_alter (h : registry.Coherent) {written : RuleSetName}
    {f : Option RuleSet → RuleSet}
    (hf : (∀ ruleSet ∈ registry.ruleSet? written, ruleSet.parent = none ↔ written = .root) →
      ((f (registry.ruleSet? written)).parent = none ↔ written = .root)) :
    Coherent { registry with ruleSets := registry.ruleSets.alter written f, memo := none } := by
  refine of_memo_eq_none rfl fun name ruleSet hset => ?_
  rw [ruleSet?, Dict.get?_alter] at hset
  split at hset
  · obtain rfl := Option.some.inj hset
    rename_i hname
    rw [hname]
    exact hf (h.parentless written)
  · exact h.parentless name ruleSet hset

theorem bare : Coherent bare := by
  refine of_memo_eq_none rfl fun name ruleSet hset => ?_
  rw [ruleSet?, Registry.bare, Dict.get?_insert] at hset
  split at hset
  · obtain rfl := Option.some.inj hset
    simpa
  · cases hset

theorem declareRule (h : registry.Coherent) (rule : RuleName) :
    (registry.declareRule rule).Coherent where
  memo chains hchains := (h.memo chains hchains).trans (resolveAll_congr rfl)
  parentless := h.parentless

theorem declareRuleSet (h : registry.Coherent) (name : RuleSetName) (parent : Option RuleSetName)
    (rules : List RuleName) : (registry.declareRuleSet name parent rules).1.Coherent :=
  h.of_alter fun _ => parentFor_eq_none_iff

theorem grant (h : registry.Coherent) (rule : RuleName) (name : RuleSetName) :
    (registry.grant rule name).Coherent := by
  refine h.of_alter fun hknown => ?_
  cases hset : registry.ruleSet? name with
  | none => exact parentFor_eq_none_iff
  | some ruleSet => exact hknown ruleSet hset

theorem chains_eq (h : registry.Coherent) : registry.chains = registry.resolveAll := by
  rw [chains]
  cases hmemo : registry.memo with
  | none => rfl
  | some chains => exact h.memo chains hmemo

theorem resolved (h : registry.Coherent) : registry.resolved.Coherent where
  memo chains hchains := by
    obtain rfl := Option.some.inj hchains
    exact h.chains_eq.trans (resolveAll_congr rfl)
  parentless := h.parentless

theorem apply (h : registry.Coherent) (op : Operation) : (op.apply registry).Coherent := by
  cases op with
  | declareRule rule => exact h.declareRule rule
  | declareRuleSet name parent rules => exact h.declareRuleSet name parent rules
  | grant rule name => exact h.grant rule name
  | ask => exact h.resolved

theorem declareRules (h : registry.Coherent) (rules : List RuleName) :
    (registry.declareRules rules).Coherent :=
  List.foldlRecOn rules _ h fun _ hfold rule _ => hfold.declareRule rule

theorem standard : Coherent standard := by
  refine declareRules ?_ _
  refine List.foldlRecOn _ _ ?_ fun _ hfold rule _ => ?_
  · exact List.foldlRecOn _ _ bare fun _ hfold rule _ => (hfold.declareRule rule).grant rule .root
  · exact (hfold.declareRules _).declareRuleSet _ _ _

end Coherent

theorem Reachable.run (h : registry.Reachable) (ops : List Operation) :
    (ops.foldl Operation.apply registry).Reachable :=
  List.foldlRecOn ops _ h fun _ hfold op _ => hfold.step op

theorem Reachable.coherent (h : registry.Reachable) : registry.Coherent := by
  induction h with
  | bare => exact .bare
  | standard => exact .standard
  | step op _ ih => exact ih.apply op

/-! ## Answers -/

namespace Coherent

variable (h : registry.Coherent)
include h

theorem parent?_eq_none_iff :
    registry.parent? name = none ↔ name = .root ∨ registry.hasRuleSet name = false := by
  rw [hasRuleSet, Dict.contains, Option.isSome_eq_false_iff, Option.isNone_iff_eq_none, ← ruleSet?]
  cases hset : registry.ruleSet? name with
  | none => simp [parent?, hset]
  | some ruleSet => simp [parent?, hset, h.parentless name ruleSet hset]

/-- Every answer is that of a walk made now. -/
theorem ancestors_eq (name : RuleSetName) :
    registry.ancestors name = (registry.resolve name).members := by
  rw [ancestors, h.chains_eq, resolveAll, Dict.get?_mapWithKey]
  cases hset : registry.ruleSets.get? name with
  | none => simp [resolve, walk, parent?, ruleSet?, hset]
  | some ruleSet => rfl

theorem isCyclic_eq (name : RuleSetName) :
    registry.isCyclic name = (registry.resolve name).cyclic := by
  rw [isCyclic, h.chains_eq, resolveAll, Dict.get?_mapWithKey]
  cases hset : registry.ruleSets.get? name with
  | none => simp [resolve, walk, parent?, ruleSet?, hset]
  | some ruleSet => rfl

theorem isLine_ancestors (name : RuleSetName) :
    registry.IsLine name (registry.ancestors name) := by
  rw [h.ancestors_eq]
  exact (resolve_isWalk registry name).isLine

end Coherent

/-- The names from a set to its ancestors as a reader of the declarations lists them: from each to
its parent, none twice, and the last one is the root, or is not declared, or has a parent that is
listed already. -/
structure IsAncestry (registry : Registry) (name : RuleSetName) (members : List RuleSetName) :
    Prop where
  head : members.head? = some name
  linked : members.IsChain registry.Extends
  nodup : members.Nodup
  ends : ∀ last ∈ members.getLast?, last = .root ∨ registry.hasRuleSet last = false ∨
    ∃ parent ∈ members, registry.Extends last parent

theorem Coherent.isAncestry_iff (h : registry.Coherent) {members : List RuleSetName} :
    registry.IsAncestry name members ↔ registry.IsLine name members := by
  refine ⟨fun hm => ⟨hm.head, hm.linked, hm.nodup, fun last hlast parent hparent => ?_⟩,
    fun hm => ⟨hm.head, hm.linked, hm.nodup, fun last hlast => ?_⟩⟩
  · have hsome : registry.parent? last ≠ none := by
      rw [show registry.parent? last = some parent from hparent]
      exact Option.some_ne_none _
    rw [ne_eq, h.parent?_eq_none_iff] at hsome
    rcases hm.ends last hlast with hroot | hundeclared | ⟨listed, hmem, hlisted⟩
    · exact absurd (.inl hroot) hsome
    · exact absurd (.inr hundeclared) hsome
    · rwa [hparent.unique hlisted]
  · cases hparent : registry.parent? last with
    | none => exact (h.parent?_eq_none_iff.mp hparent).imp_right .inl
    | some parent => exact .inr (.inr ⟨parent, hm.closed last hlast parent hparent, hparent⟩)

/-- After every history the ancestors of a set are the one list that the declarations give for it
now, whatever was asked for and remembered before. -/
theorem Reachable.ancestors_isAncestry (h : registry.Reachable) (name : RuleSetName) :
    (∀ members, registry.ancestors name = members ↔ registry.IsAncestry name members) ∧
      (registry.hasRuleSet name = false → registry.ancestors name = [name]) ∧
      (registry.ancestors name).Nodup ∧
      (registry.ancestors name).length ≤ registry.ruleSetNames.length + 1 ∧
      registry.ancestors name = { registry with memo := none }.ancestors name := by
  have hline := h.coherent.isLine_ancestors name
  refine ⟨fun members => ?_, fun hundeclared => ?_, hline.nodup, ?_, ?_⟩
  · rw [h.coherent.isAncestry_iff]
    exact ⟨fun heq => heq ▸ hline, hline.unique⟩
  · refine hline.unique ⟨rfl, List.isChain_singleton _, List.nodup_singleton _, ?_⟩
    intro last hlast parent hparent
    rw [List.getLast?_singleton, Option.mem_some_iff] at hlast
    rw [Extends, ← hlast, h.coherent.parent?_eq_none_iff.mpr (.inr hundeclared)] at hparent
    cases hparent
  · rw [ruleSetNames, Dict.keys, List.length_map]
    exact hline.length_le
  · have hforgotten : Coherent { registry with memo := none } :=
      .of_memo_eq_none rfl h.coherent.parentless
    have hresolve : registry.resolve name = { registry with memo := none }.resolve name :=
      resolve_congr (by rfl) name
    rw [h.coherent.ancestors_eq, hforgotten.ancestors_eq, hresolve]

/-- The chain of a set is asked for, then its undeclared parent is granted a rule and led into a
loop. -/
theorem Reachable.ancestors_isAncestry_of_late_loop :
    let a : RuleSetName := .ofText "a"
    let b : RuleSetName := .ofText "b"
    let c : RuleSetName := .ofText "c"
    let asked := [.declareRuleSet a (some b) [], .ask].foldl Operation.apply Registry.bare
    let closed := [.grant (.ofText "r") b, .ask, .declareRuleSet b (some c) [],
      .declareRuleSet c (some b) []].foldl Operation.apply asked
    asked.ancestors a = [a, b] ∧ closed.ancestors a = [a, b, c] ∧
      closed.IsAncestry a [a, b, c] := by
  intro a b c asked closed
  have hclosed : closed.Reachable := (Reachable.bare.run _).run _
  have hloop : closed.ancestors a = [a, b, c] := by rfl
  exact ⟨by rfl, hloop, ((hclosed.ancestors_isAncestry a).1 _).mp hloop⟩

end EncodingPlan.Registry
