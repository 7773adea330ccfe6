import EncodingPlan.Proofs.RuleSet.Validity

/-! What validation answers. Following parents from a set never ends exactly if it leads onto a
loop: a set that does not has an ancestor without a parent. Such a set makes a registry invalid,
also if it is not on the loop itself. The first one in the order of declaration is refused, with its
walk up to the first repeat. All other registries are valid, and every declared set whose parent is
not declared is reported once. -/

namespace EncodingPlan.Registry

variable {registry : Registry} {name : RuleSetName} {members : List RuleSetName}

/-- Following parents from the set never ends. -/
def Endless (registry : Registry) (name : RuleSetName) : Prop :=
  ∃ line : Nat → RuleSetName, line 0 = name ∧ ∀ n, registry.Extends (line n) (line (n + 1))

/-- The walk from a set whose last member has a parent among the members. -/
structure IsRepeatingWalk (registry : Registry) (name : RuleSetName)
    (members : List RuleSetName) : Prop where
  head : members.head? = some name
  linked : members.IsChain registry.Extends
  nodup : members.Nodup
  repeats : ∃ last ∈ members.getLast?, ∃ parent ∈ members, registry.Extends last parent

theorem IsRepeatingWalk.isLine (h : registry.IsRepeatingWalk name members) :
    registry.IsLine name members where
  head := h.head
  linked := h.linked
  nodup := h.nodup
  closed := by
    obtain ⟨last, hlast, listed, hmem, hlisted⟩ := h.repeats
    intro other hother parent hparent
    obtain rfl := Option.mem_unique hlast hother
    rwa [hparent.unique hlisted]

/-! ## Endless walks -/

/-- Whatever is reached on an endless walk has a parent. -/
theorem Endless.exists_parent (h : registry.Endless name) {reached : RuleSetName}
    (hreach : Relation.ReflTransGen registry.Extends name reached) :
    ∃ parent, registry.Extends reached parent := by
  obtain ⟨line, hstart, hline⟩ := h
  obtain ⟨n, rfl⟩ : ∃ n, line n = reached := by
    induction hreach with
    | refl => exact ⟨0, hstart⟩
    | tail _ hstep ih =>
      obtain ⟨n, rfl⟩ := ih
      exact ⟨n + 1, (hline n).unique hstep⟩
  exact ⟨line (n + 1), hline n⟩

theorem LeadsToLoop.endless (h : registry.LeadsToLoop name) : registry.Endless name := by
  let line (n : Nat) : RuleSetName := (fun set => (registry.parent? set).getD .root)^[n] name
  have hline (n : Nat) : Relation.ReflTransGen registry.Extends name (line n) ∧
      registry.Extends (line n) (line (n + 1)) := by
    have hnext {n : Nat} (hreach : Relation.ReflTransGen registry.Extends name (line n)) :
        registry.Extends (line n) (line (n + 1)) := by
      obtain ⟨parent, hparent⟩ := h.exists_parent hreach
      have hvalue : line (n + 1) = (registry.parent? (line n)).getD .root :=
        Function.iterate_succ_apply' ..
      rw [hvalue, show registry.parent? (line n) = some parent from hparent]
      exact hparent
    induction n with
    | zero => exact ⟨.refl, hnext .refl⟩
    | succ n ih => exact ⟨ih.1.tail ih.2, hnext (ih.1.tail ih.2)⟩
  exact ⟨line, rfl, fun n => (hline n).2⟩

/-- The line of a set is finite, so if its last member has a parent, that has come before. -/
theorem endless_iff_leadsToLoop : registry.Endless name ↔ registry.LeadsToLoop name := by
  refine ⟨fun h => ?_, LeadsToLoop.endless⟩
  have hline := (resolve_isWalk registry name).isLine
  have hne := List.ne_nil_of_mem (List.mem_of_mem_head? hline.head)
  have hlast := List.getLast?_eq_some_getLast hne
  obtain ⟨parent, hparent⟩ := h.exists_parent (hline.mem_iff.mp (List.mem_of_getLast? hlast))
  exact hline.leadsToLoop hlast hparent

theorem IsLine.isRepeatingWalk (h : registry.IsLine name members)
    (hleads : registry.LeadsToLoop name) : registry.IsRepeatingWalk name members where
  head := h.head
  linked := h.linked
  nodup := h.nodup
  repeats := by
    have hne := List.ne_nil_of_mem (List.mem_of_mem_head? h.head)
    have hlast := List.getLast?_eq_some_getLast hne
    obtain ⟨parent, hparent⟩ :=
      hleads.exists_parent (h.mem_iff.mp (List.mem_of_getLast? hlast))
    exact ⟨_, hlast, parent, h.closed _ hlast parent hparent, hparent⟩

/-! ## The answers of validation -/

theorem Coherent.validate_eq_error_iff_endless (h : registry.Coherent) {problem : Problem} :
    registry.validate = .error problem ↔ ∃ before name after members,
      registry.ruleSetNames = before ++ name :: after ∧
        (∀ earlier ∈ before, ¬ registry.Endless earlier) ∧ registry.Endless name ∧
        registry.IsRepeatingWalk name members ∧ problem = .cyclicInheritance name members := by
  simp only [h.validate_eq_error_iff, endless_iff_leadsToLoop]
  constructor
  · rintro ⟨before, name, after, hnames, hbefore, hleads, rfl⟩
    exact ⟨before, name, after, _, hnames, hbefore, hleads,
      (h.isLine_ancestors name).isRepeatingWalk hleads, rfl⟩
  · rintro ⟨before, name, after, members, hnames, hbefore, hleads, hwalk, rfl⟩
    rw [hwalk.isLine.unique (h.isLine_ancestors name)]
    exact ⟨before, name, after, hnames, hbefore, hleads, rfl⟩

theorem Coherent.exists_validate_eq_error_iff (h : registry.Coherent) :
    (∃ problem, registry.validate = .error problem) ↔
      ∃ name, registry.hasRuleSet name = true ∧ registry.Endless name := by
  have hok : (∃ findings, registry.validate = .ok findings) ↔
      ¬ ∃ name, registry.hasRuleSet name = true ∧ registry.Endless name := by
    simp only [validate_eq_ok_iff, endless_iff_leadsToLoop, ← h.isCyclic_iff_leadsToLoop,
      not_exists, not_and, Bool.not_eq_true]
  cases hvalid : registry.validate with
  | error problem => simpa [hvalid] using hok
  | ok findings => simpa [hvalid] using hok

/-- After every history, a registry is refused exactly if following parents from a declared set
never ends. The problem names the first such set, in the order in which the sets came in first, with
its walk up to the first repeat. A registry that is not refused has one finding for each declared
set with an undeclared parent, in the same order. -/
theorem Reachable.validate_iff_endless (h : registry.Reachable) :
    ((∃ problem, registry.validate = .error problem) ↔
        ∃ name, registry.hasRuleSet name = true ∧ registry.Endless name) ∧
      (∀ problem, registry.validate = .error problem ↔ ∃ before name after members,
        registry.ruleSetNames = before ++ name :: after ∧
          (∀ earlier ∈ before, ¬ registry.Endless earlier) ∧ registry.Endless name ∧
          registry.IsRepeatingWalk name members ∧ problem = .cyclicInheritance name members) ∧
      (∀ findings, registry.validate = .ok findings →
        findings = registry.ruleSetNames.filterMap fun name =>
          ((registry.parent? name).filter (!registry.hasRuleSet ·)).map (.unknownBase name)) ∧
      ∀ ops : List Operation, (ops.foldl Operation.apply registry).ruleSetNames =
        (registry.ruleSetNames ++ ops.filterMap Operation.subject?).eraseDups := by
  have hc := h.coherent
  refine ⟨hc.exists_validate_eq_error_iff, fun problem => hc.validate_eq_error_iff_endless,
    fun findings hvalid => ?_, ruleSetNames_run⟩
  rw [validate_eq_ok hvalid, undeclaredParents_eq]
  refine List.filterMap_congr fun name _ => ?_
  cases registry.parent? name with
  | none => rfl
  | some parent =>
    rw [Option.bind_some, Option.filter_some]
    cases registry.hasRuleSet parent <;> rfl

/-- A set with an undeclared parent comes first, then one that leads into a loop of two others,
which was created by a grant before the loop was closed. -/
theorem Reachable.validate_iff_endless_of_tail :
    let loose : RuleSetName := .ofText "loose"
    let tail : RuleSetName := .ofText "tail"
    let left : RuleSetName := .ofText "left"
    let right : RuleSetName := .ofText "right"
    let early := [.declareRuleSet loose (some (.ofText "ghost")) [], .grant (.ofText "rule") tail,
      .declareRuleSet left (some right) [], .ask].foldl Operation.apply Registry.bare
    let late := [.declareRuleSet right (some left) [],
      .declareRuleSet tail (some left) []].foldl Operation.apply early
    early.validate = .ok [.unknownBase loose (.ofText "ghost"), .unknownBase left right] ∧
      ¬ early.Endless tail ∧
      late.validate = .error (.cyclicInheritance tail [tail, left, right]) ∧
      late.Endless tail ∧ ¬ late.Endless loose := by
  intro loose tail left right early late
  have hearly : early.Reachable := Reachable.bare.run _
  have hvalid : early.validate =
      .ok [.unknownBase loose (.ofText "ghost"), .unknownBase left right] := by rfl
  have hrefused : late.validate = .error (.cyclicInheritance tail [tail, left, right]) := by rfl
  refine ⟨hvalid, fun hendless => ?_, hrefused, ?_⟩
  · obtain ⟨problem, hproblem⟩ :=
      hearly.validate_iff_endless.1.mpr ⟨tail, by rfl, hendless⟩
    rw [hvalid] at hproblem
    cases hproblem
  · obtain ⟨before, name, after, members, hnames, hbefore, hendless, _, hproblem⟩ :=
      ((hearly.run _).validate_iff_endless.2.1 _).mp hrefused
    cases hproblem
    refine ⟨hendless, hbefore loose ?_⟩
    have horder : late.ruleSetNames = [.root, loose, tail, left, right] := by rfl
    rw [horder] at hnames
    rcases before with _ | ⟨first, _ | ⟨second, before⟩⟩
    · exact absurd (List.cons.inj hnames).1 (by decide)
    · exact absurd (List.cons.inj (List.cons.inj hnames).2).1 (by decide)
    · rw [(List.cons.inj (List.cons.inj hnames).2).1]
      exact List.mem_cons_of_mem _ List.mem_cons_self

end EncodingPlan.Registry
