import EncodingPlan.Proofs.RuleSet.Declarations

/-! Growth of a registry. A rule that is made known, a grant, and the declaration of a set that was
not declared before leave every parent and every grant as they are. So nothing is revoked: a set
stays under all sets that it was under, and the rules that applied under it still do, also where the
new declaration leads lines that ended there on to other sets, or back to their start.

Only a second declaration of one set can revoke something, because it replaces the parent. -/

namespace EncodingPlan.Registry

variable {registry grown other : Registry} {name : RuleSetName}

/-- What the first registry declares, the second one declares too. -/
structure Within (registry other : Registry) : Prop where
  parent : ∀ name parent, registry.Extends name parent → other.Extends name parent
  grants : ∀ name rule, registry.Grants name rule → other.Grants name rule

namespace Within

theorem refl : registry.Within registry where
  parent _ _ h := h
  grants _ _ h := h

theorem trans (h : registry.Within grown) (h' : grown.Within other) : registry.Within other where
  parent name parent hparent := h'.parent name parent (h.parent name parent hparent)
  grants name rule hgrants := h'.grants name rule (h.grants name rule hgrants)

variable (hwithin : registry.Within other) (h : registry.Coherent) (hother : other.Coherent)
include hwithin h hother

theorem isUnder {base : RuleSetName} (hbase : registry.isUnder name base = true) :
    other.isUnder name base = true := by
  rw [h.isUnder_iff] at hbase
  rw [hother.isUnder_iff]
  exact Relation.ReflTransGen.mono hwithin.parent _ _ hbase

theorem appliesUnder {rule : RuleName} (hrule : registry.appliesUnder rule name = true) :
    other.appliesUnder rule name = true := by
  obtain ⟨origin, horigin, hgrants⟩ := appliesUnder_iff.mp hrule
  have hunder : other.isUnder name origin = true :=
    hwithin.isUnder h hother (List.contains_iff_mem.mpr horigin)
  exact appliesUnder_iff.mpr
    ⟨origin, List.contains_iff_mem.mp hunder, hwithin.grants origin rule hgrants⟩

end Within

/-! ## Histories of growth -/

/-- The operation declares no set that is declared already. -/
def Operation.IsGrowth (registry : Registry) : Operation → Prop
  | declareRuleSet name _ _ => registry.hasRuleSet name = false
  | _ => True

/-- The registries that growth leads to. -/
inductive GrowsTo (registry : Registry) : Registry → Prop where
  | refl : GrowsTo registry registry
  | step {grown : Registry} (op : Operation) :
    GrowsTo registry grown → op.IsGrowth grown → GrowsTo registry (op.apply grown)

theorem Operation.IsGrowth.hasRuleSet_eq_false {op : Operation} (hop : op.IsGrowth registry)
    {parent : Option RuleSetName} (hnamed : op.parentNamed? name = some parent) :
    registry.hasRuleSet name = false := by
  cases op with
  | declareRuleSet written _ _ =>
    obtain ⟨rfl, _⟩ := Option.ite_none_right_eq_some.mp hnamed
    exact hop
  | declareRule _ => cases hnamed
  | grant _ _ => cases hnamed
  | ask => cases hnamed

/-- A set with a parent is declared, and growth gives a parent only to sets that are not. -/
theorem within_apply {op : Operation} (hop : op.IsGrowth registry) :
    registry.Within (op.apply registry) where
  parent name parent hparent := by
    have hdeclared := hparent.hasRuleSet
    rw [Extends, parent?_apply]
    cases hnamed : op.parentNamed? name with
    | some replaced =>
      rw [hop.hasRuleSet_eq_false hnamed] at hdeclared
      cases hdeclared
    | none =>
      have hkept : ¬ (op.subject? = some name ∧ registry.hasRuleSet name = false) := by
        rintro ⟨_, hundeclared⟩
        rw [hundeclared] at hdeclared
        cases hdeclared
      rw [if_neg hkept]
      exact hparent
  grants _ _ hgrants := (grants_apply op).mpr (.inl hgrants)

namespace GrowsTo

theorem within (h : registry.GrowsTo other) : registry.Within other := by
  induction h with
  | refl => exact .refl
  | step op _ hop ih => exact ih.trans (within_apply hop)

theorem reachable (hgrows : registry.GrowsTo other) (h : registry.Reachable) :
    other.Reachable := by
  induction hgrows with
  | refl => exact h
  | step op _ _ ih => exact ih.step op

end GrowsTo

/-- After every history, growth revokes no rule and takes no set out from under another one. -/
theorem Reachable.keeps_of_growsTo (h : registry.Reachable) (hgrows : registry.GrowsTo other) :
    (∀ rule name, registry.appliesUnder rule name = true → other.appliesUnder rule name = true) ∧
      ∀ name base, registry.isUnder name base = true → other.isUnder name base = true := by
  have hc := h.coherent
  have hother := (hgrows.reachable h).coherent
  exact ⟨fun rule name => hgrows.within.appliesUnder hc hother,
    fun name base => hgrows.within.isUnder hc hother⟩

/-- A line ends at a set that is not declared. The set is granted a rule on the way, and another one
is declared that leads back to the start. -/
theorem Reachable.keeps_of_closed_loop :
    let rule : RuleName := .ofText "rule"
    let low : RuleSetName := .ofText "low"
    let middle : RuleSetName := .ofText "middle"
    let high : RuleSetName := .ofText "high"
    let registry := [.declareRuleSet low (some middle) [], .declareRuleSet middle (some high) [rule],
      .ask].foldl Operation.apply Registry.bare
    let grown := [.declareRule rule, .declareRuleSet high (some low) [],
      .grant (.ofText "other") high].foldl Operation.apply registry
    registry.GrowsTo grown ∧ grown.ancestors high = [high, low, middle] ∧
      grown.appliesUnder rule low = true ∧ grown.isUnder low high = true := by
  intro rule low middle high registry grown
  have hreach : registry.Reachable := Reachable.bare.run _
  have hgrows : registry.GrowsTo grown :=
    .step (.grant _ _) (.step (.declareRuleSet _ _ _) (.step (.declareRule _) .refl trivial)
      (by rfl)) trivial
  obtain ⟨happlies, hunder⟩ := hreach.keeps_of_growsTo hgrows
  exact ⟨hgrows, by rfl, happlies rule low (by rfl), hunder low high (by rfl)⟩

/-- A second declaration of a set is no growth. -/
example :
    let low : RuleSetName := .ofText "low"
    let high : RuleSetName := .ofText "high"
    let declared := (Registry.bare.declareRuleSet low (some high) []).1
    declared.isUnder low high = true ∧
      (declared.declareRuleSet low none []).1.isUnder low high = false := by
  decide

end EncodingPlan.Registry
