import EncodingPlan.Proofs.FirstOccurrences
import EncodingPlan.Proofs.RuleSet.Cascade

/-! What a history of declarations and grants leaves in a registry. Every step adds to the known
rules, to the declared sets and to the rules granted, and takes nothing away. The parent of a set is
the one of its last declaration; a grant gives a parent only to a set that was not declared yet. The
sets keep the order in which they were first declared or granted a rule. -/

namespace EncodingPlan.Registry

variable {registry : Registry} {name written : RuleSetName} {rule : RuleName}

theorem hasRuleSet_eq : registry.hasRuleSet name = (registry.ruleSet? name).isSome :=
  rfl

/-! ## Writing one set -/

section
variable {f : Option RuleSet → RuleSet} {memo : Option (Dict RuleSetName Chain)}

private theorem ruleSet?_alter : ruleSet?
    { registry with ruleSets := registry.ruleSets.alter written f, memo } name =
      if name = written then some (f (registry.ruleSet? written)) else registry.ruleSet? name :=
  Dict.get?_alter ..

private theorem hasRuleSet_alter : hasRuleSet
    { registry with ruleSets := registry.ruleSets.alter written f, memo } name = true ↔
      registry.hasRuleSet name = true ∨ written = name := by
  rw [hasRuleSet_eq, ruleSet?_alter]
  by_cases hname : name = written
  · simp [hname]
  · rw [if_neg hname, or_iff_left (Ne.symm hname)]
    rfl

private theorem parent?_alter : parent?
    { registry with ruleSets := registry.ruleSets.alter written f, memo } name =
      if name = written then (f (registry.ruleSet? written)).parent else registry.parent? name := by
  rw [parent?, ruleSet?_alter]
  split <;> rfl

private theorem grants_alter {rules : List RuleName}
    (hf : ∀ rule, rule ∈ (f (registry.ruleSet? written)).rules ↔
      registry.Grants written rule ∨ rule ∈ rules) : Grants
    { registry with ruleSets := registry.ruleSets.alter written f, memo } name rule ↔
      registry.Grants name rule ∨ written = name ∧ rule ∈ rules := by
  rw [Grants, ruleSet?_alter]
  by_cases hname : name = written
  · subst hname
    simp [hf]
  · simp [hname, Ne.symm hname, Grants]

end

theorem mem_grantAll {ruleSet : RuleSet} {rules : List RuleName} :
    rule ∈ (ruleSet.grantAll rules).rules ↔ rule ∈ ruleSet.rules ∨ rule ∈ rules := by
  simp only [RuleSet.grantAll]
  generalize ruleSet.rules = known
  induction rules generalizing known with
  | nil => simp
  | cons first rules ih =>
    rw [List.foldl_cons, ih, List.mem_insert_iff, List.mem_cons]
    tauto

/-! ## Steps -/

namespace Operation

/-- The rule that the operation makes known. -/
def known? : Operation → Option RuleName
  | declareRule rule => some rule
  | _ => none

/-- The set that is declared once the operation is done. -/
def subject? : Operation → Option RuleSetName
  | declareRuleSet name _ _ => some name
  | grant _ name => some name
  | _ => none

/-- The set that the operation gives a parent by declaring it. -/
def declared? : Operation → Option RuleSetName
  | declareRuleSet name _ _ => some name
  | _ => none

/-- What the operation names as the parent of this set, if it declares it. -/
def parentNamed? (name : RuleSetName) : Operation → Option (Option RuleSetName)
  | declareRuleSet written parent _ => if written = name then some parent else none
  | _ => none

/-- The rules that the operation grants on its subject. -/
def rules : Operation → List RuleName
  | declareRuleSet _ _ rules => rules
  | grant rule _ => [rule]
  | _ => []

end Operation

theorem hasRule_apply (op : Operation) : (op.apply registry).hasRule rule = true ↔
    registry.hasRule rule = true ∨ op.known? = some rule := by
  cases op with
  | declareRule known =>
    rw [Operation.apply, declareRule, hasRule, hasRule, List.contains_iff_mem,
      List.contains_iff_mem, List.mem_insert_iff, Operation.known?, Option.some.injEq, or_comm,
      eq_comm]
  | declareRuleSet name parent rules =>
    simp [Operation.apply, declareRuleSet, hasRule, Operation.known?]
  | grant granted name => simp [Operation.apply, grant, hasRule, Operation.known?]
  | ask => simp [Operation.apply, resolved, hasRule, Operation.known?]

theorem hasRuleSet_apply (op : Operation) : (op.apply registry).hasRuleSet name = true ↔
    registry.hasRuleSet name = true ∨ op.subject? = some name := by
  cases op with
  | declareRule known => simp [Operation.apply, declareRule, hasRuleSet, Operation.subject?]
  | declareRuleSet written parent rules =>
    rw [Operation.apply, declareRuleSet, hasRuleSet_alter, Operation.subject?, Option.some.injEq]
  | grant granted written =>
    rw [Operation.apply, grant, hasRuleSet_alter, Operation.subject?, Option.some.injEq]
  | ask => simp [Operation.apply, resolved, hasRuleSet, Operation.subject?]

theorem ruleSetNames_apply (op : Operation) : (op.apply registry).ruleSetNames =
    match op.subject? with
    | some name =>
      if name ∈ registry.ruleSetNames then registry.ruleSetNames
      else registry.ruleSetNames ++ [name]
    | none => registry.ruleSetNames := by
  cases op with
  | declareRule known => rfl
  | declareRuleSet written parent rules => exact Dict.keys_insert ..
  | grant granted written => exact Dict.keys_insert ..
  | ask => rfl

theorem grants_apply (op : Operation) : (op.apply registry).Grants name rule ↔
    registry.Grants name rule ∨ op.subject? = some name ∧ rule ∈ op.rules := by
  have hgrants (parent : Option RuleSetName) (rules : List RuleName) (rule : RuleName)
      (written : RuleSetName) : rule ∈ (((registry.ruleSet? written).getD
        ⟨parent, []⟩).grantAll rules).rules ↔ registry.Grants written rule ∨ rule ∈ rules := by
    rw [mem_grantAll, Grants]
    cases registry.ruleSet? written <;> simp
  cases op with
  | declareRule known => simp [Operation.apply, declareRule, Grants, ruleSet?, Operation.subject?]
  | declareRuleSet written parent rules =>
    rw [Operation.apply, declareRuleSet, grants_alter fun rule => hgrants none rules rule written,
      Operation.subject?, Option.some.injEq, Operation.rules]
  | grant granted written =>
    rw [Operation.apply, grant, grants_alter fun rule => hgrants _ [granted] rule written,
      Operation.subject?, Option.some.injEq, Operation.rules]
  | ask => simp [Operation.apply, resolved, Grants, ruleSet?, Operation.subject?]

theorem parent?_apply (op : Operation) : (op.apply registry).parent? name =
    match op.parentNamed? name with
    | some parent => parentFor name parent
    | none =>
      if op.subject? = some name ∧ registry.hasRuleSet name = false then parentFor name none
      else registry.parent? name := by
  cases op with
  | declareRule known =>
    simp [Operation.apply, declareRule, parent?, ruleSet?, Operation.parentNamed?,
      Operation.subject?]
  | declareRuleSet written parent rules =>
    rw [Operation.apply, declareRuleSet, parent?_alter, Operation.parentNamed?]
    by_cases hname : name = written
    · simp [hname]
    · simp [hname, Ne.symm hname, Operation.subject?]
  | grant granted written =>
    rw [Operation.apply, grant, parent?_alter, Operation.subject?, hasRuleSet_eq]
    by_cases hname : name = written
    · subst hname
      cases hset : registry.ruleSet? name <;>
        simp [parent?, hset, RuleSet.grantAll, Operation.parentNamed?]
    · simp [hname, Ne.symm hname, Operation.parentNamed?]
  | ask => simp [Operation.apply, resolved, parent?, ruleSet?, Operation.parentNamed?,
      Operation.subject?]

/-! ## Runs -/

/-- The parents named where the set is declared, one for each declaration. -/
def Operation.parentsNamed (name : RuleSetName) (ops : List Operation) :
    List (Option RuleSetName) :=
  ops.filterMap (parentNamed? name)

theorem Operation.parentsNamed_concat (ops : List Operation) (op : Operation) :
    parentsNamed name (ops ++ [op]) = parentsNamed name ops ++ (op.parentNamed? name).toList := by
  rw [parentsNamed, List.filterMap_append, parentsNamed]
  cases hnamed : op.parentNamed? name <;> simp [hnamed]

/-- What steps can make true and never make false. -/
private theorem run_iff (P : Registry → Prop) (Q : Operation → Prop)
    (h : ∀ registry op, P (Operation.apply registry op) ↔ P registry ∨ Q op)
    (ops : List Operation) :
    P (ops.foldl Operation.apply registry) ↔ P registry ∨ ∃ op ∈ ops, Q op := by
  induction ops generalizing registry with
  | nil => simp
  | cons op ops ih => rw [List.foldl_cons, ih, h, or_assoc, List.exists_mem_cons_iff]

theorem hasRule_run (ops : List Operation) :
    (ops.foldl Operation.apply registry).hasRule rule = true ↔
      registry.hasRule rule = true ∨ ∃ op ∈ ops, op.known? = some rule :=
  run_iff (fun registry => registry.hasRule rule = true) _ (fun _ => hasRule_apply) ops

theorem hasRuleSet_run (ops : List Operation) :
    (ops.foldl Operation.apply registry).hasRuleSet name = true ↔
      registry.hasRuleSet name = true ∨ ∃ op ∈ ops, op.subject? = some name :=
  run_iff (fun registry => registry.hasRuleSet name = true) _ (fun _ => hasRuleSet_apply) ops

/-- A set keeps the place where it first came in. -/
theorem ruleSetNames_run (ops : List Operation) :
    (ops.foldl Operation.apply registry).ruleSetNames =
      (registry.ruleSetNames ++ ops.filterMap Operation.subject?).eraseDups := by
  induction ops using List.reverseRecOn with
  | nil =>
    have hdistinct : registry.ruleSetNames.Nodup := registry.ruleSets.distinct
    rw [List.filterMap_nil, List.append_nil, eraseDups_eq_self hdistinct]
    rfl
  | append_singleton ops op ih =>
    rw [List.foldl_concat, ruleSetNames_apply, ih, List.filterMap_append]
    cases hsubject : op.subject? with
    | none => simp [hsubject]
    | some name =>
      have hsingle : [op].filterMap Operation.subject? = [name] := by simp [hsubject]
      rw [hsingle, ← List.append_assoc, eraseDups_concat]
      simp only [List.mem_eraseDups]

theorem grants_run (ops : List Operation) :
    (ops.foldl Operation.apply registry).Grants name rule ↔
      registry.Grants name rule ∨ ∃ op ∈ ops, op.subject? = some name ∧ rule ∈ op.rules :=
  run_iff (fun registry => registry.Grants name rule) _ (fun _ => grants_apply) ops

/-- Naming a parent of the set is declaring it. -/
theorem Operation.subject?_of_parentNamed? {op : Operation} {parent : Option RuleSetName}
    (h : op.parentNamed? name = some parent) : op.subject? = some name := by
  cases op with
  | declareRuleSet written _ _ =>
    rw [parentNamed?, Option.ite_none_right_eq_some] at h
    rw [subject?, h.1]
  | declareRule _ => cases h
  | grant _ _ => cases h
  | ask => cases h

/-- The last declaration decides. Without one, a set that the run created by grants alone is under
the root, and any other set has the parent it had. -/
theorem parent?_run (ops : List Operation) :
    (ops.foldl Operation.apply registry).parent? name =
      match (Operation.parentsNamed name ops).getLast? with
      | some parent => parentFor name parent
      | none =>
        if (∃ op ∈ ops, op.subject? = some name) ∧ registry.hasRuleSet name = false then
          parentFor name none
        else registry.parent? name := by
  induction ops using List.reverseRecOn with
  | nil => simp [Operation.parentsNamed]
  | append_singleton ops op ih =>
    rw [List.foldl_concat, parent?_apply, ih, Operation.parentsNamed_concat]
    have hdeclared : (ops.foldl Operation.apply registry).hasRuleSet name = false ↔
        registry.hasRuleSet name = false ∧ ¬ ∃ earlier ∈ ops, earlier.subject? = some name := by
      rw [← Bool.not_eq_true, hasRuleSet_run, not_or, Bool.not_eq_true]
    simp only [hdeclared, List.mem_append, List.mem_singleton, or_and_right, exists_or,
      exists_eq_left]
    cases hnamed : op.parentNamed? name with
    | some parent => simp
    | none =>
      rw [Option.toList_none, List.append_nil]
      cases hlast : (Operation.parentsNamed name ops).getLast? with
      | none =>
        simp only
        split_ifs <;> grind
      | some parent =>
        obtain ⟨earlier, hearlier, hparent⟩ :=
          List.mem_filterMap.mp (List.mem_of_getLast? hlast)
        have hsubject : ∃ earlier ∈ ops, earlier.subject? = some name :=
          ⟨earlier, hearlier, Operation.subject?_of_parentNamed? hparent⟩
        simp [hsubject]

end EncodingPlan.Registry
