import EncodingPlan.Dict
import EncodingPlan.Problem
import EncodingPlan.Text.Sorted

/-! Rules and rule sets. A rule set grants rules and extends a parent, up to the root, which is
always declared and has no parent. A rule applies under a set if the set or one of its ancestors
grants it. Parents may be undeclared or form a loop: the walk to the ancestors stops at a set
without a parent and before the first repeat, so it ends in any case.

The walks of all declared sets are made when the first of them is asked for, and are remembered
until a set is declared or granted a rule. -/

namespace EncodingPlan

/-- A declared rule set. Only the root has no parent. -/
structure RuleSet where
  parent : Option RuleSetName
  rules : List RuleName
deriving DecidableEq

namespace RuleSet

def grants (ruleSet : RuleSet) (rule : RuleName) : Bool := ruleSet.rules.contains rule

def grantAll (ruleSet : RuleSet) (rules : List RuleName) : RuleSet :=
  { ruleSet with rules := rules.foldl (fun known rule => known.insert rule) ruleSet.rules }

end RuleSet

/-- The walk of a declared set to its ancestors. -/
structure Chain where
  /-- The set itself first, then its parent and so on. -/
  members : List RuleSetName
  /-- Whether the walk came back to a member. -/
  cyclic : Bool
deriving DecidableEq

/-- The known rules, and the declared rule sets in the order of their first declaration. -/
structure Registry where
  rules : List RuleName
  ruleSets : Dict RuleSetName RuleSet
  /-- The chains of the declared sets, if they were asked for since the last change. -/
  memo : Option (Dict RuleSetName Chain) := none
deriving DecidableEq

namespace Registry

/-- No rules, and the root alone. -/
def bare : Registry where
  rules := []
  ruleSets := (∅ : Dict RuleSetName RuleSet).insert .root ⟨none, []⟩

instance : Inhabited Registry := ⟨bare⟩

/-- Makes a rule known. No chain depends on it. -/
def declareRule (registry : Registry) (rule : RuleName) : Registry :=
  { registry with rules := registry.rules.insert rule }

def hasRule (registry : Registry) (rule : RuleName) : Bool := registry.rules.contains rule

def ruleCount (registry : Registry) : Nat := registry.rules.length

def hasRuleSet (registry : Registry) (name : RuleSetName) : Bool := registry.ruleSets.contains name

def ruleSet? (registry : Registry) (name : RuleSetName) : Option RuleSet :=
  registry.ruleSets.get? name

def ruleSetNames (registry : Registry) : List RuleSetName := registry.ruleSets.keys

/-- The parent a set is declared with: the root where none is named, and none for the root. -/
def parentFor (name : RuleSetName) (parent : Option RuleSetName) : Option RuleSetName :=
  if name.isRoot then none else some (parent.getD .root)

/-- Declares a set. A second declaration replaces the parent and adds its rules to those granted
before. Unknown rules are granted too, and are reported. -/
def declareRuleSet (registry : Registry) (name : RuleSetName) (parent : Option RuleSetName)
    (rules : List RuleName) : Registry × Findings :=
  let declared (known : Option RuleSet) : RuleSet :=
    { (known.getD ⟨none, []⟩).grantAll rules with parent := parentFor name parent }
  ({ registry with ruleSets := registry.ruleSets.alter name declared, memo := none },
   (rules.filter fun rule => !registry.hasRule rule).map fun rule => .unknownRule rule name)

/-- Grants a rule, known or not. An undeclared set is created under the root. -/
def grant (registry : Registry) (rule : RuleName) (name : RuleSetName) : Registry :=
  let granted (known : Option RuleSet) : RuleSet :=
    (known.getD ⟨parentFor name none, []⟩).grantAll [rule]
  { registry with ruleSets := registry.ruleSets.alter name granted, memo := none }

/-! ## Ancestors -/

def parent? (registry : Registry) (name : RuleSetName) : Option RuleSetName :=
  (registry.ruleSet? name).bind RuleSet.parent

/-- At most `fuel` steps of the walk that met `members` and has come to `name`. -/
def walk (registry : Registry) : Nat → List RuleSetName → RuleSetName → Chain
  | 0, members, _ => ⟨members, true⟩
  | fuel + 1, members, name =>
    if members.contains name then ⟨members, true⟩
    else match registry.parent? name with
      | some parent => walk registry fuel (members ++ [name]) parent
      | none => ⟨members ++ [name], false⟩

/-- The walk from a set. It goes on from every declared set at most once, so that many steps are
enough. -/
def resolve (registry : Registry) (name : RuleSetName) : Chain :=
  registry.walk (registry.ruleSets.size + 1) [] name

/-- The chains that the declarations give now. -/
def resolveAll (registry : Registry) : Dict RuleSetName Chain :=
  registry.ruleSets.mapWithKey fun name _ => registry.resolve name

/-- The chains of the declared sets: those remembered, or else new ones. -/
def chains (registry : Registry) : Dict RuleSetName Chain :=
  registry.memo.getD registry.resolveAll

/-- The registry after a question about a chain, which makes it remember all of them. -/
def resolved (registry : Registry) : Registry := { registry with memo := some registry.chains }

/-- The set itself, its parent, the parent's parent and so on; an undeclared set stands alone. -/
def ancestors (registry : Registry) (name : RuleSetName) : List RuleSetName :=
  match registry.chains.get? name with
  | some chain => chain.members
  | none => [name]

/-- Whether the walk from a declared set comes back to a set that it met. -/
def isCyclic (registry : Registry) (name : RuleSetName) : Bool :=
  (registry.chains.get? name).any Chain.cyclic

def appliesUnder (registry : Registry) (rule : RuleName) (name : RuleSetName) : Bool :=
  (registry.ancestors name).any fun ancestor =>
    (registry.ruleSet? ancestor).any fun ruleSet => ruleSet.grants rule

/-- Whether `base` is the set itself or one of its ancestors. -/
def isUnder (registry : Registry) (name base : RuleSetName) : Bool :=
  (registry.ancestors name).contains base

/-- The rules that apply under the set, in ascending order. -/
def effectiveRules (registry : Registry) (name : RuleSetName) : List RuleName :=
  Text.sorted <| (registry.ancestors name).flatMap fun ancestor =>
    match registry.ruleSet? ancestor with
    | some ruleSet => ruleSet.rules
    | none => []

/-- The sets whose parent is not declared, in the order of declaration. -/
def undeclaredParents (registry : Registry) : Findings :=
  registry.ruleSets.entries.filterMap fun (name, ruleSet) =>
    ruleSet.parent.bind fun parent =>
      if registry.hasRuleSet parent then none else some (.unknownBase name parent)

/-- Refuses the first declared set whose walk never ends, and otherwise reports undeclared
parents. -/
def validate (registry : Registry) : Except Problem Findings :=
  match registry.ruleSetNames.find? registry.isCyclic with
  | some name => .error (.cyclicInheritance name (registry.ancestors name))
  | none => .ok registry.undeclaredParents

end Registry

end EncodingPlan
