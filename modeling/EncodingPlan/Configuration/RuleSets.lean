import EncodingPlan.Configuration.Basic
import EncodingPlan.RuleSet.Standard

/-! The rule sets that sections declare. -/

namespace EncodingPlan.Registry

/-- Declares a rule set as a section gives it. -/
def declare (registry : Registry) (name : String) (declaration : RuleSetDeclaration) :
    Registry × Findings :=
  registry.declareRuleSet (.ofText name) (declaration.parent.map .ofText)
    (declaration.additionalRules.map .ofText)

/-- Declares rule sets one after another and collects what was found. -/
def declareAll (registry : Registry) (declarations : List (String × RuleSetDeclaration)) :
    Registry × Findings :=
  declarations.foldl
    (fun (registry, found) (name, declaration) =>
      let (registry, more) := registry.declare name declaration
      (registry, found ++ more))
    (registry, [])

end EncodingPlan.Registry
