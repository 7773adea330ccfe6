/-! Keys of parameters. A global parameter and one of a scope never have the same key, whatever
their texts look like. -/

namespace EncodingPlan

/-- A name, global or in a scope. -/
structure ParameterKey where
  scope : Option String
  name : String
deriving DecidableEq, Repr

namespace ParameterKey

def global (name : String) : ParameterKey := ⟨none, name⟩

def inScope (scope name : String) : ParameterKey := ⟨some scope, name⟩

def isGlobal (key : ParameterKey) : Bool := key.scope.isNone

def text (key : ParameterKey) : String :=
  match key.scope with
  | some scope => scope ++ "::" ++ key.name
  | none => key.name

instance : ToString ParameterKey := ⟨text⟩

/-- Global keys come first, then scopes in order, and names within a scope. -/
def order (a b : ParameterKey) : Ordering :=
  match a.scope, b.scope with
  | none, none => compare a.name b.name
  | none, some _ => .lt
  | some _, none => .gt
  | some s, some t => (compare s t).then (compare a.name b.name)

end ParameterKey

end EncodingPlan
