import EncodingPlan.Dict
import EncodingPlan.Parameter.Key

/-! Values under the keys of parameters. Global values stand apart from those of scopes, and every
scope that has been written to has a dictionary of its own. -/

namespace EncodingPlan

structure KeyedValues where
  globals : Dict String String := ∅
  scopes : Dict String (Dict String String) := ∅
deriving DecidableEq

namespace KeyedValues

instance : EmptyCollection KeyedValues := ⟨{}⟩

variable (values : KeyedValues)

def getScoped? (scope name : String) : Option String :=
  (values.scopes.get? scope).bind (·.get? name)

def get? (key : ParameterKey) : Option String :=
  match key.scope with
  | some scope => values.getScoped? scope key.name
  | none => values.globals.get? key.name

/-- Writes a global value and answers the one it replaces. -/
def putGlobal (name value : String) : KeyedValues × Option String :=
  ({ values with globals := values.globals.insert name value }, values.globals.get? name)

/-- Writes a value of a scope and answers the one it replaces. -/
def putScoped (scope name value : String) : KeyedValues × Option String :=
  let held := (values.scopes.get? scope).getD ∅
  ({ values with scopes := values.scopes.insert scope (held.insert name value) }, held.get? name)

/-- Names with a value in a scope. -/
def namesIn (scope : String) : List String := ((values.scopes.get? scope).getD ∅).keys

/-- The values with their keys. -/
def toList : List (ParameterKey × String) :=
  (values.globals.entries.map fun (name, value) => (.global name, value)) ++
    values.scopes.entries.flatMap fun (scope, held) =>
      held.entries.map fun (name, value) => (.inScope scope name, value)

/-- The number of values, counted in each dictionary. -/
def size : Nat :=
  values.globals.size + values.scopes.values.foldr (fun held count => held.size + count) 0

/-! ## Lookups after writes -/

@[simp] theorem get?_empty (key : ParameterKey) : (∅ : KeyedValues).get? key = none := by
  obtain ⟨scope | scope, name⟩ := key <;> rfl

theorem get?_putGlobal (name value : String) (k : ParameterKey) :
    (values.putGlobal name value).1.get? k =
      if k = .global name then some value else values.get? k := by
  obtain ⟨scope | scope, name'⟩ := k
  · simp [get?, putGlobal, Dict.get?_insert, ParameterKey.global]
  · simp [get?, getScoped?, putGlobal, ParameterKey.global]

theorem get?_putScoped (scope name value : String) (k : ParameterKey) :
    (values.putScoped scope name value).1.get? k =
      if k = .inScope scope name then some value else values.get? k := by
  obtain ⟨scope' | scope', name'⟩ := k
  · simp [get?, putScoped, ParameterKey.inScope]
  · simp only [get?, getScoped?, putScoped, Dict.get?_insert, ParameterKey.inScope,
      ParameterKey.mk.injEq, Option.some.injEq]
    by_cases hscope : scope' = scope
    · cases hheld : values.scopes.get? scope <;>
        by_cases hname : name' = name <;> simp [hscope, hname, hheld, Dict.get?_insert]
    · simp [hscope]

theorem snd_putScoped (scope name value : String) :
    (values.putScoped scope name value).2 = values.getScoped? scope name := by
  cases h : values.scopes.get? scope <;> simp [putScoped, getScoped?, h]

end KeyedValues

end EncodingPlan
