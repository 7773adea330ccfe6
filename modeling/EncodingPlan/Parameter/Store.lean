import EncodingPlan.Parameter.KeyedValues
import EncodingPlan.Parameter.Replacement
import EncodingPlan.Pattern.Whole
import EncodingPlan.Text.Sorted

/-! Parameters and how they are read. A store keeps one value for each key; every value it is
given passes once through its replacements. Nothing falls back from a scope to the global
parameters or the other way round. -/

namespace EncodingPlan

/-- What can be read of parameters, whether they are layered or not. -/
class ParameterSource (α : Type) where
  value? : α → ParameterKey → Option String
  /-- The names that have a value in a scope, in any order. -/
  namesIn : α → String → List String

namespace ParameterSource

variable {α : Type} [ParameterSource α]

def get? (source : α) (name : String) : Option String := value? source (.global name)

def getScoped? (source : α) (scope name : String) : Option String :=
  value? source (.inScope scope name)

/-- The names of a scope that the pattern matches from start to end, in ascending order. -/
def namesMatching (source : α) (scope pattern : String) : Except Problem (List String) := do
  let pattern ← Pattern.whole pattern
  pure (Text.sorted ((namesIn source scope).filter pattern.isMatch))

end ParameterSource

structure ParameterStore where
  values : KeyedValues := ∅
  replacements : Replacements := ∅
deriving DecidableEq

namespace ParameterStore

instance : EmptyCollection ParameterStore := ⟨{}⟩

/-- Writes a global value and answers the one it replaces. -/
def setGlobal (store : ParameterStore) (name value : String) : ParameterStore × Option String :=
  let (values, previous) := store.values.putGlobal name (store.replacements.apply value)
  ({ store with values }, previous)

/-- Writes a value of a scope and answers the one it replaces. -/
def setScoped (store : ParameterStore) (scope name value : String) :
    ParameterStore × Option String :=
  let (values, previous) := store.values.putScoped scope name (store.replacements.apply value)
  ({ store with values }, previous)

/-- Writes a value by its key. -/
def set (store : ParameterStore) (key : ParameterKey) (value : String) :
    ParameterStore × Option String :=
  match key.scope with
  | some scope => store.setScoped scope key.name value
  | none => store.setGlobal key.name value

instance : ParameterSource ParameterStore where
  value? store key := store.values.get? key
  namesIn store scope := store.values.namesIn scope

@[simp] theorem value?_unwritten (replacements : Replacements) (key : ParameterKey) :
    ParameterSource.value? ({ replacements } : ParameterStore) key = none :=
  KeyedValues.get?_empty key

theorem value?_set (store : ParameterStore) (key k : ParameterKey) (value : String) :
    ParameterSource.value? (store.set key value).1 k =
      if k = key then some (store.replacements.apply value)
      else ParameterSource.value? store k := by
  obtain ⟨scope | scope, name⟩ := key
  · exact store.values.get?_putGlobal name _ k
  · exact store.values.get?_putScoped scope name _ k

theorem replacements_set (store : ParameterStore) (key : ParameterKey) (value : String) :
    (store.set key value).1.replacements = store.replacements := by
  obtain ⟨scope | scope, name⟩ := key <;> rfl

def size (store : ParameterStore) : Nat := store.values.size

def isEmpty (store : ParameterStore) : Bool := store.size == 0

/-- The scopes that hold a value, in ascending order. -/
def scopes (store : ParameterStore) : List String := Text.sorted store.values.scopes.keys

/-- The keys with their values, in the order of the keys. -/
def toSortedList (store : ParameterStore) : List (ParameterKey × String) :=
  store.values.toList.mergeSort fun (a, _) (b, _) => (a.order b).isLE

end ParameterStore

end EncodingPlan
