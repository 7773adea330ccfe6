import EncodingPlan.Parameter.Store

/-! Parameters layered over a store. What is written to the overlay hides the value of the same key
in the store, which itself never changes. -/

namespace EncodingPlan

structure ParameterOverlay where
  base : ParameterStore
  own : KeyedValues := ∅
deriving DecidableEq

namespace ParameterOverlay

/-- Writes a global value, passed once through the replacements of the store. -/
def setGlobal (overlay : ParameterOverlay) (name value : String) : ParameterOverlay :=
  { overlay with own := (overlay.own.putGlobal name (overlay.base.replacements.apply value)).1 }

/-- Writes a value of a scope, passed once through the replacements of the store. -/
def setScoped (overlay : ParameterOverlay) (scope name value : String) : ParameterOverlay :=
  { overlay with
    own := (overlay.own.putScoped scope name (overlay.base.replacements.apply value)).1 }

/-- Writes a value by its key. -/
def set (overlay : ParameterOverlay) (key : ParameterKey) (value : String) : ParameterOverlay :=
  match key.scope with
  | some scope => overlay.setScoped scope key.name value
  | none => overlay.setGlobal key.name value

/-- Whether the overlay hides nothing. -/
def isEmpty (overlay : ParameterOverlay) : Bool :=
  overlay.own.globals.isEmpty && overlay.own.scopes.values.all Dict.isEmpty

instance : ParameterSource ParameterOverlay where
  value? overlay key := (overlay.own.get? key).or (overlay.base.values.get? key)
  namesIn overlay scope := overlay.own.namesIn scope ++ overlay.base.values.namesIn scope

@[simp] theorem base_set (overlay : ParameterOverlay) (key : ParameterKey) (value : String) :
    (overlay.set key value).base = overlay.base := by
  obtain ⟨scope | scope, name⟩ := key <;> rfl

theorem value?_set (overlay : ParameterOverlay) (key k : ParameterKey) (value : String) :
    ParameterSource.value? (overlay.set key value) k =
      if k = key then some (overlay.base.replacements.apply value)
      else ParameterSource.value? overlay k := by
  have hown : (overlay.set key value).own.get? k =
      if k = key then some (overlay.base.replacements.apply value)
      else overlay.own.get? k := by
    obtain ⟨scope | scope, name⟩ := key
    · exact overlay.own.get?_putGlobal name _ k
    · exact overlay.own.get?_putScoped scope name _ k
  simp only [ParameterSource.value?, hown, base_set]
  split <;> rfl

end ParameterOverlay

end EncodingPlan
