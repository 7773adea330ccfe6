import EncodingPlan.Resolution.Draft
import Mathlib.Data.List.Induction

/-! What a store holds after values were written to it one after another: under each key the last
value written there, replaced once, and what it held before under the others. -/

namespace EncodingPlan

@[simp] theorem getLast?_toList {α : Type} (a : Option α) : a.toList.getLast? = a := by
  cases a <;> rfl

namespace ParameterStore

/-- The values that are written under the key, in the order of writing. -/
def valuesFor (key : ParameterKey) (writes : List (ParameterKey × String)) : List String :=
  writes.filterMap fun (written, value) => if written = key then some value else none

variable {key : ParameterKey} {store : ParameterStore}

theorem valuesFor_append (writes more : List (ParameterKey × String)) :
    valuesFor key (writes ++ more) = valuesFor key writes ++ valuesFor key more :=
  List.filterMap_append

theorem valuesFor_singleton (value : String) : valuesFor key [(key, value)] = [value] := by
  simp [valuesFor]

theorem valuesFor_optional {written : ParameterKey} (value : Option String) :
    valuesFor key (value.map fun value => (written, value)).toList =
      if written = key then value.toList else [] := by
  cases value with
  | none => exact (ite_self _).symm
  | some value => split <;> simp_all [valuesFor]

theorem valuesFor_flatMap {ι : Type} (sources : List ι) (f : ι → List (ParameterKey × String)) :
    valuesFor key (sources.flatMap f) = sources.flatMap fun source => valuesFor key (f source) :=
  List.filterMap_flatMap

/-- A section writes one value under each of its keys. -/
theorem valuesFor_writes (values : ParameterValues) {keyOf : String → ParameterKey}
    (hkeyOf : keyOf.Injective) (name : String) :
    valuesFor (keyOf name) (values.writes keyOf) = (values.get? name).toList := by
  rw [← Dict.filterMap_entries, valuesFor, ParameterValues.writes, List.filterMap_map]
  congr 1
  funext entry
  exact if_congr hkeyOf.eq_iff rfl rfl

theorem valuesFor_writes_of_ne (values : ParameterValues) {keyOf : String → ParameterKey}
    (h : ∀ name, keyOf name ≠ key) : valuesFor key (values.writes keyOf) = [] := by
  rw [valuesFor, ParameterValues.writes, List.filterMap_map, List.filterMap_eq_nil_iff]
  exact fun entry _ => if_neg (h entry.1)

theorem replacements_setAll (writes : List (ParameterKey × String)) :
    (store.setAll writes).replacements = store.replacements := by
  induction writes generalizing store with
  | nil => rfl
  | cons write writes ih => exact ih.trans (store.replacements_set write.1 write.2)

theorem setAll_append (writes more : List (ParameterKey × String)) :
    store.setAll (writes ++ more) = (store.setAll writes).setAll more :=
  List.foldl_append

theorem value?_setAll (writes : List (ParameterKey × String)) :
    ParameterSource.value? (store.setAll writes) key =
      match (valuesFor key writes).getLast? with
      | some value => some (store.replacements.apply value)
      | none => ParameterSource.value? store key := by
  induction writes using List.reverseRecOn with
  | nil => rfl
  | append_singleton writes write ih =>
    obtain ⟨written, value⟩ := write
    have hset : store.setAll (writes ++ [(written, value)]) =
        ((store.setAll writes).set written value).1 := by
      rw [setAll_append]
      rfl
    rw [hset, value?_set, replacements_setAll, valuesFor_append]
    by_cases hkey : key = written
    · rw [if_pos hkey, hkey, valuesFor_singleton, List.getLast?_concat]
    · rw [if_neg hkey, ih, valuesFor, valuesFor]
      simp [Ne.symm hkey]

end ParameterStore

end EncodingPlan
