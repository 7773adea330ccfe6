import EncodingPlan.Parameter.Overlay
import EncodingPlan.Proofs.Parameter.Writes

/-! What sources of parameters answer. A lawful source lists the names that it has values for, so
that its values alone decide what it answers, patterns included. An overlay answers what was written
to it last, and where nothing was written what the store below it holds. So whoever writes to an
overlay cannot tell it from a copy of the store. -/

namespace EncodingPlan

/-- The names that are listed of a scope are those with a value there. -/
class LawfulParameterSource (α : Type) [ParameterSource α] : Prop where
  mem_namesIn (source : α) (scope name : String) :
    name ∈ ParameterSource.namesIn source scope ↔
      (ParameterSource.getScoped? source scope name).isSome = true

namespace ParameterSource

variable {α β : Type} [ParameterSource α] [ParameterSource β] {a : α} {b : β} {scope : String}

/-- Two sources answer every question alike. -/
structure ReadAlike (a : α) (b : β) : Prop where
  value? : ∀ key, ParameterSource.value? a key = ParameterSource.value? b key
  namesMatching : ∀ scope pattern,
    ParameterSource.namesMatching a scope pattern = ParameterSource.namesMatching b scope pattern

/-- A pattern that can be read picks the names with a value that it matches. -/
theorem namesMatching_eq_ok [LawfulParameterSource α] (source : α) (scope : String)
    {pattern : String} {compiled : Pattern} (h : Pattern.whole pattern = .ok compiled) :
    ∃ names, namesMatching source scope pattern = .ok names ∧ names.Pairwise (· < ·) ∧
      ∀ name, name ∈ names ↔
        (getScoped? source scope name).isSome = true ∧ compiled.isMatch name = true := by
  refine ⟨Text.sorted ((namesIn source scope).filter compiled.isMatch), ?_,
    Text.pairwise_sorted _, fun name => ?_⟩
  · rw [namesMatching, h]
    rfl
  · rw [Text.mem_sorted, List.mem_filter, LawfulParameterSource.mem_namesIn]

section
variable [LawfulParameterSource α] [LawfulParameterSource β]

theorem namesMatching_congr
    (h : ∀ name, getScoped? a scope name = getScoped? b scope name) (pattern : String) :
    namesMatching a scope pattern = namesMatching b scope pattern := by
  have hnames (compiled : Pattern) :
      Text.sorted ((namesIn a scope).filter compiled.isMatch) =
        Text.sorted ((namesIn b scope).filter compiled.isMatch) := by
    refine Text.sorted_eq_of_mem_iff fun name => ?_
    rw [List.mem_filter, List.mem_filter, LawfulParameterSource.mem_namesIn,
      LawfulParameterSource.mem_namesIn, h]
  simp only [namesMatching, hnames]

theorem ReadAlike.of_value?
    (h : ∀ key, ParameterSource.value? a key = ParameterSource.value? b key) :
    ReadAlike a b where
  value? := h
  namesMatching _ := namesMatching_congr fun name => h (.inScope _ name)

end

end ParameterSource

/-! ## Stores and overlays -/

namespace ParameterStore

theorem mem_namesIn {values : KeyedValues} {scope name : String} :
    name ∈ values.namesIn scope ↔ (values.get? (.inScope scope name)).isSome = true := by
  have hget : values.get? (.inScope scope name) =
      ((values.scopes.get? scope).getD ∅).get? name := by
    cases hheld : values.scopes.get? scope <;>
      simp [KeyedValues.get?, KeyedValues.getScoped?, ParameterKey.inScope, hheld]
  rw [hget]
  exact (Dict.contains_iff _ name).symm

instance : LawfulParameterSource ParameterStore where
  mem_namesIn _ _ _ := mem_namesIn

variable {key : ParameterKey}

/-- Values that are changed one by one are written in the same places. -/
theorem valuesFor_map (writes : List (ParameterKey × String)) (f : String → String) :
    valuesFor key (writes.map fun (written, value) => (written, f value)) =
      (valuesFor key writes).map f := by
  rw [valuesFor, valuesFor, List.filterMap_map, List.map_filterMap]
  congr 1
  funext entry
  exact (Option.map_if ..).symm

end ParameterStore

namespace ParameterOverlay

instance : LawfulParameterSource ParameterOverlay where
  mem_namesIn overlay scope name := by
    have hvalue : ParameterSource.getScoped? overlay scope name =
        (overlay.own.get? (.inScope scope name)).or
          (overlay.base.values.get? (.inScope scope name)) := rfl
    rw [hvalue, Option.isSome_or, Bool.or_eq_true, ← ParameterStore.mem_namesIn,
      ← ParameterStore.mem_namesIn, ← List.mem_append]
    rfl

/-- Writes values one after another. -/
def setAll (overlay : ParameterOverlay) (values : List (ParameterKey × String)) :
    ParameterOverlay :=
  values.foldl (fun overlay (key, value) => overlay.set key value) overlay

/-- What was written to the overlay, as a store of its own. -/
def upper (overlay : ParameterOverlay) : ParameterStore where
  values := overlay.own
  replacements := overlay.base.replacements

theorem value?_eq (overlay : ParameterOverlay) (key : ParameterKey) :
    ParameterSource.value? overlay key =
      (ParameterSource.value? overlay.upper key).or (ParameterSource.value? overlay.base key) :=
  rfl

@[simp] theorem value?_upper_unwritten (base : ParameterStore) (key : ParameterKey) :
    ParameterSource.value? ({ base } : ParameterOverlay).upper key = none :=
  ParameterStore.value?_unwritten base.replacements key

theorem base_setAll (overlay : ParameterOverlay) (writes : List (ParameterKey × String)) :
    (overlay.setAll writes).base = overlay.base := by
  induction writes generalizing overlay with
  | nil => rfl
  | cons write writes ih => exact (ih _).trans (overlay.base_set write.1 write.2)

theorem upper_set (overlay : ParameterOverlay) (key : ParameterKey) (value : String) :
    (overlay.set key value).upper = (overlay.upper.set key value).1 := by
  obtain ⟨scope | scope, name⟩ := key <;> rfl

theorem upper_setAll (overlay : ParameterOverlay) (writes : List (ParameterKey × String)) :
    (overlay.setAll writes).upper = overlay.upper.setAll writes := by
  induction writes generalizing overlay with
  | nil => rfl
  | cons write writes ih =>
    exact (ih _).trans (congrArg (ParameterStore.setAll · writes) (overlay.upper_set write.1 write.2))

/-- The last value that was written hides what the store holds. -/
theorem value?_setAll (base : ParameterStore) (writes : List (ParameterKey × String))
    (key : ParameterKey) :
    ParameterSource.value? ({ base : ParameterOverlay }.setAll writes) key =
      match (ParameterStore.valuesFor key writes).getLast? with
      | some value => some (base.replacements.apply value)
      | none => ParameterSource.value? base key := by
  rw [value?_eq, base_setAll, upper_setAll, ParameterStore.value?_setAll, value?_upper_unwritten]
  cases (ParameterStore.valuesFor key writes).getLast? <;> rfl

end ParameterOverlay

/-! ## An overlay and a copy of its store -/

/-- What is written from outside. -/
inductive ParameterWrite where
  | setGlobal (name value : String)
  | setScoped (scope name value : String)

namespace ParameterWrite

def toStore (store : ParameterStore) : ParameterWrite → ParameterStore
  | setGlobal name value => (store.setGlobal name value).1
  | setScoped scope name value => (store.setScoped scope name value).1

def toOverlay (overlay : ParameterOverlay) : ParameterWrite → ParameterOverlay
  | setGlobal name value => overlay.setGlobal name value
  | setScoped scope name value => overlay.setScoped scope name value

end ParameterWrite

namespace ParameterOverlay

variable {overlay : ParameterOverlay} {copy : ParameterStore}

/-- The copy holds what the overlay shows, and replaces what is written to it as the overlay does. -/
structure Mirrors (overlay : ParameterOverlay) (copy : ParameterStore) : Prop where
  replacements : overlay.base.replacements = copy.replacements
  value? : ∀ key, ParameterSource.value? overlay key = ParameterSource.value? copy key

theorem mirrors_base (store : ParameterStore) : Mirrors { base := store } store where
  replacements := rfl
  value? key := by rw [value?_eq, value?_upper_unwritten, Option.none_or]

namespace Mirrors

theorem set (h : overlay.Mirrors copy) (key : ParameterKey) (value : String) :
    (overlay.set key value).Mirrors (copy.set key value).1 where
  replacements := by rw [base_set, ParameterStore.replacements_set, h.replacements]
  value? k := by rw [value?_set, ParameterStore.value?_set, h.replacements, h.value?]

theorem write (h : overlay.Mirrors copy) (write : ParameterWrite) :
    (write.toOverlay overlay).Mirrors (write.toStore copy) := by
  cases write with
  | setGlobal name value => exact h.set (.global name) value
  | setScoped scope name value => exact h.set (.inScope scope name) value

theorem writes (h : overlay.Mirrors copy) (writes : List ParameterWrite) :
    (writes.foldl ParameterWrite.toOverlay overlay).Mirrors
      (writes.foldl ParameterWrite.toStore copy) := by
  induction writes generalizing overlay copy with
  | nil => exact h
  | cons write writes ih => exact ih (h.write write)

end Mirrors

theorem base_writes (overlay : ParameterOverlay) (writes : List ParameterWrite) :
    (writes.foldl ParameterWrite.toOverlay overlay).base = overlay.base := by
  induction writes generalizing overlay with
  | nil => rfl
  | cons write writes ih =>
    rw [List.foldl_cons, ih]
    cases write with
    | setGlobal name value => rfl
    | setScoped scope name value => rfl

/-- An overlay answers every question as a copy of its store does that was written to in the same
way, and leaves the store as it was. -/
theorem readAlike_copy (store : ParameterStore) (writes : List ParameterWrite) :
    ParameterSource.ReadAlike (writes.foldl ParameterWrite.toOverlay { base := store })
        (writes.foldl ParameterWrite.toStore store) ∧
      (writes.foldl ParameterWrite.toOverlay { base := store }).base = store := by
  have hmirrors := (mirrors_base store).writes writes
  exact ⟨.of_value? hmirrors.value?, base_writes _ writes⟩

end ParameterOverlay

end EncodingPlan
