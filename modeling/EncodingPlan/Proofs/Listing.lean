import EncodingPlan.Dict
import Mathlib.Data.Set.Card

/-! Lists of entries that list a map: every key that has a value stands there once, with its value.
The values of a dictionary of dictionaries are listed under pairs of keys; where no inner dictionary
is empty, an outer key is there exactly as long as a pair has it. -/

namespace EncodingPlan

/-- The entries are those of the map, each once. -/
structure Lists {κ α : Type} (entries : List (κ × α)) (held : κ → Option α) : Prop where
  nodup : (entries.map Prod.fst).Nodup
  mem_iff : ∀ key value, (key, value) ∈ entries ↔ held key = some value

/-- The keys under which the map holds something. -/
def heldKeys {κ α : Type} (held : κ → Option α) : Set κ := {key | (held key).isSome = true}

namespace Lists

variable {κ ι α : Type} {entries : List (κ × α)} {held : κ → Option α}

theorem mem_heldKeys_iff (h : Lists entries held) (key : κ) :
    key ∈ heldKeys held ↔ key ∈ entries.map Prod.fst := by
  change (held key).isSome = true ↔ _
  simp only [Option.isSome_iff_exists, ← h.mem_iff, List.mem_map, Prod.exists, exists_and_right,
    exists_eq_right]

theorem finite (h : Lists entries held) : (heldKeys held).Finite :=
  (entries.map Prod.fst).finite_toSet.subset fun key => (h.mem_heldKeys_iff key).mp

/-- There are as many entries as keys. -/
theorem length_eq (h : Lists entries held) : entries.length = (heldKeys held).ncard := by
  classical
  have hkeys : heldKeys held = ((entries.map Prod.fst).toFinset : Set κ) := by
    ext key
    rw [h.mem_heldKeys_iff, List.coe_toFinset]
    rfl
  rw [hkeys, Set.ncard_coe_finset, List.toFinset_card_of_nodup h.nodup, List.length_map]

theorem perm {others : List (κ × α)} (h : Lists entries held) (hperm : others.Perm entries) :
    Lists others held where
  nodup := (hperm.map Prod.fst).nodup_iff.mpr h.nodup
  mem_iff key value := by rw [hperm.mem_iff, h.mem_iff]

/-- Other names for the keys. -/
theorem rename {entries : List (ι × α)} {held : ι → Option α} (h : Lists entries held)
    {f : ι → κ} {g : κ → ι} (hleft : ∀ i, g (f i) = i) (hright : ∀ key, f (g key) = key) :
    Lists (entries.map fun (i, value) => (f i, value)) fun key => held (g key) where
  nodup := by
    have hmap : (entries.map fun (i, value) => (f i, value)).map Prod.fst =
        (entries.map Prod.fst).map f := by
      simp
    rw [hmap]
    exact h.nodup.map fun i j hij => by rw [← hleft i, hij, hleft]
  mem_iff key value := by
    simp only [← h.mem_iff, List.mem_map, Prod.mk.injEq, Prod.exists]
    constructor
    · rintro ⟨i, _, hmem, rfl, rfl⟩
      rwa [hleft]
    · exact fun hmem => ⟨g key, value, hmem, hright key, rfl⟩

end Lists

theorem foldr_add_eq_sum {α : Type} (size : α → Nat) (entries : List α) :
    entries.foldr (fun entry count => size entry + count) 0 = (entries.map size).sum := by
  rw [List.sum, List.foldr_map]

namespace Dict

variable {κ ι α : Type}

/-- The values of all inner dictionaries, each under its two keys. -/
def nested (d : Dict κ (Dict ι α)) : List ((κ × ι) × α) :=
  d.entries.flatMap fun (key, inner) => inner.entries.map fun (i, value) => ((key, i), value)

theorem nodup_nested (d : Dict κ (Dict ι α)) : (d.nested.map Prod.fst).Nodup := by
  have hkeys : d.nested.map Prod.fst =
      d.entries.flatMap fun (key, inner) => inner.keys.map fun i => (key, i) := by
    simp [nested, keys, List.map_flatMap, Function.comp_def]
  rw [hkeys, List.nodup_flatMap]
  constructor
  · rintro ⟨key, inner⟩ -
    exact inner.distinct.map fun _ _ h => (Prod.mk.inj h).2
  · -- different entries have different outer keys
    refine (List.pairwise_map.mp d.distinct).imp fun {a b} hne => ?_
    intro pair ha hb
    obtain ⟨i, -, rfl⟩ := List.mem_map.mp ha
    obtain ⟨j, -, hj⟩ := List.mem_map.mp hb
    exact hne (Prod.mk.inj hj).1.symm

variable [DecidableEq κ]

/-- No inner dictionary is kept without a value. -/
def NoneEmpty (d : Dict κ (Dict ι α)) : Prop :=
  ∀ key inner, d.get? key = some inner → inner.isEmpty = false

namespace NoneEmpty

variable {d : Dict κ (Dict ι α)}

theorem empty : (∅ : Dict κ (Dict ι α)).NoneEmpty := by
  intro _ _ h
  cases h

theorem insert (h : d.NoneEmpty) (key : κ) {inner : Dict ι α} (hinner : inner.isEmpty = false) :
    (d.insert key inner).NoneEmpty := by
  intro k kept hkept
  rw [get?_insert] at hkept
  split at hkept
  · rw [← Option.some.inj hkept, hinner]
  · exact h k kept hkept

/-- The inner dictionary goes with its last value. -/
theorem erase_or_insert (h : d.NoneEmpty) (key : κ) (left : Dict ι α) :
    (if left.isEmpty then d.erase key else d.insert key left).NoneEmpty := by
  split
  · intro k kept hkept
    rw [get?_erase] at hkept
    split at hkept
    · cases hkept
    · exact h k kept hkept
  · exact h.insert key (Bool.eq_false_iff.mpr ‹_›)

variable [DecidableEq ι]

/-- A value that is written keeps the inner dictionary. -/
theorem write (h : d.NoneEmpty) (key : κ) (inner : Dict ι α) (i : ι) (value : α) :
    (d.insert key (inner.insert i value)).NoneEmpty := by
  refine h.insert key ?_
  rw [isEmpty, List.isEmpty_eq_false_iff_exists_mem]
  exact ⟨_, mem_entries.mpr ((get?_insert ..).trans (if_pos rfl))⟩

theorem contains_iff (h : d.NoneEmpty) (key : κ) :
    d.contains key = true ↔ ∃ i, ((d.get? key).bind (·.get? i)).isSome = true := by
  rw [contains]
  cases hinner : d.get? key with
  | none => simp
  | some inner =>
    have hnonempty := h key inner hinner
    rw [isEmpty, List.isEmpty_eq_false_iff_exists_mem] at hnonempty
    obtain ⟨⟨i, value⟩, hmem⟩ := hnonempty
    refine iff_of_true rfl ⟨i, ?_⟩
    rw [Option.bind_some, mem_entries.mp hmem, Option.isSome_some]

end NoneEmpty

variable [DecidableEq ι]

theorem lists_nested (d : Dict κ (Dict ι α)) :
    Lists d.nested fun (key, i) => (d.get? key).bind (·.get? i) where
  nodup := d.nodup_nested
  mem_iff := by
    rintro ⟨key, i⟩ value
    simp only [nested, List.mem_flatMap, List.mem_map, Prod.mk.injEq, Prod.exists,
      Option.bind_eq_some_iff, ← mem_entries]
    constructor
    · rintro ⟨k, inner, hinner, j, v, hv, ⟨rfl, rfl⟩, rfl⟩
      exact ⟨inner, hinner, hv⟩
    · rintro ⟨inner, hinner, hv⟩
      exact ⟨key, inner, hinner, i, value, hv, ⟨rfl, rfl⟩, rfl⟩

end Dict

end EncodingPlan
