/-! Dictionaries that remember the order in which their keys first came in. Every key has one
value: writing to a present key keeps the key's place, and a new key goes to the end. -/

namespace EncodingPlan

/-- Keys with their values, in the order in which the keys were first written. -/
structure Dict (κ α : Type) where
  entries : List (κ × α)
  distinct : (entries.map Prod.fst).Nodup

namespace Dict

variable {κ α β : Type}

def empty : Dict κ α := ⟨[], List.nodup_nil⟩

instance : EmptyCollection (Dict κ α) := ⟨empty⟩

instance : Inhabited (Dict κ α) := ⟨empty⟩

instance [DecidableEq κ] [DecidableEq α] : DecidableEq (Dict κ α) := fun a b =>
  if h : a.entries = b.entries then
    isTrue (by cases a; cases b; cases h; rfl)
  else
    isFalse fun e => h (congrArg entries e)

def keys (d : Dict κ α) : List κ := d.entries.map Prod.fst

def values (d : Dict κ α) : List α := d.entries.map Prod.snd

def size (d : Dict κ α) : Nat := d.entries.length

def isEmpty (d : Dict κ α) : Bool := d.entries.isEmpty

variable [DecidableEq κ]

/-- The value of the first entry with this key. -/
def find (key : κ) : List (κ × α) → Option α
  | [] => none
  | (k, v) :: rest => if k = key then some v else find key rest

/-- Overwrites in place, or appends. -/
def write (key : κ) (value : α) : List (κ × α) → List (κ × α)
  | [] => [(key, value)]
  | (k, v) :: rest => if k = key then (k, value) :: rest else (k, v) :: write key value rest

/-- Removes the first entry with this key. -/
def remove (key : κ) : List (κ × α) → List (κ × α)
  | [] => []
  | (k, v) :: rest => if k = key then rest else (k, v) :: remove key rest

theorem keys_write (key : κ) (value : α) (entries : List (κ × α)) :
    (write key value entries).map Prod.fst =
      if key ∈ entries.map Prod.fst then entries.map Prod.fst
      else entries.map Prod.fst ++ [key] := by
  induction entries with
  | nil => simp [write]
  | cons entry rest ih =>
    obtain ⟨k, v⟩ := entry
    by_cases h : k = key
    · simp [write, h]
    · have h' : ¬ key = k := fun e => h e.symm
      by_cases hr : key ∈ rest.map Prod.fst <;>
        simp only [write, h, if_false, List.map_cons, ih, hr, if_true, List.mem_cons, h', false_or,
          List.cons_append]

theorem nodup_write {entries : List (κ × α)} (h : (entries.map Prod.fst).Nodup) (key : κ)
    (value : α) : ((write key value entries).map Prod.fst).Nodup := by
  rw [keys_write]
  split
  · exact h
  · rename_i hmem
    rw [List.nodup_append]
    refine ⟨h, by simp, fun a ha b hb => ?_⟩
    rw [List.mem_singleton.1 hb]
    rintro rfl
    exact hmem ha

theorem remove_sublist (key : κ) (entries : List (κ × α)) : (remove key entries).Sublist entries := by
  induction entries with
  | nil => exact .slnil
  | cons entry rest ih =>
    obtain ⟨k, v⟩ := entry
    by_cases h : k = key
    · simp [remove, h]
    · simp only [remove, h, if_false]
      exact ih.cons_cons _

theorem find_write (key k : κ) (value : α) (entries : List (κ × α)) :
    find k (write key value entries) = if k = key then some value else find k entries := by
  induction entries with
  | nil =>
    by_cases hk : key = k
    · simp [write, find, hk]
    · simp [write, find, hk, Ne.symm hk]
  | cons entry rest ih =>
    obtain ⟨k', v⟩ := entry
    by_cases h : k' = key
    · subst h
      by_cases hk : k' = k
      · simp [write, find, hk]
      · simp [write, find, hk, Ne.symm hk]
    · by_cases hk : k' = k
      · subst hk
        simp [write, find, h]
      · simp [write, find, h, hk, ih]

theorem find_eq_none_iff (key : κ) (entries : List (κ × α)) :
    find key entries = none ↔ key ∉ entries.map Prod.fst := by
  induction entries with
  | nil => simp [find]
  | cons entry rest ih =>
    obtain ⟨k, v⟩ := entry
    by_cases h : k = key
    · simp [find, h]
    · simp [find, h, ih, Ne.symm h]

theorem find_remove {entries : List (κ × α)} (h : (entries.map Prod.fst).Nodup) (key k : κ) :
    find k (remove key entries) = if k = key then none else find k entries := by
  induction entries with
  | nil => simp [remove, find]
  | cons entry rest ih =>
    obtain ⟨k', v⟩ := entry
    obtain ⟨hfirst, hrest⟩ := List.nodup_cons.1 h
    by_cases hk' : k' = key
    · subst hk'
      by_cases hk : k = k'
      · subst hk
        simp [remove, (find_eq_none_iff k rest).2 hfirst]
      · simp [remove, find, hk, Ne.symm hk]
    · by_cases hk : k' = k
      · subst hk
        simp [remove, find, hk']
      · simp [remove, find, hk', hk, ih hrest]

theorem find_map (key : κ) (f : κ → α → β) (entries : List (κ × α)) :
    find key (entries.map fun (k, v) => (k, f k v)) = (find key entries).map (f key) := by
  induction entries with
  | nil => rfl
  | cons entry rest ih =>
    obtain ⟨k, v⟩ := entry
    by_cases h : k = key
    · subst h
      simp [find]
    · simp [find, h, ih]

def get? (d : Dict κ α) (key : κ) : Option α := find key d.entries

def contains (d : Dict κ α) (key : κ) : Bool := (d.get? key).isSome

def insert (d : Dict κ α) (key : κ) (value : α) : Dict κ α :=
  ⟨write key value d.entries, nodup_write d.distinct key value⟩

def erase (d : Dict κ α) (key : κ) : Dict κ α :=
  ⟨remove key d.entries, ((remove_sublist key d.entries).map Prod.fst).nodup d.distinct⟩

/-- Writes what `f` makes of the value present. -/
def alter (d : Dict κ α) (key : κ) (f : Option α → α) : Dict κ α :=
  d.insert key (f (d.get? key))

/-- Writes the pairs one after another: a later value replaces an earlier one. -/
def ofList (pairs : List (κ × α)) : Dict κ α :=
  pairs.foldl (fun d (key, value) => d.insert key value) empty

omit [DecidableEq κ] in
/-- The same keys in the same order, each with what `f` makes of it and its value. -/
def mapWithKey (d : Dict κ α) (f : κ → α → β) : Dict κ β :=
  ⟨d.entries.map fun (key, value) => (key, f key value), by
    have h : (d.entries.map fun (key, value) => (key, f key value)).map Prod.fst =
        d.entries.map Prod.fst := by simp
    rw [h]
    exact d.distinct⟩

/-! ## Lookups after writes -/

@[simp] theorem get?_empty (key : κ) : (∅ : Dict κ α).get? key = none := rfl

theorem get?_insert (d : Dict κ α) (key k : κ) (value : α) :
    (d.insert key value).get? k = if k = key then some value else d.get? k :=
  find_write key k value d.entries

theorem get?_erase (d : Dict κ α) (key k : κ) :
    (d.erase key).get? k = if k = key then none else d.get? k :=
  find_remove d.distinct key k

theorem get?_alter (d : Dict κ α) (key k : κ) (f : Option α → α) :
    (d.alter key f).get? k = if k = key then some (f (d.get? key)) else d.get? k :=
  get?_insert d key k _

theorem get?_mapWithKey (d : Dict κ α) (f : κ → α → β) (key : κ) :
    (d.mapWithKey f).get? key = (d.get? key).map (f key) :=
  find_map key f d.entries

theorem get?_eq_none_iff (d : Dict κ α) (key : κ) : d.get? key = none ↔ key ∉ d.keys :=
  find_eq_none_iff key d.entries

theorem contains_iff (d : Dict κ α) (key : κ) : d.contains key = true ↔ key ∈ d.keys := by
  rw [contains, Option.isSome_iff_ne_none, ne_eq, get?_eq_none_iff, Decidable.not_not]

theorem get?_of_isEmpty {d : Dict κ α} (h : d.isEmpty = true) (key : κ) : d.get? key = none := by
  rw [get?_eq_none_iff, keys, List.isEmpty_iff.mp h]
  exact List.not_mem_nil

/-- The entries with a key are the one that a lookup finds. -/
theorem filterMap_entries (d : Dict κ α) (key : κ) :
    d.entries.filterMap (fun (k, v) => if k = key then some v else none) =
      (d.get? key).toList := by
  obtain ⟨entries, hdistinct⟩ := d
  simp only [get?]
  induction entries with
  | nil => rfl
  | cons entry rest ih =>
    obtain ⟨k, v⟩ := entry
    obtain ⟨hfirst, hrest⟩ := List.nodup_cons.1 hdistinct
    by_cases h : k = key
    · subst h
      simp [find, ih hrest, (find_eq_none_iff k rest).2 hfirst]
    · simp [find, h, ih hrest]

theorem mem_entries {d : Dict κ α} {key : κ} {value : α} :
    (key, value) ∈ d.entries ↔ d.get? key = some value := by
  have hmem : value ∈ d.entries.filterMap (fun (k, v) => if k = key then some v else none) ↔
      (key, value) ∈ d.entries := by
    simp
  rw [← hmem, filterMap_entries, Option.mem_toList]

theorem keys_insert (d : Dict κ α) (key : κ) (value : α) :
    (d.insert key value).keys = if key ∈ d.keys then d.keys else d.keys ++ [key] :=
  keys_write key value d.entries

end Dict

end EncodingPlan
