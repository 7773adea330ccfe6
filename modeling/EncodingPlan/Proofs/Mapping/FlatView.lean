import EncodingPlan.Proofs.Listing
import EncodingPlan.Proofs.Mapping.Nearest

/-! A mapping table as one map from keys to records. The table keeps its records by subjects and
counts them apart, and drops a subject with its last record. After any writes and removals it
answers as the flat map would that the last operation on every key makes: the count is the number of
keys, and a subject is known as long as a key has it. -/

namespace EncodingPlan.MappingTable

variable {table : MappingTable} {key : MappingKey}

theorem lists_toList (table : MappingTable) : Lists table.toList table.get? := by
  let keyOf : String × RuleSetName → MappingKey := fun (subject, ruleSet) => ⟨subject, ruleSet⟩
  have hnested : table.toList =
      table.subjects.nested.map fun (names, record) => (keyOf names, record) := by
    simp [toList, Dict.nested, List.map_flatMap, Function.comp_def, keyOf]
  rw [hnested]
  exact table.subjects.lists_nested.rename (f := keyOf) (g := fun key => (key.subject, key.ruleSet))
    (fun _ => rfl) fun _ => rfl

/-! ## Single operations -/

theorem snd_put (table : MappingTable) (key : MappingKey) (record : MappingRecord) :
    (table.put key record).2 = table.get? key := by
  rw [put, get?]
  cases table.subjects.get? key.subject <;> rfl

theorem take_of_get?_eq_none (h : table.get? key = none) : table.take key = (table, none) := by
  rw [take]
  cases hheld : table.subjects.get? key.subject with
  | none => rfl
  | some held =>
    rw [get?, hheld, Option.bind_some] at h
    simp [h]

theorem snd_take (table : MappingTable) (key : MappingKey) :
    (table.take key).2 = table.get? key := by
  rw [take, get?]
  cases table.subjects.get? key.subject with
  | none => rfl
  | some held =>
    rw [Option.bind_some]
    cases h : held.get? key.ruleSet <;> simp [h]

theorem heldKeys_put (record : MappingRecord) :
    heldKeys (table.put key record).1.get? = insert key (heldKeys table.get?) := by
  ext k
  change ((table.put key record).1.get? k).isSome = true ↔ k = key ∨ (table.get? k).isSome = true
  rw [get?_put]
  by_cases hk : k = key <;> simp [hk]

theorem heldKeys_take : heldKeys (table.take key).1.get? = heldKeys table.get? \ {key} := by
  ext k
  change ((table.take key).1.get? k).isSome = true ↔ (table.get? k).isSome = true ∧ ¬ k = key
  rw [get?_take]
  by_cases hk : k = key <;> simp [hk]

/-! ## The invariant -/

/-- The count is the number of keys, and no subject is kept without a record. -/
structure IsTidy (table : MappingTable) : Prop where
  size : table.size = (heldKeys table.get?).ncard
  subjects : table.subjects.NoneEmpty

namespace IsTidy

theorem empty : (∅ : MappingTable).IsTidy where
  size := by
    have hkeys : heldKeys (∅ : MappingTable).get? = ∅ := by
      ext key
      simp [heldKeys]
    rw [hkeys, Set.ncard_empty]
    rfl
  subjects := .empty

/-- A write counts if nothing was there. -/
theorem put (h : table.IsTidy) (key : MappingKey) (record : MappingRecord) :
    (table.put key record).1.IsTidy where
  size := by
    have hsize : (table.put key record).1.size =
        if (table.put key record).2.isNone then table.size + 1 else table.size := rfl
    rw [hsize, snd_put, heldKeys_put, h.size]
    cases hheld : table.get? key with
    | none =>
      have hnot : key ∉ heldKeys table.get? := by simp [heldKeys, hheld]
      exact (Set.ncard_insert_of_notMem hnot (lists_toList table).finite).symm
    | some held =>
      have hmem : key ∈ heldKeys table.get? := by simp [heldKeys, hheld]
      rw [Set.insert_eq_of_mem hmem]
      rfl
  subjects := h.subjects.write key.subject _ key.ruleSet record

/-- A removal counts if something was there. Then the count is not zero. -/
theorem take (h : table.IsTidy) (key : MappingKey) : (table.take key).1.IsTidy := by
  cases hrecord : table.get? key with
  | none => rwa [take_of_get?_eq_none hrecord]
  | some record =>
    obtain ⟨held, hheld, hin⟩ := Option.bind_eq_some_iff.mp hrecord
    refine ⟨?_, ?_⟩
    · have hmem : key ∈ heldKeys table.get? := by simp [heldKeys, hrecord]
      rw [heldKeys_take, Set.ncard_sdiff_singleton_of_mem hmem, ← h.size]
      simp [MappingTable.take, hheld, hin]
    · simp only [MappingTable.take, hheld, hin]
      exact h.subjects.erase_or_insert key.subject (held.erase key.ruleSet)

theorem apply (h : table.IsTidy) (op : Operation) : (op.apply table).IsTidy := by
  cases op with
  | put key record => exact h.put key record
  | take key => exact h.take key

theorem after (ops : List Operation) : (after ops).IsTidy := by
  induction ops using List.reverseRecOn with
  | nil => exact empty
  | append_singleton ops op ih =>
    rw [MappingTable.after, List.foldl_concat]
    exact ih.apply op

theorem size_take (h : table.IsTidy) (hheld : (table.get? key).isSome = true) :
    (table.take key).1.size + 1 = table.size := by
  have hmem : key ∈ heldKeys table.get? := hheld
  rw [(h.take key).size, heldKeys_take, h.size]
  exact Set.ncard_sdiff_singleton_add_one hmem (lists_toList table).finite

theorem isEmpty_iff (h : table.IsTidy) :
    table.isEmpty = true ↔ ∀ key, table.get? key = none := by
  rw [isEmpty, beq_iff_eq, h.size, Set.ncard_eq_zero (lists_toList table).finite,
    Set.eq_empty_iff_forall_notMem]
  simp [heldKeys]

theorem containsSubject_iff (h : table.IsTidy) (subject : String) :
    table.containsSubject subject = true ↔
      ∃ ruleSet, (table.get? ⟨subject, ruleSet⟩).isSome = true :=
  h.subjects.contains_iff subject

end IsTidy

/-! ## The flat map -/

/-- The table answers as the map does, hands out what the map holds when a key is written or
removed, and counts the keys of the map. -/
structure IsFlat (table : MappingTable) (held : MappingKey → Option MappingRecord) : Prop where
  get? : ∀ key, table.get? key = held key
  put : ∀ key record, (table.put key record).2 = held key
  take : ∀ key, (table.take key).2 = held key
  /-- A removal touches no other key. -/
  left : ∀ key k, (table.take key).1.get? k = if k = key then none else held k
  size : table.size = (heldKeys held).ncard
  /-- The count goes down only from above zero. -/
  size_take : ∀ key, (held key).isSome = true → (table.take key).1.size + 1 = table.size
  isEmpty : table.isEmpty = true ↔ ∀ key, held key = none
  toList : Lists table.toList held
  /-- A subject is known exactly as long as it has a record. -/
  containsSubject : ∀ subject, table.containsSubject subject = true ↔
    ∃ ruleSet, (held ⟨subject, ruleSet⟩).isSome = true

theorem IsTidy.isFlat (h : table.IsTidy) : table.IsFlat table.get? where
  get? _ := rfl
  put := snd_put table
  take := snd_take table
  left := get?_take table
  size := h.size
  size_take _ := h.size_take
  isEmpty := h.isEmpty_iff
  toList := lists_toList table
  containsSubject := h.containsSubject_iff

/-- After every history a table is the flat map of what the last operation on each key left. -/
theorem after_isFlat (ops : List Operation) : (after ops).IsFlat (heldAfter ops) := by
  have hflat := (IsTidy.after ops).isFlat
  rwa [show (after ops).get? = heldAfter ops from funext (get?_after ops)] at hflat

end EncodingPlan.MappingTable
