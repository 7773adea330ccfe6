import EncodingPlan.Proofs.Mapping.FlatView
import EncodingPlan.Proofs.Mapping.Writes

/-! The tables of a configuration do not see each other's writes. After any operations the table of
a kind or of an owner is the one that the operations on it alone lead to. Owners are listed as long
as they have entries, and the entries of all tables add up. -/

namespace EncodingPlan.MappingTables

/-- What is done to mapping tables from outside. -/
inductive Operation where
  | put (kind : MappingKind) (key : MappingKey) (record : MappingRecord)
  | take (kind : MappingKind) (key : MappingKey)
  | putFor (owner : String) (key : MappingKey) (record : MappingRecord)

namespace Operation

def apply (tables : MappingTables) : Operation → MappingTables
  | put kind key record => (tables.put kind key record).1
  | take kind key => (tables.take kind key).1
  | putFor owner key record => (tables.putFor owner key record).1

/-- The operation as one on the table of the kind, if it is addressed to it. -/
def onKind? (kind : MappingKind) : Operation → Option MappingTable.Operation
  | put k key record => if k = kind then some (.put key record) else none
  | take k key => if k = kind then some (.take key) else none
  | putFor .. => none

/-- The operation as one on the table of the owner, if it is addressed to it. -/
def onOwner? (owner : String) : Operation → Option MappingTable.Operation
  | putFor o key record => if o = owner then some (.put key record) else none
  | put .. | take .. => none

end Operation

/-- The tables that a history leads to. -/
def after (ops : List Operation) : MappingTables := ops.foldl Operation.apply ∅

/-! ## Single operations -/

theorem table_apply (tables : MappingTables) (op : Operation) (kind : MappingKind) :
    (op.apply tables).table kind =
      (op.onKind? kind).toList.foldl MappingTable.Operation.apply (tables.table kind) := by
  cases op with
  | put k key record =>
    rw [Operation.apply, put, table_setTable, Operation.onKind?]
    by_cases hk : k = kind
    · rw [if_pos hk.symm, if_pos hk, hk]
      rfl
    · rw [if_neg (Ne.symm hk), if_neg hk]
      rfl
  | take k key =>
    rw [Operation.apply, take, table_setTable, Operation.onKind?]
    by_cases hk : k = kind
    · rw [if_pos hk.symm, if_pos hk, hk]
      rfl
    · rw [if_neg (Ne.symm hk), if_neg hk]
      rfl
  | putFor owner key record => rfl

theorem tableOf_apply (tables : MappingTables) (op : Operation) (owner : String) :
    (op.apply tables).ofTargets.tableOf owner =
      (op.onOwner? owner).toList.foldl MappingTable.Operation.apply
        (tables.ofTargets.tableOf owner) := by
  cases op with
  | put kind key record => rfl
  | take kind key => rfl
  | putFor o key record =>
    rw [Operation.apply, putFor, tableOf_put, Operation.onOwner?]
    by_cases ho : o = owner
    · rw [if_pos ho.symm, if_pos ho, ho]
      rfl
    · rw [if_neg (Ne.symm ho), if_neg ho]
      rfl

/-! ## Histories -/

/-- The history of the table of a kind. -/
def onKind (ops : List Operation) (kind : MappingKind) : List MappingTable.Operation :=
  ops.filterMap (·.onKind? kind)

/-- The history of the table of an owner. -/
def onOwner (ops : List Operation) (owner : String) : List MappingTable.Operation :=
  ops.filterMap (·.onOwner? owner)

theorem after_concat (ops : List Operation) (op : Operation) :
    after (ops ++ [op]) = op.apply (after ops) :=
  List.foldl_concat ..

theorem table_after (ops : List Operation) (kind : MappingKind) :
    (after ops).table kind = MappingTable.after (onKind ops kind) := by
  induction ops using List.reverseRecOn with
  | nil => cases kind <;> rfl
  | append_singleton ops op ih =>
    rw [after_concat, table_apply, ih, MappingTable.after, ← List.foldl_append, onKind, onKind,
      List.filterMap_append]
    rfl

theorem tableOf_after (ops : List Operation) (owner : String) :
    (after ops).ofTargets.tableOf owner = MappingTable.after (onOwner ops owner) := by
  induction ops using List.reverseRecOn with
  | nil => rfl
  | append_singleton ops op ih =>
    rw [after_concat, tableOf_apply, ih, MappingTable.after, ← List.foldl_append, onOwner, onOwner,
      List.filterMap_append]
    rfl

/-- Nothing is removed from the tables of owners, and only a write brings an owner in. -/
theorem exists_get?_of_owned (ops : List Operation) {owner : String} {table : MappingTable}
    (h : (after ops).ofTargets.get? owner = some table) :
    ∃ key, (table.get? key).isSome = true := by
  induction ops using List.reverseRecOn generalizing table with
  | nil => cases h
  | append_singleton ops op ih =>
    rw [after_concat] at h
    cases op with
    | put kind key record => exact ih h
    | take kind key => exact ih h
    | putFor o key record =>
      simp only [Operation.apply, putFor, OwnedTables.put, Dict.get?_insert] at h
      split at h
      · rw [← Option.some.inj h]
        exact ⟨key, by rw [MappingTable.get?_put, if_pos rfl, Option.isSome_some]⟩
      · exact ih h

/-- The table of an owner is kept as soon as it has an entry. -/
theorem get?_ofTargets_after (ops : List Operation) (owner : String) :
    (after ops).ofTargets.get? owner =
      if (MappingTable.after (onOwner ops owner)).isEmpty then none
      else some (MappingTable.after (onOwner ops owner)) := by
  have hflat := MappingTable.after_isFlat (onOwner ops owner)
  rw [← tableOf_after] at hflat ⊢
  cases h : (after ops).ofTargets.get? owner with
  | none =>
    rw [OwnedTables.tableOf, h]
    rfl
  | some table =>
    obtain ⟨key, hkey⟩ := exists_get?_of_owned ops h
    have htable : (after ops).ofTargets.tableOf owner = table := by rw [OwnedTables.tableOf, h]; rfl
    rw [htable] at hflat ⊢
    rw [if_neg]
    intro hempty
    rw [hflat.get?, hflat.isEmpty.mp hempty key] at hkey
    cases hkey

/-! ## Counts -/

theorem toList_shared (tables : MappingTables) :
    tables.shared.toList = MappingKind.all.map tables.table := by
  obtain ⟨⟨⟨shared⟩, hsize⟩, ofTargets⟩ := tables
  match shared, hsize with
  | [_, _, _, _, _], _ => rfl

theorem entryCount_eq_sum (owned : OwnedTables) :
    owned.entryCount = (owned.values.map MappingTable.size).sum :=
  foldr_add_eq_sum ..

theorem entryCount_ofTargets (owned : OwnedTables) :
    owned.entryCount = (owned.owners.map fun owner => (owned.tableOf owner).size).sum := by
  rw [entryCount_eq_sum, Dict.values, OwnedTables.owners, Dict.keys, List.map_map, List.map_map]
  congr 1
  refine List.map_congr_left fun entry hmem => ?_
  simp [OwnedTables.tableOf, Dict.mem_entries.mp hmem]

theorem hasNoEntry_ofTargets_iff (owned : OwnedTables) :
    owned.hasNoEntry = true ↔ owned.entryCount = 0 := by
  simp [entryCount_eq_sum, OwnedTables.hasNoEntry, MappingTable.isEmpty,
    List.sum_eq_zero_iff_forall_eq_nat]

/-! ## The parts -/

/-- The tables answer as those of the kinds and of the owners would that stand alone. -/
structure IsPartitioned (tables : MappingTables) (ofKind : MappingKind → MappingTable)
    (ofOwner : String → MappingTable) : Prop where
  table : ∀ kind, tables.table kind = ofKind kind
  lookup : ∀ registry kind key,
    tables.lookup registry kind key = (ofKind kind).lookup registry key
  /-- An owner without entries has no table. -/
  ofTargets : ∀ owner, tables.ofTargets.get? owner =
    if (ofOwner owner).isEmpty then none else some (ofOwner owner)
  lookupOfTarget : ∀ registry owner key,
    tables.ofTargets.lookup registry owner key = (ofOwner owner).lookup registry key
  owners : ∀ owner, owner ∈ tables.ofTargets.owners ↔
    ∃ key, ((ofOwner owner).get? key).isSome = true
  nodup_owners : tables.ofTargets.owners.Nodup
  countOfTargets : tables.ofTargets.entryCount =
    (tables.ofTargets.owners.map fun owner => (ofOwner owner).size).sum
  noneOfTargets : tables.ofTargets.hasNoEntry = true ↔ tables.ofTargets.entryCount = 0
  entryCount : tables.entryCount =
    (MappingKind.all.map fun kind => (ofKind kind).size).sum + tables.ofTargets.entryCount
  hasNoEntry : tables.hasNoEntry = true ↔ tables.entryCount = 0
  /-- No entry at all means no entry anywhere. -/
  isEmpty : tables.hasNoEntry = true ↔
    (∀ kind, (ofKind kind).isEmpty = true) ∧ ∀ owner, (ofOwner owner).isEmpty = true

/-- After every history each table is the one that the operations addressed to it lead to. -/
theorem after_isPartitioned (ops : List Operation) :
    (after ops).IsPartitioned (fun kind => MappingTable.after (onKind ops kind))
      fun owner => MappingTable.after (onOwner ops owner) := by
  have hget := get?_ofTargets_after ops
  have howners (owner : String) : owner ∈ (after ops).ofTargets.owners ↔
      (MappingTable.after (onOwner ops owner)).isEmpty = false := by
    rw [OwnedTables.owners, ← Dict.contains_iff, Dict.contains, hget]
    cases (MappingTable.after (onOwner ops owner)).isEmpty <;> simp
  have hcount : (after ops).entryCount =
      (MappingKind.all.map fun kind => (MappingTable.after (onKind ops kind)).size).sum +
        (after ops).ofTargets.entryCount := by
    simp only [entryCount, foldr_add_eq_sum, toList_shared, List.map_map, Function.comp_def,
      table_after]
  have hcountOf := entryCount_ofTargets (after ops).ofTargets
  simp only [tableOf_after] at hcountOf
  refine {
    table := table_after ops
    lookup := fun registry kind key => by rw [lookup, table_after]
    ofTargets := hget
    lookupOfTarget := fun registry owner key => ?_
    owners := fun owner => ?_
    nodup_owners := (after ops).ofTargets.distinct
    countOfTargets := hcountOf
    noneOfTargets := hasNoEntry_ofTargets_iff _
    entryCount := hcount
    hasNoEntry := beq_iff_eq
    isEmpty := ?_ }
  · rw [OwnedTables.lookup, ← tableOf_after, OwnedTables.tableOf]
    cases (after ops).ofTargets.get? owner <;> rfl
  · have hflat := MappingTable.after_isFlat (onOwner ops owner)
    rw [howners, Bool.eq_false_iff, ne_eq, hflat.isEmpty]
    simp [hflat.get?, Option.isSome_iff_ne_none]
  · rw [hasNoEntry, beq_iff_eq, hcount, Nat.add_eq_zero_iff, hcountOf]
    refine and_congr ?_ ?_
    · simp only [List.sum_eq_zero_iff_forall_eq_nat, List.forall_mem_map, MappingTable.isEmpty,
        beq_iff_eq]
      exact ⟨fun h kind => h kind (by cases kind <;> decide), fun h kind _ => h kind⟩
    · simp only [List.sum_eq_zero_iff_forall_eq_nat, List.forall_mem_map, MappingTable.isEmpty,
        beq_iff_eq]
      refine ⟨fun h owner => ?_, fun h owner _ => h owner⟩
      by_cases hmem : owner ∈ (after ops).ofTargets.owners
      · exact h owner hmem
      · rw [howners, Bool.not_eq_false] at hmem
        exact beq_iff_eq.mp hmem

end EncodingPlan.MappingTables
