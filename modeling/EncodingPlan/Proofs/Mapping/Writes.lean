import EncodingPlan.Mapping.Tables
import Mathlib.Data.List.Induction

/-! What mapping tables hold after records were written to them one after another: at every place
the last record that was written there, and what they held before at the others. -/

namespace EncodingPlan

/-- Where a record can be: in a shared table, or in the table of a target. -/
inductive MappingPlace where
  | shared (kind : MappingKind) (key : MappingKey)
  | ofTarget (owner : String) (key : MappingKey)
deriving DecidableEq

namespace MappingTables

variable {tables : MappingTables} {place : MappingPlace}

def held? (tables : MappingTables) : MappingPlace → Option MappingRecord
  | .shared kind key => (tables.table kind).get? key
  | .ofTarget owner key => (tables.ofTargets.tableOf owner).get? key

def write (tables : MappingTables) (record : MappingRecord) : MappingPlace → MappingTables
  | .shared kind key => (tables.put kind key record).1
  | .ofTarget owner key => (tables.putFor owner key record).1

/-- Writes the records one after another. -/
def writeAll (tables : MappingTables) (writes : List (MappingPlace × MappingRecord)) :
    MappingTables :=
  writes.foldl (fun tables (place, record) => tables.write record place) tables

/-- The records that are written to the place, in the order of writing. -/
def recordsFor (place : MappingPlace) (writes : List (MappingPlace × MappingRecord)) :
    List MappingRecord :=
  writes.filterMap fun (written, record) => if written = place then some record else none

/-! ## Single writes -/

@[simp] theorem held?_empty : held? ∅ place = none := by
  cases place with
  | shared kind key => cases kind <;> rfl
  | ofTarget owner key => rfl

theorem index_injective : MappingKind.index.Injective := by
  intro kind k h
  cases kind <;> cases k <;> first | rfl | cases h

theorem table_setTable (kind k : MappingKind) (table : MappingTable) :
    (tables.setTable kind table).table k = if k = kind then table else tables.table k := by
  rw [MappingTables.table, setTable, Fin.getElem_fin, Vector.getElem_set]
  simp only [← Fin.ext_iff, index_injective.eq_iff, eq_comm (a := kind)]
  rfl

theorem ofTargets_setTable (kind : MappingKind) (table : MappingTable) :
    (tables.setTable kind table).ofTargets = tables.ofTargets :=
  rfl

theorem tableOf_put (owned : OwnedTables) (owner o : String) (key : MappingKey)
    (record : MappingRecord) : (owned.put owner key record).1.tableOf o =
      if o = owner then ((owned.tableOf owner).put key record).1 else owned.tableOf o := by
  rw [OwnedTables.put, OwnedTables.tableOf, Dict.get?_insert]
  split <;> rfl

theorem held?_write (written : MappingPlace) (record : MappingRecord) :
    (tables.write record written).held? place =
      if place = written then some record else tables.held? place := by
  cases written with
  | shared kind key =>
    cases place with
    | shared k key' =>
      simp only [write, held?, put, table_setTable]
      by_cases hk : k = kind
      · simp [hk, MappingTable.get?_put]
      · simp [hk]
    | ofTarget owner key' => simp [write, held?, put, ofTargets_setTable]
  | ofTarget owner key =>
    cases place with
    | shared kind key' =>
      simp only [write, held?, putFor, reduceCtorEq, if_false]
      rfl
    | ofTarget o key' =>
      simp only [write, held?, putFor, tableOf_put]
      by_cases ho : o = owner
      · simp [ho, MappingTable.get?_put]
      · simp [ho]

/-! ## Runs of writes -/

theorem recordsFor_append (writes more : List (MappingPlace × MappingRecord)) :
    recordsFor place (writes ++ more) = recordsFor place writes ++ recordsFor place more :=
  List.filterMap_append

theorem recordsFor_flatMap {ι : Type} (sources : List ι)
    (f : ι → List (MappingPlace × MappingRecord)) :
    recordsFor place (sources.flatMap f) =
      sources.flatMap fun source => recordsFor place (f source) :=
  List.filterMap_flatMap

theorem mem_recordsFor {writes : List (MappingPlace × MappingRecord)} {record : MappingRecord} :
    record ∈ recordsFor place writes ↔ (place, record) ∈ writes := by
  simp [recordsFor]

theorem recordsFor_eq_nil_iff {writes : List (MappingPlace × MappingRecord)} :
    recordsFor place writes = [] ↔ ∀ record, (place, record) ∉ writes := by
  simp only [List.eq_nil_iff_forall_not_mem, mem_recordsFor]

/-- If everything that is written to a place is one record, the last one is any of them. -/
theorem getLast?_recordsFor_iff {writes : List (MappingPlace × MappingRecord)}
    {record : MappingRecord} (hone : ∀ written, (place, written) ∈ writes →
      (place, record) ∈ writes → written = record) :
    (recordsFor place writes).getLast? = some record ↔ (place, record) ∈ writes := by
  rw [← mem_recordsFor]
  refine ⟨List.mem_of_getLast?, fun hmem => ?_⟩
  have hne := List.ne_nil_of_mem hmem
  have hlast := List.getLast_mem hne
  rw [mem_recordsFor] at hmem hlast
  rw [List.getLast?_eq_some_getLast hne, hone _ hlast hmem]

theorem writeAll_append (writes more : List (MappingPlace × MappingRecord)) :
    tables.writeAll (writes ++ more) = (tables.writeAll writes).writeAll more :=
  List.foldl_append

theorem held?_writeAll (writes : List (MappingPlace × MappingRecord)) :
    (tables.writeAll writes).held? place =
      (recordsFor place writes).getLast?.or (tables.held? place) := by
  induction writes using List.reverseRecOn with
  | nil => rfl
  | append_singleton writes last ih =>
    obtain ⟨written, record⟩ := last
    have hwrite : tables.writeAll (writes ++ [(written, record)]) =
        (tables.writeAll writes).write record written := by
      rw [writeAll_append]
      rfl
    rw [hwrite, held?_write, ih, recordsFor_append]
    by_cases hplace : place = written
    · simp [hplace, recordsFor]
    · simp [hplace, Ne.symm hplace, recordsFor]

/-- A loop whose turns write records writes all of them. -/
theorem foldlM_writeAll {ι : Type} {f : MappingTables → ι → Except Problem MappingTables}
    {writes : ι → List (MappingPlace × MappingRecord)} {turns : List ι}
    (h : ∀ i ∈ turns, ∀ tables, f tables i = .ok (writeAll tables (writes i)))
    (tables : MappingTables) :
    turns.foldlM f tables = .ok (tables.writeAll (turns.flatMap writes)) := by
  induction turns generalizing tables with
  | nil => rfl
  | cons i turns ih =>
    obtain ⟨hi, hturns⟩ := List.forall_mem_cons.mp h
    rw [List.foldlM_cons, hi, List.flatMap_cons, writeAll_append]
    exact ih hturns _

end MappingTables

end EncodingPlan
