import EncodingPlan.Mapping.Record
import EncodingPlan.RuleSet.Registry

/-! Mapping tables hold a record for a subject under a rule set. Looking a subject up under a rule
set finds the record of the nearest ancestor that has one.

A table keeps the records of a subject together and drops the subject with its last record. It
counts its records. -/

namespace EncodingPlan

/-- A subject, usually the name of a model type, under the rule set an entry is declared for. -/
@[ext] structure MappingKey where
  subject : String
  ruleSet : RuleSetName
deriving DecidableEq

instance : ToString MappingKey := ⟨fun key => s!"{key.subject} under {key.ruleSet}"⟩

/-- Records by their rule sets, for every subject that has one. -/
structure MappingTable where
  subjects : Dict String (Dict RuleSetName MappingRecord) := ∅
  /-- The number of records. -/
  size : Nat := 0
deriving DecidableEq

namespace MappingTable

instance : EmptyCollection MappingTable := ⟨{}⟩

variable (table : MappingTable) (registry : Registry) (key : MappingKey)

/-- The record that is held under this very rule set. -/
def get? : Option MappingRecord := (table.subjects.get? key.subject).bind (·.get? key.ruleSet)

/-- Writes a record and answers the one it replaces. -/
def put (record : MappingRecord) : MappingTable × Option MappingRecord :=
  let held := (table.subjects.get? key.subject).getD ∅
  let previous := held.get? key.ruleSet
  ({ subjects := table.subjects.insert key.subject (held.insert key.ruleSet record)
     size := if previous.isNone then table.size + 1 else table.size }, previous)

/-- Removes a record and answers it. -/
def take : MappingTable × Option MappingRecord :=
  match table.subjects.get? key.subject with
  | none => (table, none)
  | some held =>
    match held.get? key.ruleSet with
    | none => (table, none)
    | some record =>
      let left := held.erase key.ruleSet
      ({ subjects :=
          if left.isEmpty then table.subjects.erase key.subject
          else table.subjects.insert key.subject left
         size := table.size - 1 }, some record)

/-- The record of the nearest ancestor that has one. -/
def lookup : Option MappingRecord :=
  (table.subjects.get? key.subject).bind fun held =>
    (registry.ancestors key.ruleSet).findSome? held.get?

/-- The record of the nearest ancestor that has one, with that ancestor. -/
def lookupWithOrigin : Option (RuleSetName × MappingRecord) :=
  (table.subjects.get? key.subject).bind fun held =>
    (registry.ancestors key.ruleSet).findSome? fun ancestor =>
      (held.get? ancestor).map fun record => (ancestor, record)

def containsSubject (subject : String) : Bool := table.subjects.contains subject

/-- The records with their keys. -/
def toList : List (MappingKey × MappingRecord) :=
  table.subjects.entries.flatMap fun (subject, held) =>
    held.entries.map fun (ruleSet, record) => (⟨subject, ruleSet⟩, record)

def isEmpty : Bool := table.size == 0

/-! ## Records after writes -/

@[simp] theorem get?_empty : (∅ : MappingTable).get? key = none := rfl

theorem get?_put (record : MappingRecord) (k : MappingKey) :
    (table.put key record).1.get? k = if k = key then some record else table.get? k := by
  simp only [get?, put, Dict.get?_insert, MappingKey.ext_iff]
  by_cases hs : k.subject = key.subject
  · cases hheld : table.subjects.get? key.subject <;>
      by_cases hr : k.ruleSet = key.ruleSet <;> simp [hs, hr, hheld, Dict.get?_insert]
  · simp [hs]

/-- A subject that has no record left is dropped, which no one who asks for records can tell. -/
private theorem get?_dropping (subjects : Dict String (Dict RuleSetName MappingRecord))
    (left : Dict RuleSetName MappingRecord) (subject s : String) (r : RuleSetName) :
    ((if left.isEmpty then subjects.erase subject else subjects.insert subject left).get? s).bind
        (·.get? r) =
      if s = subject then left.get? r else (subjects.get? s).bind (·.get? r) := by
  by_cases hleft : left.isEmpty = true
  · rw [if_pos hleft, Dict.get?_erase]
    by_cases hs : s = subject
    · rw [if_pos hs, if_pos hs, Dict.get?_of_isEmpty hleft]
      rfl
    · rw [if_neg hs, if_neg hs]
  · rw [if_neg hleft, Dict.get?_insert]
    by_cases hs : s = subject
    · rw [if_pos hs, if_pos hs, Option.bind_some]
    · rw [if_neg hs, if_neg hs]

theorem get?_take (k : MappingKey) :
    (table.take key).1.get? k = if k = key then none else table.get? k := by
  have habsent (hnone : table.get? key = none) :
      table.get? k = if k = key then none else table.get? k := by
    by_cases hk : k = key
    · rw [if_pos hk, hk, hnone]
    · rw [if_neg hk]
  rw [take]
  cases hheld : table.subjects.get? key.subject with
  | none => exact habsent (by rw [get?, hheld, Option.bind_none])
  | some held =>
    dsimp only
    cases hrecord : held.get? key.ruleSet with
    | none => exact habsent (by rw [get?, hheld, Option.bind_some, hrecord])
    | some record =>
      simp only [get?, get?_dropping, Dict.get?_erase, MappingKey.ext_iff]
      by_cases hs : k.subject = key.subject
      · by_cases hr : k.ruleSet = key.ruleSet <;> simp [hs, hr, hheld]
      · simp [hs]

end MappingTable

/-- Tables by their owners, which do not see each other's entries. -/
abbrev OwnedTables := Dict String MappingTable

namespace OwnedTables

def tableOf (tables : OwnedTables) (owner : String) : MappingTable := (tables.get? owner).getD ∅

def put (tables : OwnedTables) (owner : String) (key : MappingKey) (record : MappingRecord) :
    OwnedTables × Option MappingRecord :=
  let (table, previous) := (tables.tableOf owner).put key record
  (tables.insert owner table, previous)

def lookup (tables : OwnedTables) (registry : Registry) (owner : String) (key : MappingKey) :
    Option MappingRecord :=
  (tables.get? owner).bind (·.lookup registry key)

def owners (tables : OwnedTables) : List String := tables.keys

def entryCount (tables : OwnedTables) : Nat :=
  tables.values.foldr (fun table count => table.size + count) 0

def hasNoEntry (tables : OwnedTables) : Bool := tables.values.all MappingTable.isEmpty

end OwnedTables

end EncodingPlan
