import EncodingPlan.Mapping.Table

/-! The mapping tables of a configuration: a shared one for each kind of mapping, and those of
single targets, by their implementation names. -/

namespace EncodingPlan

/-- What a shared table maps model types to. -/
inductive MappingKind where
  | propertyType
  | baseType
  | element
  | xmlAttribute
  | xmlAttributeGroup
deriving DecidableEq, Repr

namespace MappingKind

def all : List MappingKind := [propertyType, baseType, element, xmlAttribute, xmlAttributeGroup]

def key : MappingKind → String
  | propertyType => "propertyType"
  | baseType => "baseType"
  | element => "element"
  | xmlAttribute => "attribute"
  | xmlAttributeGroup => "attributeGroup"

def ofKey? (text : String) : Option MappingKind := all.find? (·.key == text)

/-- The place of the kind's table among the shared ones. -/
def index : MappingKind → Fin 5
  | propertyType => 0
  | baseType => 1
  | element => 2
  | xmlAttribute => 3
  | xmlAttributeGroup => 4

def label : MappingKind → String
  | propertyType => "property type"
  | baseType => "base type"
  | element => "element"
  | xmlAttribute => "attribute"
  | xmlAttributeGroup => "attribute group"

end MappingKind

structure MappingTables where
  shared : Vector MappingTable 5 := .replicate 5 ∅
  ofTargets : OwnedTables := ∅

namespace MappingTables

instance : EmptyCollection MappingTables := ⟨{}⟩

def table (tables : MappingTables) (kind : MappingKind) : MappingTable := tables.shared[kind.index]

/-- Replaces the table of one kind. -/
def setTable (tables : MappingTables) (kind : MappingKind) (table : MappingTable) :
    MappingTables :=
  { tables with shared := tables.shared.set kind.index table }

def put (tables : MappingTables) (kind : MappingKind) (key : MappingKey) (record : MappingRecord) :
    MappingTables × Option MappingRecord :=
  let (table, previous) := (tables.table kind).put key record
  (tables.setTable kind table, previous)

def take (tables : MappingTables) (kind : MappingKind) (key : MappingKey) :
    MappingTables × Option MappingRecord :=
  let (table, previous) := (tables.table kind).take key
  (tables.setTable kind table, previous)

def putFor (tables : MappingTables) (owner : String) (key : MappingKey) (record : MappingRecord) :
    MappingTables × Option MappingRecord :=
  let (ofTargets, previous) := tables.ofTargets.put owner key record
  ({ tables with ofTargets }, previous)

def lookup (tables : MappingTables) (registry : Registry) (kind : MappingKind)
    (key : MappingKey) : Option MappingRecord :=
  (tables.table kind).lookup registry key

def entryCount (tables : MappingTables) : Nat :=
  tables.shared.toList.foldr (fun table count => table.size + count) 0 +
    tables.ofTargets.entryCount

def hasNoEntry (tables : MappingTables) : Bool := tables.entryCount == 0

end MappingTables

end EncodingPlan
