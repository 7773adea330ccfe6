import EncodingPlan.Configuration.Basic
import EncodingPlan.Mapping.Tables

/-! What map entries write into mapping tables. Entries for XML schemas go to the shared tables, one
for each kind of mapping; plain entries go to a table of the target that they belong to. -/

namespace EncodingPlan

namespace XsdMapEntry

/-- The kind of the type and of its content; either may be missing. -/
def typeShape (entry : XsdMapEntry) : String :=
  entry.typeType.getD "" ++ "/" ++ entry.typeContent.getD ""

def direct : String := "direct"

/-- A property type is made from the element if it is a mark and there is an element. -/
def propertyTypeFields (entry : XsdMapEntry) (propertyType : String) : List String :=
  match propertyType, entry.element with
  | "_P_", some element => ["propertyType", element]
  | "_MP_", some element => ["metadataPropertyType", element]
  | _, _ => [direct, propertyType, entry.typeShape] ++ entry.nilReason.toList

/-- The records that the entry gives, each with the kind of its table. A part of the entry that is
left out gives none. -/
def records (entry : XsdMapEntry) : List (MappingKind × Except Problem MappingRecord) :=
  (entry.propertyType.map fun type =>
      (.propertyType, MappingRecord.ofFields (entry.propertyTypeFields type))).toList
    ++ (entry.element.map fun element =>
        (.element, MappingRecord.ofFields [direct, element])).toList
    ++ (entry.xmlType.map fun type =>
        (.baseType, MappingRecord.ofFields [direct, type, entry.typeShape])).toList
    ++ (entry.xmlAttribute.map fun name => (.xmlAttribute, .ok (.single name))).toList
    ++ (entry.xmlAttributeGroup.map fun name => (.xmlAttributeGroup, .ok (.single name))).toList

end XsdMapEntry

def MapEntry.record (entry : MapEntry) : Except Problem MappingRecord :=
  MappingRecord.ofFields ([entry.rule, entry.targetType] ++ entry.param.toList)

namespace MappingTables

/-- Writes the records of the entry under one encoding rule. -/
def addRecords (tables : MappingTables) (entry : XsdMapEntry) (rule : RuleSetName) :
    Except Problem MappingTables :=
  entry.records.foldlM (fun tables (kind, record) => do
    pure (tables.put kind ⟨entry.typeName, rule⟩ (← record)).1) tables

/-- Writes the records of the entry under each of its encoding rules. -/
def addXsdMapEntry (tables : MappingTables) (entry : XsdMapEntry) : Except Problem MappingTables :=
  entry.encodingRules.foldlM (fun tables rule => tables.addRecords entry (.ofText rule)) tables

def addMapEntry (owner : String) (tables : MappingTables) (entry : MapEntry) :
    Except Problem MappingTables := do
  pure (tables.putFor owner ⟨entry.typeName, .ofText entry.rule⟩ (← entry.record)).1

end MappingTables

end EncodingPlan
