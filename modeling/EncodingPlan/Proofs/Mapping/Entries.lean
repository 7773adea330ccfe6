import EncodingPlan.Proofs.Mapping.Writes
import EncodingPlan.Proofs.Resolution.Population

/-! What single map entries write. An entry for XML schemas has a part for each kind of mapping and
writes one record for every part that is there, under each of its encoding rules. A plain map entry
writes one record to the table of its target. None of the records is refused. -/

namespace EncodingPlan

theorem toOption_eq_some_iff {α : Type} {x : Except Problem α} {a : α} :
    x.toOption = some a ↔ x = .ok a := by
  cases x <;> simp [Except.toOption]

theorem MappingRecord.ofFields_eq_ok_iff {fields : List String} {record : MappingRecord} :
    ofFields fields = .ok record ↔ record.fields = fields := by
  constructor
  · intro h
    rw [ofFields] at h
    split at h
    · rw [← Except.ok.inj h]
    · cases h
  · rintro rfl
    exact dif_pos ⟨record.nonempty, record.atMostFour⟩

theorem MappingRecord.eq_of_fields_eq {record other : MappingRecord}
    (h : record.fields = other.fields) : record = other := by
  cases record
  cases other
  cases h
  rfl

/-! ## Entries for XML schemas -/

namespace XsdMapEntry

variable {entry : XsdMapEntry} {kind : MappingKind} {key : MappingKey} {fields : List String}
  {record : MappingRecord}

/-- The part of the entry that the table of the kind is filled from. -/
def part? (entry : XsdMapEntry) : MappingKind → Option String
  | .propertyType => entry.propertyType
  | .baseType => entry.xmlType
  | .element => entry.element
  | .xmlAttribute => entry.xmlAttribute
  | .xmlAttributeGroup => entry.xmlAttributeGroup

/-- The entry gives a record to the table of the kind under the key. -/
structure Contributes (entry : XsdMapEntry) (kind : MappingKind) (key : MappingKey) : Prop where
  subject : entry.typeName = key.subject
  rule : key.ruleSet ∈ entry.encodingRules.map Name.ofText
  part : (entry.part? kind).isSome = true

/-- How the parts of an entry are written as fields. -/
inductive Translates (entry : XsdMapEntry) : MappingKind → List String → Prop where
  | property {element : String} (hmark : entry.propertyType = some "_P_")
      (helement : entry.element = some element) :
      Translates entry .propertyType ["propertyType", element]
  | metadataProperty {element : String} (hmark : entry.propertyType = some "_MP_")
      (helement : entry.element = some element) :
      Translates entry .propertyType ["metadataPropertyType", element]
  /-- A mark is written as it stands if there is no element. -/
  | directProperty {type : String} (htype : entry.propertyType = some type)
      (hdirect : entry.element = none ∨ type ≠ "_P_" ∧ type ≠ "_MP_") :
      Translates entry .propertyType
        (["direct", type, entry.typeType.getD "" ++ "/" ++ entry.typeContent.getD ""] ++
          entry.nilReason.toList)
  | element {element : String} (helement : entry.element = some element) :
      Translates entry .element ["direct", element]
  | baseType {type : String} (htype : entry.xmlType = some type) :
      Translates entry .baseType
        ["direct", type, entry.typeType.getD "" ++ "/" ++ entry.typeContent.getD ""]
  | xmlAttribute {name : String} (hname : entry.xmlAttribute = some name) :
      Translates entry .xmlAttribute [name]
  | xmlAttributeGroup {name : String} (hname : entry.xmlAttributeGroup = some name) :
      Translates entry .xmlAttributeGroup [name]

theorem Translates.unique {others : List String} (h : entry.Translates kind fields)
    (h' : entry.Translates kind others) : fields = others := by
  cases h <;> cases h' <;> simp_all

theorem Translates.isSome_part? (h : entry.Translates kind fields) :
    (entry.part? kind).isSome = true := by
  cases h <;> simp_all [part?]

theorem translates_propertyTypeFields {type : String} (htype : entry.propertyType = some type) :
    entry.Translates .propertyType (entry.propertyTypeFields type) := by
  unfold propertyTypeFields
  split
  · exact .property htype ‹_›
  · exact .metadataProperty htype ‹_›
  · rename_i hmark hmetadata
    refine .directProperty htype ?_
    cases helement : entry.element with
    | none => exact .inl rfl
    | some element => exact .inr ⟨(hmark element · helement), (hmetadata element · helement)⟩

theorem translates_of_mem_records (h : (kind, .ok record) ∈ entry.records) :
    entry.Translates kind record.fields := by
  simp only [records, List.mem_append, Option.mem_toList, Option.map_eq_some_iff, Prod.mk.injEq,
    MappingRecord.ofFields_eq_ok_iff, Except.ok.injEq, or_assoc] at h
  rcases h with ⟨type, htype, rfl, hfields⟩ | ⟨element, helement, rfl, hfields⟩ |
    ⟨type, htype, rfl, hfields⟩ | ⟨name, hname, rfl, rfl⟩ | ⟨name, hname, rfl, rfl⟩
  · exact hfields ▸ translates_propertyTypeFields htype
  · exact hfields ▸ .element helement
  · exact hfields ▸ .baseType htype
  · exact .xmlAttribute hname
  · exact .xmlAttributeGroup hname

theorem exists_mem_records (h : (entry.part? kind).isSome = true) :
    ∃ record, (kind, .ok record) ∈ entry.records := by
  obtain ⟨given, hgiven⟩ : ∃ given, (kind, given) ∈ entry.records := by
    obtain ⟨text, htext⟩ := Option.isSome_iff_exists.mp h
    cases kind <;> simp_all [part?, records]
  obtain ⟨record, rfl⟩ := Guards.nil_iff.mp (entry.records_guards _ hgiven)
  exact ⟨record, hgiven⟩

theorem mem_records_iff : (kind, .ok record) ∈ entry.records ↔
    entry.Translates kind record.fields := by
  refine ⟨translates_of_mem_records, fun h => ?_⟩
  obtain ⟨given, hgiven⟩ := exists_mem_records h.isSome_part?
  rwa [MappingRecord.eq_of_fields_eq (h.unique (translates_of_mem_records hgiven))]

/-- What the entry writes under one encoding rule. -/
def writesUnder (entry : XsdMapEntry) (rule : RuleSetName) :
    List (MappingPlace × MappingRecord) :=
  entry.records.flatMap fun (kind, record) =>
    (record.toOption.map fun record => (.shared kind ⟨entry.typeName, rule⟩, record)).toList

def writes (entry : XsdMapEntry) : List (MappingPlace × MappingRecord) :=
  entry.encodingRules.flatMap fun rule => entry.writesUnder (.ofText rule)

theorem mem_writes_iff : (.shared kind key, record) ∈ entry.writes ↔
    entry.Contributes kind key ∧ entry.Translates kind record.fields := by
  have hunder (rule : RuleSetName) : (.shared kind key, record) ∈ entry.writesUnder rule ↔
      ⟨entry.typeName, rule⟩ = key ∧ entry.Translates kind record.fields := by
    simp only [writesUnder, List.mem_flatMap, Option.mem_toList, Prod.exists,
      Option.map_eq_some_iff, toOption_eq_some_iff, Prod.mk.injEq, MappingPlace.shared.injEq,
      ← mem_records_iff]
    constructor
    · rintro ⟨_, _, hmem, _, rfl, ⟨rfl, hkey⟩, rfl⟩
      exact ⟨hkey, hmem⟩
    · rintro ⟨hkey, hmem⟩
      exact ⟨kind, .ok record, hmem, record, rfl, ⟨rfl, hkey⟩, rfl⟩
  simp only [writes, List.mem_flatMap, hunder]
  constructor
  · rintro ⟨rule, hrule, rfl, h⟩
    exact ⟨⟨rfl, List.mem_map_of_mem hrule, h.isSome_part?⟩, h⟩
  · rintro ⟨⟨hsubject, hrule, _⟩, h⟩
    obtain ⟨rule, hmem, hname⟩ := List.mem_map.mp hrule
    exact ⟨rule, hmem, MappingKey.ext hsubject hname, h⟩

theorem getLast?_recordsFor_writes :
    (MappingTables.recordsFor (.shared kind key) entry.writes).getLast? = some record ↔
      entry.Contributes kind key ∧ entry.Translates kind record.fields := by
  rw [← mem_writes_iff]
  refine MappingTables.getLast?_recordsFor_iff fun written hwritten hrecord => ?_
  rw [mem_writes_iff] at hwritten hrecord
  exact MappingRecord.eq_of_fields_eq (hwritten.2.unique hrecord.2)

theorem recordsFor_writes_eq_nil_iff :
    MappingTables.recordsFor (.shared kind key) entry.writes = [] ↔
      ¬ entry.Contributes kind key := by
  simp only [MappingTables.recordsFor_eq_nil_iff, mem_writes_iff, not_and]
  constructor
  · intro hnone hcontributes
    obtain ⟨record, hrecord⟩ := exists_mem_records hcontributes.part
    exact hnone record hcontributes (mem_records_iff.mp hrecord)
  · exact fun hnot _ hcontributes => absurd hcontributes hnot

@[simp] theorem recordsFor_ofTarget (owner : String) :
    MappingTables.recordsFor (.ofTarget owner key) entry.writes = [] := by
  refine MappingTables.recordsFor_eq_nil_iff.mpr fun record hmem => ?_
  simp only [writes, writesUnder, List.mem_flatMap, Option.mem_toList, Option.map_eq_some_iff,
    Prod.mk.injEq] at hmem
  obtain ⟨_, _, _, _, _, _, hplace, _⟩ := hmem
  cases hplace

theorem addXsdMapEntry_eq (tables : MappingTables) (entry : XsdMapEntry) :
    tables.addXsdMapEntry entry = .ok (tables.writeAll entry.writes) := by
  refine MappingTables.foldlM_writeAll (fun rule _ tables => ?_) tables
  refine MappingTables.foldlM_writeAll (fun (kind, given) hgiven tables => ?_) tables
  obtain ⟨record, rfl⟩ := Guards.nil_iff.mp (entry.records_guards (kind, given) hgiven)
  rfl

end XsdMapEntry

/-! ## Plain map entries -/

namespace MapEntry

variable {entry : MapEntry} {owner : String} {key : MappingKey} {record : MappingRecord}

/-- The entry gives a record to the table of its target under the key. -/
structure IsFor (entry : MapEntry) (key : MappingKey) : Prop where
  subject : entry.typeName = key.subject
  rule : Name.ofText entry.rule = key.ruleSet

/-- The rule and the type in the target, and a parameter if there is one. -/
def fields (entry : MapEntry) : List String := [entry.rule, entry.targetType] ++ entry.param.toList

def writes (owner : String) (entry : MapEntry) : List (MappingPlace × MappingRecord) :=
  (entry.record.toOption.map fun record =>
    (.ofTarget owner ⟨entry.typeName, .ofText entry.rule⟩, record)).toList

theorem mem_writes_iff : (.ofTarget owner key, record) ∈ entry.writes owner ↔
    entry.IsFor key ∧ record.fields = entry.fields := by
  simp only [writes, Option.mem_toList, Option.map_eq_some_iff, toOption_eq_some_iff,
    Prod.mk.injEq, MappingPlace.ofTarget.injEq, true_and]
  constructor
  · rintro ⟨_, hrecord, rfl, rfl⟩
    exact ⟨⟨rfl, rfl⟩, MappingRecord.ofFields_eq_ok_iff.mp hrecord⟩
  · rintro ⟨⟨hsubject, hrule⟩, hfields⟩
    exact ⟨record, MappingRecord.ofFields_eq_ok_iff.mpr hfields, MappingKey.ext hsubject hrule, rfl⟩

theorem getLast?_recordsFor_writes :
    (MappingTables.recordsFor (.ofTarget owner key) (entry.writes owner)).getLast? = some record ↔
      entry.IsFor key ∧ record.fields = entry.fields := by
  rw [← mem_writes_iff]
  refine MappingTables.getLast?_recordsFor_iff fun written hwritten hrecord => ?_
  rw [mem_writes_iff] at hwritten hrecord
  exact MappingRecord.eq_of_fields_eq (hwritten.2.trans hrecord.2.symm)

theorem recordsFor_writes_eq_nil_iff :
    MappingTables.recordsFor (.ofTarget owner key) (entry.writes owner) = [] ↔
      ¬ entry.IsFor key := by
  simp only [MappingTables.recordsFor_eq_nil_iff, mem_writes_iff, not_and]
  constructor
  · intro hnone hfor
    obtain ⟨record, hrecord⟩ := Guards.nil_iff.mp entry.record_guards
    exact hnone record hfor (MappingRecord.ofFields_eq_ok_iff.mp hrecord)
  · exact fun hnot _ hfor => absurd hfor hnot

theorem recordsFor_eq_nil_of_ne {place : MappingPlace}
    (hplace : ∀ key, place ≠ .ofTarget owner key) :
    MappingTables.recordsFor place (entry.writes owner) = [] := by
  refine MappingTables.recordsFor_eq_nil_iff.mpr fun record hmem => ?_
  simp only [writes, Option.mem_toList, Option.map_eq_some_iff, Prod.mk.injEq] at hmem
  obtain ⟨_, _, hown, _⟩ := hmem
  exact hplace _ hown.symm

@[simp] theorem recordsFor_shared (kind : MappingKind) :
    MappingTables.recordsFor (.shared kind key) (entry.writes owner) = [] :=
  recordsFor_eq_nil_of_ne fun _ h => by cases h

theorem recordsFor_ofTarget_of_ne {other : String} (h : other ≠ owner) :
    MappingTables.recordsFor (.ofTarget other key) (entry.writes owner) = [] :=
  recordsFor_eq_nil_of_ne fun _ hplace => h (MappingPlace.ofTarget.inj hplace).1

theorem addMapEntry_eq (owner : String) (tables : MappingTables) (entry : MapEntry) :
    MappingTables.addMapEntry owner tables entry = .ok (tables.writeAll (entry.writes owner)) := by
  obtain ⟨record, hrecord⟩ := Guards.nil_iff.mp entry.record_guards
  rw [MappingTables.addMapEntry, writes, hrecord]
  rfl

end MapEntry

end EncodingPlan
