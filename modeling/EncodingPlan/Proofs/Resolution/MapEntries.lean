import EncodingPlan.Proofs.LastEntry
import EncodingPlan.Proofs.Mapping.Entries
import EncodingPlan.Proofs.Mapping.Nearest
import EncodingPlan.Proofs.Resolution.UnreadParts

/-! The map entries of a configuration and the records of its resolution. All targets for XML
schemas, also those that do not run, fill the shared tables from their entries, and the other
targets of one kind fill the table of this kind. Where several entries give a record for one key,
the last one counts. -/

namespace EncodingPlan

/-- An owner without a table has one without records. -/
theorem OwnedTables.lookup_eq (tables : OwnedTables) (registry : Registry) (owner : String)
    (key : MappingKey) :
    tables.lookup registry owner key = (tables.tableOf owner).lookup registry key := by
  rw [lookup, tableOf]
  cases tables.get? owner <;> rfl

/-! ## Entries that are used -/

namespace TargetSection

variable (known : Implementations) (kind : TargetKind) (declaration : TargetSection)

/-- The entries of a target for XML schemas, whether it runs or not. -/
def activeXsdMapEntries : List XsdMapEntry :=
  if known.target? declaration.implementation = some .xmlSchema then declaration.xsdMapEntries
  else []

/-- The plain map entries of a target of the kind, whether it runs or not. -/
def activeMapEntries : List MapEntry :=
  if known.target? declaration.implementation = some kind ∧ kind ≠ .xmlSchema then
    declaration.mapEntries
  else []

/-- All that the entries of the target write to the tables. -/
def mappingWrites : List (MappingPlace × MappingRecord) :=
  match known.target? declaration.implementation with
  | some kind =>
    if kind.usesXsdMapEntries then declaration.xsdMapEntries.flatMap XsdMapEntry.writes
    else declaration.mapEntries.flatMap (MapEntry.writes kind.implementationName)
  | none => []

variable {known declaration} {key : MappingKey}

theorem usesXsdMapEntries_iff {kind : TargetKind} :
    kind.usesXsdMapEntries = true ↔ kind = .xmlSchema := by
  cases kind <;> simp [TargetKind.usesXsdMapEntries]

theorem recordsFor_shared (kind : MappingKind) :
    MappingTables.recordsFor (.shared kind key) (declaration.mappingWrites known) =
      (declaration.activeXsdMapEntries known).flatMap fun entry =>
        MappingTables.recordsFor (.shared kind key) entry.writes := by
  rw [mappingWrites, activeXsdMapEntries]
  cases known.target? declaration.implementation with
  | none => rfl
  | some target =>
    by_cases hxsd : target = .xmlSchema
    · simp [hxsd, TargetKind.usesXsdMapEntries, MappingTables.recordsFor_flatMap]
    · simp [usesXsdMapEntries_iff, hxsd, MappingTables.recordsFor_flatMap]

theorem recordsFor_ofTarget (kind : TargetKind) :
    MappingTables.recordsFor (.ofTarget kind.implementationName key)
        (declaration.mappingWrites known) =
      (declaration.activeMapEntries known kind).flatMap fun entry =>
        MappingTables.recordsFor (.ofTarget kind.implementationName key)
          (entry.writes kind.implementationName) := by
  rw [mappingWrites, activeMapEntries]
  cases known.target? declaration.implementation with
  | none => rfl
  | some target =>
    by_cases hxsd : target = .xmlSchema
    · have hunused : ¬ (some target = some kind ∧ kind ≠ .xmlSchema) :=
        fun ⟨hkind, hother⟩ => hother (hxsd ▸ (Option.some.inj hkind).symm)
      rw [if_neg hunused]
      simp [usesXsdMapEntries_iff, hxsd, MappingTables.recordsFor_flatMap]
    by_cases hkind : target = kind
    · simp [usesXsdMapEntries_iff, ← hkind, hxsd, MappingTables.recordsFor_flatMap]
    · have howner : kind.implementationName ≠ target.implementationName :=
        fun heq => hkind (TargetKind.implementationName_injective heq.symm)
      simp [usesXsdMapEntries_iff, hkind, hxsd, MappingTables.recordsFor_flatMap,
        MapEntry.recordsFor_ofTarget_of_ne howner]

end TargetSection

namespace Configuration

variable (configuration : Configuration) (known : Implementations)

def xsdMapEntries : List XsdMapEntry :=
  configuration.targets.flatMap (TargetSection.activeXsdMapEntries known)

/-- The map entries of all targets of one kind that write no XML schemas. -/
def mapEntries (kind : TargetKind) : List MapEntry :=
  configuration.targets.flatMap (TargetSection.activeMapEntries known kind)

def mappingWrites : List (MappingPlace × MappingRecord) :=
  configuration.targets.flatMap (TargetSection.mappingWrites known)

variable {configuration known} {key : MappingKey}

theorem recordsFor_shared (kind : MappingKind) :
    MappingTables.recordsFor (.shared kind key) (configuration.mappingWrites known) =
      (configuration.xsdMapEntries known).flatMap fun entry =>
        MappingTables.recordsFor (.shared kind key) entry.writes := by
  simp only [mappingWrites, xsdMapEntries, MappingTables.recordsFor_flatMap, List.flatMap_assoc,
    TargetSection.recordsFor_shared]

theorem recordsFor_ofTarget (kind : TargetKind) :
    MappingTables.recordsFor (.ofTarget kind.implementationName key)
        (configuration.mappingWrites known) =
      (configuration.mapEntries known kind).flatMap fun entry =>
        MappingTables.recordsFor (.ofTarget kind.implementationName key)
          (entry.writes kind.implementationName) := by
  simp only [mappingWrites, mapEntries, MappingTables.recordsFor_flatMap, List.flatMap_assoc,
    TargetSection.recordsFor_ofTarget]

end Configuration

/-! ## What loading writes -/

namespace Draft

variable {known : Implementations} {draft draft' : Draft}

@[simp] theorem mappings_addMode (draft : Draft) (kind : TargetKind) (mode : Mode) :
    (draft.addMode kind mode).mappings = draft.mappings := by
  rw [addMode]
  split <;> rfl

theorem mappings_addTarget {declaration : TargetSection}
    (h : draft.addTarget known declaration = .ok draft') :
    draft'.mappings = draft.mappings.writeAll (declaration.mappingWrites known) := by
  obtain ⟨kind, hkind, h⟩ := bind_eq_ok.mp h
  obtain ⟨mode, _, h⟩ := bind_eq_ok.mp h
  obtain ⟨_, _, h⟩ := bind_eq_ok.mp h
  obtain ⟨added, hadded, h⟩ := bind_eq_ok.mp h
  obtain rfl := Except.ok.inj h
  rw [Implementations.target_eq_ok_iff] at hkind
  have hbefore : Draft.mappings (if mode.isDisabled then draft.addMode kind mode
      else (draft.addMode kind mode).addRuleSets declaration.ruleSets.entries) =
        draft.mappings := by
    split
    · exact draft.mappings_addMode kind mode
    · exact draft.mappings_addMode kind mode
  rw [TargetSection.mappingWrites, hkind]
  dsimp only
  rw [addEntries] at hadded
  split at hadded
  · rename_i huses
    rw [if_pos huses, ← hbefore]
    obtain ⟨mappings, hmappings, hadded⟩ := bind_eq_ok.mp hadded
    obtain rfl := Except.ok.inj hadded
    rw [MappingTables.foldlM_writeAll fun entry _ tables =>
      entry.addXsdMapEntry_eq tables] at hmappings
    exact (Except.ok.inj hmappings).symm
  · rename_i huses
    rw [if_neg huses, ← hbefore]
    obtain ⟨mappings, hmappings, hadded⟩ := bind_eq_ok.mp hadded
    obtain rfl := Except.ok.inj hadded
    rw [MappingTables.foldlM_writeAll fun entry _ tables =>
      entry.addMapEntry_eq kind.implementationName tables] at hmappings
    exact (Except.ok.inj hmappings).symm

theorem mappings_foldlM_addTarget {declarations : List TargetSection}
    (h : declarations.foldlM (addTarget known) draft = .ok draft') :
    draft'.mappings =
      draft.mappings.writeAll (declarations.flatMap (TargetSection.mappingWrites known)) := by
  induction declarations generalizing draft with
  | nil =>
    obtain rfl := Except.ok.inj h
    rfl
  | cons declaration declarations ih =>
    rw [List.foldlM_cons] at h
    obtain ⟨between, hfirst, hrest⟩ := bind_eq_ok.mp h
    rw [ih hrest, mappings_addTarget hfirst, List.flatMap_cons, MappingTables.writeAll_append]

end Draft

namespace Resolution

variable {configuration : Configuration} {replacements : Replacements} {known : Implementations}
  {resolution : Resolution} {findings : Findings}

theorem mappings_eq_writeAll
    (h : load configuration replacements known = .ok (resolution, findings)) :
    resolution.mappings = MappingTables.writeAll ∅ (configuration.mappingWrites known) := by
  obtain ⟨draft, hdrafted⟩ := exists_draft_of_load h
  rw [hdrafted.mappings, Draft.mappings_foldlM_addTarget hdrafted.added]
  rfl

section
variable (h : load configuration replacements known = .ok (resolution, findings))
include h

theorem held?_eq (place : MappingPlace) : resolution.mappings.held? place =
    (MappingTables.recordsFor place (configuration.mappingWrites known)).getLast? := by
  rw [mappings_eq_writeAll h, MappingTables.held?_writeAll, MappingTables.held?_empty,
    Option.or_none]

theorem get?_table_eq (kind : MappingKind) (key : MappingKey) :
    (resolution.mappings.table kind).get? key =
      ((configuration.xsdMapEntries known).flatMap fun entry =>
        MappingTables.recordsFor (.shared kind key) entry.writes).getLast? := by
  rw [← Configuration.recordsFor_shared]
  exact held?_eq h (.shared kind key)

theorem get?_tableOf_eq (kind : TargetKind) (key : MappingKey) :
    (resolution.mappings.ofTargets.tableOf kind.implementationName).get? key =
      ((configuration.mapEntries known kind).flatMap fun entry =>
        MappingTables.recordsFor (.ofTarget kind.implementationName key)
          (entry.writes kind.implementationName)).getLast? := by
  rw [← Configuration.recordsFor_ofTarget]
  exact held?_eq h (.ofTarget kind.implementationName key)

theorem get?_tableOf_eq_some_iff {kind : TargetKind} {key : MappingKey} {record : MappingRecord} :
    (resolution.mappings.ofTargets.tableOf kind.implementationName).get? key = some record ↔
      ∃ entry, LastWith (·.IsFor key) (configuration.mapEntries known kind) entry ∧
        record.fields = entry.fields := by
  rw [get?_tableOf_eq h,
    getLast?_flatMap_eq_some_iff fun _ => MapEntry.recordsFor_writes_eq_nil_iff]
  refine exists_congr fun entry => and_congr_right fun hlast => ?_
  rw [MapEntry.getLast?_recordsFor_writes, and_iff_right hlast.holds]

theorem get?_tableOf_eq_none_iff {kind : TargetKind} {key : MappingKey} :
    (resolution.mappings.ofTargets.tableOf kind.implementationName).get? key = none ↔
      ∀ entry ∈ configuration.mapEntries known kind, ¬ entry.IsFor key := by
  rw [get?_tableOf_eq h,
    getLast?_flatMap_eq_none_iff fun _ => MapEntry.recordsFor_writes_eq_nil_iff]

end

/-- The records are those that the map entries give, and the last of several entries counts. -/
structure MappingsFrom (configuration : Configuration) (known : Implementations)
    (resolution : Resolution) : Prop where
  shared : ∀ kind key record, (resolution.mappings.table kind).get? key = some record ↔
    ∃ entry, LastWith (·.Contributes kind key) (configuration.xsdMapEntries known) entry ∧
      entry.Translates kind record.fields
  noShared : ∀ kind key, (resolution.mappings.table kind).get? key = none ↔
    ∀ entry ∈ configuration.xsdMapEntries known, ¬ entry.Contributes kind key
  /-- The record of a kind of target is the one for the nearest ancestor that has any. -/
  target : ∀ kind key record, resolution.targetMapping? kind key = some record ↔
    ∃ origin nearer farther,
      resolution.registry.ancestors key.ruleSet = nearer ++ origin :: farther ∧
      (∃ entry, LastWith (·.IsFor ⟨key.subject, origin⟩) (configuration.mapEntries known kind)
          entry ∧
        record.fields = [entry.rule, entry.targetType] ++ entry.param.toList) ∧
      ∀ ancestor ∈ nearer, ∀ entry ∈ configuration.mapEntries known kind,
        ¬ entry.IsFor ⟨key.subject, ancestor⟩
  noTarget : ∀ kind key, resolution.targetMapping? kind key = none ↔
    ∀ ancestor ∈ resolution.registry.ancestors key.ruleSet,
      ∀ entry ∈ configuration.mapEntries known kind, ¬ entry.IsFor ⟨key.subject, ancestor⟩

/-- Every table holds, and every lookup for a kind of target finds, what the last entry for the key
gives. Entries of the sort that a target does not use can be exchanged without a difference to the
resolution. -/
theorem mappings_of_load (h : load configuration replacements known = .ok (resolution, findings)) :
    MappingsFrom configuration known resolution ∧
      ∀ other : Configuration,
        other.withoutUnusedEntries known = configuration.withoutUnusedEntries known →
          load other replacements known = .ok (resolution, findings) := by
  refine ⟨⟨fun kind key record => ?_, fun kind key => ?_, fun kind key record => ?_,
    fun kind key => ?_⟩, fun other hsame => ?_⟩
  · rw [get?_table_eq h,
      getLast?_flatMap_eq_some_iff fun _ => XsdMapEntry.recordsFor_writes_eq_nil_iff]
    refine exists_congr fun entry => and_congr_right fun hlast => ?_
    rw [XsdMapEntry.getLast?_recordsFor_writes, and_iff_right hlast.holds]
  · rw [get?_table_eq h,
      getLast?_flatMap_eq_none_iff fun _ => XsdMapEntry.recordsFor_writes_eq_nil_iff]
  · rw [targetMapping?, OwnedTables.lookup_eq, (MappingTable.findsNearest _ _ _).record]
    simp only [MappingTable.Nearest, get?_tableOf_eq_some_iff h, get?_tableOf_eq_none_iff h]
    rfl
  · rw [targetMapping?, OwnedTables.lookup_eq, (MappingTable.findsNearest _ _ _).noRecord]
    simp only [get?_tableOf_eq_none_iff h]
  · rw [← load_withoutUnusedEntries, hsame, load_withoutUnusedEntries, h]

/-- A later entry of a target that does not run has an element only, and replaces no more than the
record for it. A plain entry of a target for XML schemas is not used. -/
theorem mappings_of_partial_entry :
    let known : Implementations := .ofList
      [("Schema", .target .xmlSchema), ("Table", .target .sqlDdl)]
    let first : XsdMapEntry :=
      { typeName := "T", encodingRules := ["sql", " GML33 "], propertyType := some "_P_",
        element := some "a" }
    let second : XsdMapEntry :=
      { typeName := "T", encodingRules := ["gml33"], element := some "b" }
    let plain : MapEntry := { typeName := "T", rule := "SQL", targetType := "integer" }
    let configuration : Configuration := {
      targets := [
        { implementation := "Schema", xsdMapEntries := [first], mapEntries := [plain] },
        { implementation := "Schema", mode := some "disabled", xsdMapEntries := [second] },
        { implementation := "Table", xsdMapEntries := [first], mapEntries := [plain] }] }
    ∃ resolution findings, load configuration ∅ known = .ok (resolution, findings) ∧
      (resolution.mappings.table .propertyType).get? ⟨"T", .ofText "gml33"⟩ =
        some ⟨["propertyType", "a"], by decide, by decide⟩ ∧
      (resolution.mappings.table .element).get? ⟨"T", .ofText "gml33"⟩ =
        some ⟨["direct", "b"], by decide, by decide⟩ ∧
      resolution.targetMapping? .sqlDdl ⟨"T", .ofText "sql"⟩ =
        some ⟨["SQL", "integer"], by decide, by decide⟩ ∧
      resolution.targetMapping? .xmlSchema ⟨"T", .ofText "sql"⟩ = none ∧
      load (configuration.withoutUnusedEntries known) ∅ known = .ok (resolution, findings) := by
  intro known first second plain configuration
  have hloads : configuration.StandardLoadable ∅ known := by decide +kernel
  obtain ⟨resolution, findings, hload⟩ := hloads.exists_load
  obtain ⟨⟨hshared, -, htarget, hnoTarget⟩, hunused⟩ := mappings_of_load hload
  obtain ⟨hentries, htable, hschema, hidem⟩ :
      configuration.xsdMapEntries known = [first, second] ∧
      configuration.mapEntries known .sqlDdl = [plain] ∧
      configuration.mapEntries known .xmlSchema = [] ∧
      (configuration.withoutUnusedEntries known).withoutUnusedEntries known =
        configuration.withoutUnusedEntries known := by
    decide +kernel
  obtain ⟨farther, hline⟩ : ∃ farther, resolution.registry.ancestors (.ofText "sql") =
      [] ++ .ofText "sql" :: farther := by
    rw [(load_eq_ok hload).registry]
    have hhead := (configuration.coherent_registry.resolved.isLine_ancestors (.ofText "sql")).head
    exact ⟨_, (List.cons_head?_tail hhead).symm⟩
  refine ⟨resolution, findings, hload, (hshared _ _ _).mpr ⟨first, ?_, .property rfl rfl⟩,
    (hshared _ _ _).mpr ⟨second, ?_, .element rfl⟩,
    (htarget _ _ _).mpr ⟨_, [], farther, hline, ⟨plain, ?_, rfl⟩, by simp⟩,
    (hnoTarget _ _).mpr (by simp [hschema]), hunused _ hidem⟩
  · refine ⟨[], [second], hentries, ⟨rfl, by decide, rfl⟩, fun later hlater hcontributes => ?_⟩
    obtain rfl := List.mem_singleton.mp hlater
    cases hcontributes.part
  · exact ⟨[first], [], hentries, ⟨rfl, by decide, rfl⟩, by simp⟩
  · exact ⟨[], [], htable, ⟨rfl, by decide⟩, by simp⟩

end Resolution

end EncodingPlan
