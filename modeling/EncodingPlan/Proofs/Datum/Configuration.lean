import EncodingPlan.Datum.Configuration
import EncodingPlan.Logging
import EncodingPlan.Parameter.Replacement
import EncodingPlan.Proofs.Datum.Stage

/-! Reading undoes writing for the set-up of the log and for configurations. A configuration writes
every field, those that a reader would fill in included, so nothing is filled in when it is read. In
the end, every type that is both written and read settles: what was read and written once stays. -/

namespace EncodingPlan

/-! ## The log -/

instance : ReadBack LogFormat where
  read_write format := by cases format <;> decide

instance : ReadBack LogConfig where
  read_write config := by
    unfold instWrittenLogConfig
    simp

/-! ## Configurations -/

instance : ReadBack DescriptorSource where
  read_write source := by
    unfold instWrittenDescriptorSource
    simp

instance : ReadBack PackageDeclaration where
  read_write package := by
    unfold instWrittenPackageDeclaration
    simp

instance : ReadBack RuleSetDeclaration where
  read_write ruleSet := by
    unfold instWrittenRuleSetDeclaration
    simp

instance : ReadBack XsdMapEntry where
  read_write entry := by
    unfold instWrittenXsdMapEntry
    simp

instance : ReadBack MapEntry where
  read_write entry := by
    unfold instWrittenMapEntry
    simp

instance : ReadBack NamespaceDeclaration where
  read_write declared := by
    unfold instWrittenNamespaceDeclaration
    simp

instance : ReadBack InputSection where
  read_write input := by
    unfold instWrittenInputSection
    simp

instance : ReadBack TransformerSection where
  read_write transformer := by
    unfold instWrittenTransformerSection
    simp

instance : ReadBack TargetSection where
  read_write target := by
    unfold instWrittenTargetSection
    simp

instance : ReadBack Configuration where
  read_write configuration := by
    unfold instWrittenConfiguration
    simp

/-! ## Settling -/

/-- What a datum becomes that is read as a value of the type, which is then written. -/
def Datum.rewritten (α : Type) [Written α] (datum : Datum) : Option Datum :=
  (read datum : Option α).map write

/-- Every value is read back as it was, and every datum that is accepted changes at most once,
however often it is read and written. -/
structure Settles (α : Type) [Written α] : Prop where
  read_write : ∀ a : α, read (write a) = some a
  rewritten_rewritten : ∀ datum again : Datum,
    datum.rewritten α = some again → again.rewritten α = some again

theorem ReadBack.settles (α : Type) [Written α] [ReadBack α] : Settles α where
  read_write := read_write
  rewritten_rewritten datum again h := by
    obtain ⟨a, -, rfl⟩ := Option.map_eq_some_iff.mp h
    rw [Datum.rewritten, ReadBack.read_write, Option.map_some]

/-- All types that are both written and read: names and identifiers, modes and kinds, stages,
mappings, parameters, the set-up of the log, and configurations with everything in them. -/
theorem written_and_read_settle :
    (∀ what, Settles (Name what)) ∧ Settles StageId ∧ Settles Mode ∧
    (Settles TargetKind ∧ Settles TransformerKind ∧ Settles Implementation) ∧
    (Settles Input ∧ Settles Transformer ∧ Settles Target ∧ Settles Stage) ∧
    (Settles MappingKind ∧ Settles MappingKey ∧ Settles MappingRecord) ∧
    (Settles ParameterKey ∧ Settles Replacements) ∧
    (Settles LogFormat ∧ Settles LogConfig) ∧
    (Settles DescriptorSource ∧ Settles PackageDeclaration ∧ Settles InputSection) ∧
    (Settles RuleSetDeclaration ∧ Settles TransformerSection) ∧
    (Settles XsdMapEntry ∧ Settles MapEntry ∧ Settles NamespaceDeclaration ∧
      Settles TargetSection) ∧
    Settles Configuration :=
  ⟨fun _ => ReadBack.settles _, ReadBack.settles _, ReadBack.settles _,
    ⟨ReadBack.settles _, ReadBack.settles _, ReadBack.settles _⟩,
    ⟨ReadBack.settles _, ReadBack.settles _, ReadBack.settles _, ReadBack.settles _⟩,
    ⟨ReadBack.settles _, ReadBack.settles _, ReadBack.settles _⟩,
    ⟨ReadBack.settles _, ReadBack.settles _⟩,
    ⟨ReadBack.settles _, ReadBack.settles _⟩,
    ⟨ReadBack.settles _, ReadBack.settles _, ReadBack.settles _⟩,
    ⟨ReadBack.settles _, ReadBack.settles _⟩,
    ⟨ReadBack.settles _, ReadBack.settles _, ReadBack.settles _, ReadBack.settles _⟩,
    ReadBack.settles _⟩

/-- A kind may be given as a record and a field that no stage has is ignored; a mode and
predecessors that are left out are written all the same. -/
example :
    (Datum.record [("kind", .record [("rdf", .record [])]), ("stage", .text "target"),
      ("ordinal", .natural 1), ("comment", .null)]).rewritten Stage =
    some (.record [("stage", .text "target"), ("ordinal", .natural 1), ("kind", .text "rdf"),
      ("mode", .text "enabled"), ("predecessors", .list [])]) := by
  rfl

/-- An empty record passes for nothing in a kind that comes before its role, and not after it; a
record that repeats a field is refused. -/
example :
    let role := ("role", Datum.text "target")
    let kind := ("kind", Datum.record [("rdf", .record [])])
    (Datum.record [kind, role]).rewritten Implementation =
        some (.record [role, ("kind", .text "rdf")]) ∧
      (Datum.record [role, kind]).rewritten Implementation = none ∧
      (Datum.record [kind, role, kind]).rewritten Implementation = none := by
  exact ⟨rfl, rfl, rfl⟩

end EncodingPlan
