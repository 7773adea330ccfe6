import EncodingPlan.Proofs.Parameter.Writes
import EncodingPlan.Proofs.Resolution.Sections

/-! What a draft holds once the sections of a configuration were added to it. A target is checked
for its implementation, its mode and its version of GML, and for nothing else: every record that a
map entry gives has one to four fields. What all targets together leave is what a reader gathers
from their sections, in the order of declaration. -/

namespace EncodingPlan

/-! ## Map entries -/

theorem MappingRecord.ofFields_guards {fields : List String} (hne : fields ≠ [])
    (hle : fields.length ≤ 4) : Guards [] (ofFields fields) := by
  rw [ofFields, dif_pos ⟨hne, hle⟩]
  exact .ok _

theorem XsdMapEntry.propertyTypeFields_guards (entry : XsdMapEntry) (propertyType : String) :
    Guards [] (MappingRecord.ofFields (entry.propertyTypeFields propertyType)) := by
  unfold propertyTypeFields
  split
  · exact MappingRecord.ofFields_guards (by simp) (by simp)
  · exact MappingRecord.ofFields_guards (by simp) (by simp)
  · refine MappingRecord.ofFields_guards (by simp) ?_
    cases entry.nilReason <;> simp

theorem XsdMapEntry.records_guards (entry : XsdMapEntry) :
    ∀ given ∈ entry.records, Guards [] given.2 := by
  intro given hgiven
  simp only [records, List.mem_append, Option.mem_toList, Option.map_eq_some_iff] at hgiven
  rcases hgiven with (((⟨type, _, rfl⟩ | ⟨element, _, rfl⟩) | ⟨type, _, rfl⟩) | ⟨name, _, rfl⟩) |
    ⟨name, _, rfl⟩
  · exact entry.propertyTypeFields_guards type
  · exact MappingRecord.ofFields_guards (List.cons_ne_nil direct [element]) (by simp)
  · exact MappingRecord.ofFields_guards (List.cons_ne_nil direct [type, entry.typeShape]) (by simp)
  · exact .ok _
  · exact .ok _

theorem MapEntry.record_guards (entry : MapEntry) : Guards [] entry.record := by
  refine MappingRecord.ofFields_guards (by simp) ?_
  cases entry.param <;> simp

namespace MappingTables

theorem addXsdMapEntry_guards (tables : MappingTables) (entry : XsdMapEntry) :
    Guards [] (tables.addXsdMapEntry entry) := by
  refine .foldlM_nil (fun rule _ tables => ?_) tables
  refine .foldlM_nil (fun given hgiven tables => ?_) tables
  exact (entry.records_guards given hgiven).bind fun _ _ => .ok _

theorem addMapEntry_guards (owner : String) (tables : MappingTables) (entry : MapEntry) :
    Guards [] (addMapEntry owner tables entry) :=
  entry.record_guards.bind fun _ _ => .ok _

end MappingTables

/-! ## What sections give -/

namespace TargetSection

variable (known : Implementations) (declaration : TargetSection)

/-- What the section is checked for. -/
def checks : List Check :=
  Check.ofStage known .target declaration.implementation declaration.mode declaration.parameters

/-- The target that the section describes, if its implementation and its mode are known. -/
def target? : Option Target :=
  (known.target? declaration.implementation).bind fun kind =>
    (Mode.declared? declaration.mode).map fun mode => declaration.stage kind mode

/-- The rule sets of a target that runs. -/
def activeRuleSets : List (String × RuleSetDeclaration) :=
  if (Mode.declared? declaration.mode).any Mode.isExecuted then declaration.ruleSets.entries else []

/-- The parameters in the scope of the target, whether it runs or not. -/
def parameterWrites : List (ParameterKey × String) :=
  match known.target? declaration.implementation with
  | some kind => declaration.parameters.writes (.inScope kind.implementationName)
  | none => []

/-- The namespaces of a target that writes XML schemas, whether it runs or not. -/
def activeNamespaces : List NamespaceDeclaration :=
  if (known.target? declaration.implementation).any TargetKind.usesXsdMapEntries then
    declaration.namespaces
  else []

end TargetSection

namespace TransformerSection

variable {known : Implementations}

/-- What the section is checked for. -/
def checks (known : Implementations) (declaration : TransformerSection) : List Check :=
  Check.ofStage known .transformer declaration.implementation declaration.mode
    declaration.parameters

/-- The transformer that the section describes, if its implementation and its mode are known. -/
def transformer? (known : Implementations) (declaration : TransformerSection) :
    Option Transformer :=
  (known.transformer? declaration.implementation).bind fun kind =>
    (Mode.declared? declaration.mode).map fun mode => declaration.stage kind mode

theorem configure_guards (declaration : TransformerSection) :
    Guards (declaration.checks known) (declaration.configure known) :=
  (known.transformer_guards _).bind fun _ _ => (Mode.ofDeclaration_guards _).bind fun _ _ =>
    (ParameterValues.checkGmlVersion_guards _).bind fun _ _ => .ok _

theorem configure_eq_ok {declaration : TransformerSection} {transformer : Transformer}
    (h : declaration.configure known = .ok transformer) :
    declaration.transformer? known = some transformer := by
  obtain ⟨kind, hkind, h⟩ := bind_eq_ok.mp h
  obtain ⟨mode, hmode, h⟩ := bind_eq_ok.mp h
  obtain ⟨_, _, h⟩ := bind_eq_ok.mp h
  rw [Implementations.transformer_eq_ok_iff] at hkind
  rw [Mode.ofDeclaration_eq_ok_iff] at hmode
  rw [transformer?, hkind, hmode, ← Except.ok.inj h]
  rfl

theorem mapM_configure_eq_ok {declarations : List TransformerSection}
    {transformers : List Transformer}
    (h : declarations.mapM (configure known) = .ok transformers) :
    transformers = declarations.filterMap (transformer? known) := by
  induction declarations generalizing transformers with
  | nil => exact (Except.ok.inj h).symm
  | cons declaration declarations ih =>
    rw [List.mapM_cons] at h
    obtain ⟨transformer, hfirst, h⟩ := bind_eq_ok.mp h
    obtain ⟨rest, hrest, h⟩ := bind_eq_ok.mp h
    rw [List.filterMap_cons, configure_eq_ok hfirst, ← ih hrest, ← Except.ok.inj h]

end TransformerSection

/-! ## Drafts -/

theorem Registry.declareAll_fst (registry : Registry)
    (declarations : List (String × RuleSetDeclaration)) :
    (registry.declareAll declarations).1 =
      declarations.foldl (fun registry (name, declaration) => (registry.declare name declaration).1)
        registry := by
  rw [declareAll]
  exact (List.foldl_hom Prod.fst fun _ _ => rfl).symm

theorem Registry.declareAll_append (registry : Registry)
    (declarations more : List (String × RuleSetDeclaration)) :
    (registry.declareAll (declarations ++ more)).1 =
      ((registry.declareAll declarations).1.declareAll more).1 := by
  simp only [declareAll_fst, List.foldl_append]

private theorem Registry.foldl_declare (registry : Registry) (found : Findings)
    (declarations : List (String × RuleSetDeclaration)) :
    declarations.foldl
        (fun (registry, found) (name, declaration) =>
          ((registry.declare name declaration).1, found ++ (registry.declare name declaration).2))
        (registry, found) =
      ((registry.declareAll declarations).1, found ++ (registry.declareAll declarations).2) := by
  induction declarations generalizing registry found with
  | nil => simp [declareAll]
  | cons entry declarations ih =>
    obtain ⟨name, declaration⟩ := entry
    have hcons : registry.declareAll ((name, declaration) :: declarations) =
        (((registry.declare name declaration).1.declareAll declarations).1,
          (registry.declare name declaration).2 ++
            ((registry.declare name declaration).1.declareAll declarations).2) :=
      ih _ _
    rw [List.foldl_cons, ih, hcons, List.append_assoc]

/-- What later declarations find comes after what the earlier ones found. -/
theorem Registry.findings_declareAll_append (registry : Registry)
    (declarations more : List (String × RuleSetDeclaration)) :
    (registry.declareAll (declarations ++ more)).2 =
      (registry.declareAll declarations).2 ++
        ((registry.declareAll declarations).1.declareAll more).2 := by
  have hmore := (registry.declareAll declarations).1.foldl_declare
    (registry.declareAll declarations).2 more
  rw [declareAll, List.foldl_append]
  exact congrArg Prod.snd hmore

theorem Vocabulary.addNamespaces_append (vocabulary : Vocabulary)
    (declared more : List NamespaceDeclaration) :
    vocabulary.addNamespaces (declared ++ more) =
      (vocabulary.addNamespaces declared).addNamespaces more :=
  List.foldl_append

namespace Draft

variable {known : Implementations} {draft draft' : Draft}

theorem addGlobals_guards (draft : Draft) (values : ParameterValues) :
    Guards [.unsupportedVersionIn values] (draft.addGlobals values) :=
  (ParameterValues.checkGmlVersion_guards values).bind fun _ _ => .ok _

theorem addGlobals_eq_ok {values : ParameterValues} (h : draft.addGlobals values = .ok draft') :
    draft' = { draft with parameters := draft.parameters.setAll (values.writes .global) } := by
  obtain ⟨_, _, h⟩ := bind_eq_ok.mp h
  exact (Except.ok.inj h).symm

section
variable (draft : Draft) (kind : TargetKind) (mode : Mode)

@[simp] theorem registry_addMode : (draft.addMode kind mode).registry = draft.registry := by
  rw [addMode]
  split <;> rfl

@[simp] theorem parameters_addMode :
    (draft.addMode kind mode).parameters = draft.parameters := by
  rw [addMode]
  split <;> rfl

@[simp] theorem vocabulary_addMode :
    (draft.addMode kind mode).vocabulary = draft.vocabulary := by
  rw [addMode]
  split <;> rfl

@[simp] theorem targets_addMode : (draft.addMode kind mode).targets = draft.targets := by
  rw [addMode]
  split <;> rfl

@[simp] theorem findings_addMode : (draft.addMode kind mode).findings = draft.findings := by
  rw [addMode]
  split <;> rfl

end

/-- Map entries and namespaces are never refused. -/
theorem addEntries_eq_ok (draft : Draft) (kind : TargetKind) (declaration : TargetSection) :
    ∃ mappings, draft.addEntries kind declaration = .ok { draft with
      mappings
      vocabulary := draft.vocabulary.addNamespaces
        (if kind.usesXsdMapEntries then declaration.namespaces else []) } := by
  rw [addEntries]
  split
  · obtain ⟨mappings, hmappings⟩ := Guards.nil_iff.mp (.foldlM_nil
      (fun entry _ tables => MappingTables.addXsdMapEntry_guards tables entry) draft.mappings)
    exact ⟨mappings, bind_eq_ok.mpr ⟨mappings, hmappings, rfl⟩⟩
  · obtain ⟨mappings, hmappings⟩ := Guards.nil_iff.mp (.foldlM_nil
      (fun entry _ tables => MappingTables.addMapEntry_guards kind.implementationName tables entry)
      draft.mappings)
    exact ⟨mappings, bind_eq_ok.mpr ⟨mappings, hmappings, rfl⟩⟩

theorem addTarget_guards (draft : Draft) (declaration : TargetSection) :
    Guards (declaration.checks known) (draft.addTarget known declaration) := by
  refine (known.target_guards _).bind fun kind _ => (Mode.ofDeclaration_guards _).bind fun mode _ =>
    (ParameterValues.checkGmlVersion_guards _).bind fun _ _ => Guards.nil_iff.mpr ?_
  obtain ⟨mappings, hentries⟩ := addEntries_eq_ok _ kind declaration
  exact ⟨_, bind_eq_ok.mpr ⟨_, hentries, rfl⟩⟩

/-- The targets were added one after another. -/
structure Adds (known : Implementations) (declarations : List TargetSection)
    (draft draft' : Draft) : Prop where
  registry : draft'.registry =
    (draft.registry.declareAll (declarations.flatMap TargetSection.activeRuleSets)).1
  parameters : draft'.parameters =
    draft.parameters.setAll (declarations.flatMap (TargetSection.parameterWrites known))
  vocabulary : draft'.vocabulary =
    draft.vocabulary.addNamespaces (declarations.flatMap (TargetSection.activeNamespaces known))
  targets : draft'.targets =
    draft.targets ++ declarations.filterMap (TargetSection.target? known)
  findings : draft'.findings = draft.findings ++
    (draft.registry.declareAll (declarations.flatMap TargetSection.activeRuleSets)).2

theorem Adds.refl : Adds known [] draft draft where
  registry := rfl
  parameters := rfl
  vocabulary := rfl
  targets := (List.append_nil _).symm
  findings := (List.append_nil _).symm

theorem Adds.trans {declarations more : List TargetSection} {between : Draft}
    (h : Adds known declarations draft between) (h' : Adds known more between draft') :
    Adds known (declarations ++ more) draft draft' where
  registry := by rw [List.flatMap_append, Registry.declareAll_append, ← h.registry, h'.registry]
  parameters := by
    rw [List.flatMap_append, ParameterStore.setAll_append, ← h.parameters, h'.parameters]
  vocabulary := by
    rw [List.flatMap_append, Vocabulary.addNamespaces_append, ← h.vocabulary, h'.vocabulary]
  targets := by rw [List.filterMap_append, ← List.append_assoc, ← h.targets, h'.targets]
  findings := by
    rw [List.flatMap_append, Registry.findings_declareAll_append, ← List.append_assoc, ← h.findings,
      ← h.registry, h'.findings]

theorem addTarget_adds {declaration : TargetSection}
    (h : draft.addTarget known declaration = .ok draft') :
    Adds known [declaration] draft draft' := by
  obtain ⟨kind, hkind, h⟩ := bind_eq_ok.mp h
  obtain ⟨mode, hmode, h⟩ := bind_eq_ok.mp h
  obtain ⟨_, _, h⟩ := bind_eq_ok.mp h
  obtain ⟨added, hadded, h⟩ := bind_eq_ok.mp h
  obtain ⟨mappings, hentries⟩ := addEntries_eq_ok _ kind declaration
  rw [hentries] at hadded
  obtain rfl := Except.ok.inj hadded
  obtain rfl := Except.ok.inj h
  rw [Implementations.target_eq_ok_iff] at hkind
  rw [Mode.ofDeclaration_eq_ok_iff] at hmode
  refine ⟨?_, ?_, ?_, ?_, ?_⟩
  · rw [List.flatMap_singleton, TargetSection.activeRuleSets, hmode]
    cases mode <;>
      simp [addScoped, addRuleSets, Mode.isDisabled, Mode.isExecuted, Registry.declareAll]
  · rw [List.flatMap_singleton, TargetSection.parameterWrites, hkind]
    cases mode <;> simp [addScoped, addRuleSets, Mode.isDisabled]
  · rw [List.flatMap_singleton, TargetSection.activeNamespaces, hkind]
    cases mode <;> simp [addScoped, addRuleSets, Mode.isDisabled]
  · have htarget : declaration.target? known = some (declaration.stage kind mode) := by
      rw [TargetSection.target?, hkind, hmode]
      rfl
    rw [List.filterMap_cons, htarget]
    cases mode <;> simp [addScoped, addRuleSets, Mode.isDisabled]
  · rw [List.flatMap_singleton, TargetSection.activeRuleSets, hmode]
    cases mode <;>
      simp [addScoped, addRuleSets, Mode.isDisabled, Mode.isExecuted, Registry.declareAll]

theorem foldlM_addTarget_adds {declarations : List TargetSection}
    (h : declarations.foldlM (addTarget known) draft = .ok draft') :
    Adds known declarations draft draft' := by
  induction declarations generalizing draft with
  | nil =>
    obtain rfl := Except.ok.inj h
    exact .refl
  | cons declaration declarations ih =>
    rw [List.foldlM_cons] at h
    obtain ⟨between, hfirst, hrest⟩ := bind_eq_ok.mp h
    exact (addTarget_adds hfirst).trans (ih hrest)

end Draft

end EncodingPlan
