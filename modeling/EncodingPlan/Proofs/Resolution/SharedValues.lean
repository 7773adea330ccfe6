import EncodingPlan.Proofs.Resolution.Loading

/-! The shared parameters of a resolution. A global name holds the value of the last global section
that sets it, and a name in the scope of a kind of target the value of the last target of this kind
that sets it, whether the target runs or not. A name that no section sets holds its standard value.
All these values were replaced once.

Nothing else is held: transformers keep their parameters to themselves, and a name that is missing in
one scope is not looked for in another one or among the global names. -/

namespace EncodingPlan

/-! ## Standard values -/

namespace ParameterStore

/-- The standard global values, as a section would set them. -/
def standardGlobalValues : ParameterValues := ⟨standardGlobals, by decide⟩

theorem standardValues_eq :
    standardValues = standardGlobalValues.writes .global ++ standardOfTargets :=
  rfl

/-- The standard value of a name in the scope of a kind of target. -/
def standardTargetValue? (kind : TargetKind) (name : String) : Option String :=
  if name = ParameterName.defaultEncodingRule then kind.defaultEncodingRule?.map Name.text
  else if kind = .xmlSchema ∧ name = ParameterName.gmlVersion then some GmlVersion.v32.text
  else none

/-- All writes are in scopes of kinds of targets. -/
def InTargetScopes (writes : List (ParameterKey × String)) : Prop :=
  ∀ write ∈ writes, ∃ kind name, write.1 = .inScope (TargetKind.implementationName kind) name

variable {writes : List (ParameterKey × String)}

theorem InTargetScopes.valuesFor_eq_nil (h : InTargetScopes writes) {key : ParameterKey}
    (hkey : ∀ kind name, .inScope (TargetKind.implementationName kind) name ≠ key) :
    valuesFor key writes = [] := by
  refine List.filterMap_eq_nil_iff.mpr fun write hwrite => if_neg ?_
  obtain ⟨kind, name, heq⟩ := h write hwrite
  rw [heq]
  exact hkey kind name

theorem inTargetScopes_standardOfTargets : InTargetScopes standardOfTargets := by
  intro write hwrite
  rcases List.mem_append.mp hwrite with hrule | hversion
  · obtain ⟨kind, _, hrule⟩ := List.mem_filterMap.mp hrule
    obtain ⟨rule, _, rfl⟩ := Option.map_eq_some_iff.mp hrule
    exact ⟨kind, _, rfl⟩
  · obtain rfl := List.mem_singleton.mp hversion
    exact ⟨.xmlSchema, _, rfl⟩

theorem inScope_implementationName_eq_iff {kind other : TargetKind} {name written : String} :
    ParameterKey.inScope other.implementationName written =
      .inScope kind.implementationName name ↔ other = kind ∧ written = name := by
  simp [ParameterKey.inScope, TargetKind.implementationName_injective.eq_iff]

/-- Of all kinds, only the one whose scope it is gives a default encoding rule. -/
theorem valuesFor_standardRules (kind : TargetKind) (name : String) :
    valuesFor (.inScope kind.implementationName name)
        (TargetKind.all.filterMap fun other => other.defaultEncodingRule?.map fun rule =>
          (.inScope other.implementationName ParameterName.defaultEncodingRule, rule.text)) =
      if name = ParameterName.defaultEncodingRule then
        (kind.defaultEncodingRule?.map Name.text).toList
      else [] := by
  have hone (other : TargetKind) : valuesFor (.inScope kind.implementationName name)
      (other.defaultEncodingRule?.map fun rule =>
        (.inScope other.implementationName ParameterName.defaultEncodingRule, rule.text)).toList =
      if other = kind ∧ ParameterName.defaultEncodingRule = name then
        (other.defaultEncodingRule?.map Name.text).toList
      else [] := by
    cases other.defaultEncodingRule? with
    | none => exact (ite_self _).symm
    | some rule =>
      refine (valuesFor_optional (some rule.text)).trans ?_
      simp only [inScope_implementationName_eq_iff, Option.map_some]
  rw [List.filterMap_eq_flatMap_toList, valuesFor_flatMap]
  simp only [hone]
  by_cases hname : name = ParameterName.defaultEncodingRule
  · cases kind <;> simp [TargetKind.all, hname]
  · simp [hname, Ne.symm hname]

theorem valuesFor_standardOfTargets (kind : TargetKind) (name : String) :
    valuesFor (.inScope kind.implementationName name) standardOfTargets =
      (standardTargetValue? kind name).toList := by
  have hversion : valuesFor (.inScope kind.implementationName name)
      [(.xmlSchemaVersion, (default : GmlVersion).text)] =
      if kind = .xmlSchema ∧ name = ParameterName.gmlVersion then [GmlVersion.v32.text] else [] := by
    refine (valuesFor_optional (some (default : GmlVersion).text)).trans ?_
    simp only [ParameterKey.xmlSchemaVersion, inScope_implementationName_eq_iff,
      eq_comm (b := kind), eq_comm (b := name)]
    rfl
  rw [standardOfTargets, valuesFor_append, valuesFor_standardRules, hversion, standardTargetValue?]
  by_cases hname : name = ParameterName.defaultEncodingRule
  · have hother : ¬ ParameterName.defaultEncodingRule = ParameterName.gmlVersion := by decide
    simp [hname, hother]
  · rw [if_neg hname, if_neg hname, List.nil_append]
    split <;> rfl

end ParameterStore

/-! ## What sections write -/

namespace ParameterKey

theorem global_injective : global.Injective := fun _ _ h => (mk.inj h).2

theorem global_ne_inScope (name scope written : String) : global name ≠ inScope scope written :=
  fun h => nomatch (mk.inj h).1

end ParameterKey

namespace Configuration

variable (configuration : Configuration) (known : Implementations)

/-- The values that the global sections set under the name, in the order of the sections. -/
def globalValues (name : String) : List String :=
  configuration.globalSections.filterMap (·.get? name)

theorem inTargetScopes_parameterWrites : ParameterStore.InTargetScopes
    (configuration.targets.flatMap (TargetSection.parameterWrites known)) := by
  intro write hwrite
  obtain ⟨target, _, hwrite⟩ := List.mem_flatMap.mp hwrite
  rw [TargetSection.parameterWrites] at hwrite
  cases hkind : known.target? target.implementation with
  | none => simp [hkind] at hwrite
  | some kind =>
    rw [hkind] at hwrite
    obtain ⟨entry, _, rfl⟩ := List.mem_map.mp hwrite
    exact ⟨kind, entry.1, rfl⟩

theorem valuesFor_global_globalSections (name : String) :
    ParameterStore.valuesFor (.global name)
        (configuration.globalSections.flatMap (ParameterValues.writes · .global)) =
      configuration.globalValues name := by
  rw [ParameterStore.valuesFor_flatMap, globalValues, List.filterMap_eq_flatMap_toList]
  refine congrArg (List.flatMap · configuration.globalSections) (funext fun values => ?_)
  exact ParameterStore.valuesFor_writes values ParameterKey.global_injective name

theorem valuesFor_inScope_globalSections (scope name : String) :
    ParameterStore.valuesFor (.inScope scope name)
      (configuration.globalSections.flatMap (ParameterValues.writes · .global)) = [] := by
  rw [ParameterStore.valuesFor_flatMap, List.flatMap_eq_nil_iff]
  exact fun values _ => ParameterStore.valuesFor_writes_of_ne values fun written =>
    ParameterKey.global_ne_inScope written scope name

theorem valuesFor_global (name : String) :
    ParameterStore.valuesFor (.global name) (configuration.parameterWrites known) =
      (ParameterStore.standardGlobalValues.get? name).toList ++ configuration.globalValues name := by
  have hscoped (kind : TargetKind) (written : String) :
      ParameterKey.inScope kind.implementationName written ≠ .global name :=
    (ParameterKey.global_ne_inScope _ _ _).symm
  rw [parameterWrites, ParameterStore.valuesFor_append, ParameterStore.valuesFor_append,
    ParameterStore.standardValues_eq, ParameterStore.valuesFor_append,
    ParameterStore.valuesFor_writes _ ParameterKey.global_injective,
    ParameterStore.inTargetScopes_standardOfTargets.valuesFor_eq_nil hscoped,
    (configuration.inTargetScopes_parameterWrites known).valuesFor_eq_nil hscoped,
    valuesFor_global_globalSections, List.append_nil, List.append_nil]

/-- In a scope, the global values are passed over. -/
theorem valuesFor_inScope (scope name : String) :
    ParameterStore.valuesFor (.inScope scope name) (configuration.parameterWrites known) =
      ParameterStore.valuesFor (.inScope scope name) ParameterStore.standardOfTargets ++
        ParameterStore.valuesFor (.inScope scope name)
          (configuration.targets.flatMap (TargetSection.parameterWrites known)) := by
  rw [parameterWrites, ParameterStore.valuesFor_append, ParameterStore.valuesFor_append,
    ParameterStore.standardValues_eq, ParameterStore.valuesFor_append,
    ParameterStore.valuesFor_writes_of_ne _ fun written =>
      ParameterKey.global_ne_inScope written scope name,
    valuesFor_inScope_globalSections, List.nil_append, List.append_nil]

end Configuration

/-! ## What is shared -/

/-- The store holds the last value that the sections set, or else the standard value, under every
global name and in the scopes of all kinds of targets, each replaced once; and nothing else. -/
structure Configuration.SharesLast (configuration : Configuration) (replacements : Replacements)
    (known : Implementations) (shared : ParameterStore) : Prop where
  global : ∀ name, ParameterSource.get? shared name =
    ((configuration.globalValues name).getLast?.or
      (ParameterStore.standardGlobalValues.get? name)).map replacements.apply
  ofTarget : ∀ kind name,
    ParameterSource.getScoped? shared (TargetKind.implementationName kind) name =
      ((configuration.targetValues known kind name).getLast?.or
        (ParameterStore.standardTargetValue? kind name)).map replacements.apply
  noOther : ∀ scope name, (∀ kind, TargetKind.implementationName kind ≠ scope) →
    ParameterSource.getScoped? shared scope name = none

theorem Configuration.sharesLast (configuration : Configuration) (replacements : Replacements)
    (known : Implementations) :
    configuration.SharesLast replacements known
      (configuration.sharedParameters replacements known) where
  global name := by
    rw [ParameterSource.get?, value?_sharedParameters, valuesFor_global, List.getLast?_append,
      getLast?_toList]
  ofTarget kind name := by
    rw [ParameterSource.getScoped?, value?_sharedParameters, valuesFor_inScope,
      ParameterStore.valuesFor_standardOfTargets, valuesFor_parameterWrites, List.getLast?_append,
      getLast?_toList]
  noOther scope name hscope := by
    have hkey (kind : TargetKind) (written : String) :
        ParameterKey.inScope kind.implementationName written ≠ .inScope scope name :=
      fun h => hscope kind (Option.some.inj (ParameterKey.mk.inj h).1)
    rw [ParameterSource.getScoped?, value?_sharedParameters, valuesFor_inScope,
      ParameterStore.inTargetScopes_standardOfTargets.valuesFor_eq_nil hkey,
      (configuration.inTargetScopes_parameterWrites known).valuesFor_eq_nil hkey]
    rfl

namespace Resolution

variable {configuration : Configuration} {replacements : Replacements} {known : Implementations}
  {resolution : Resolution} {findings : Findings}

/-- What is shared are the last values of the sections and the standard values, and whatever
transformers declare makes no difference to it. -/
theorem sharesLast_of_load
    (h : load configuration replacements known = .ok (resolution, findings)) :
    configuration.SharesLast replacements known resolution.parameters ∧
      ∀ transformers resolution' findings',
        load { configuration with transformers } replacements known = .ok (resolution', findings') →
          resolution'.parameters = resolution.parameters := by
  rw [(load_eq_ok h).parameters]
  refine ⟨configuration.sharesLast replacements known, ?_⟩
  intro transformers resolution' findings' h'
  rw [(load_eq_ok h').parameters]
  rfl

/-- A name is set by the input, by the dialog, by a transformer, by a target and by a later target of
the same kind, which does not run. The value of the dialog and that of the later target are a token
whose literal is a token again, and a standard value is a token, too. -/
theorem sharesLast_of_repeated_name :
    let known : Implementations := .ofList
      [("XmlSchema", .target .xmlSchema), ("Flattener", .transformer .flattener)]
    let replacements : Replacements := .ofList [("$a$", "$b$"), ("$b$", "c"), ("INFO", "DEBUG")]
    let configuration : Configuration := {
      input := { parameters := .ofList [("p", "input"), ("q", "input")] }
      dialogParameters := .ofList [("p", "$a$")]
      transformers := [
        { id := "T", implementation := "Flattener", parameters := .ofList [("p", "T")] }]
      targets := [
        { implementation := "XmlSchema", parameters := .ofList [("p", "first"), ("r", "first")] },
        { implementation := "XmlSchema", mode := some "disabled",
          parameters := .ofList [("p", "$a$")] }] }
    let xmlSchema := TargetKind.xmlSchema.implementationName
    ∃ resolution findings, load configuration replacements known = .ok (resolution, findings) ∧
      ParameterSource.get? resolution.parameters "p" = some "$b$" ∧
      ParameterSource.get? resolution.parameters "reportLevel" = some "DEBUG" ∧
      ParameterSource.getScoped? resolution.parameters xmlSchema "p" = some "$b$" ∧
      ParameterSource.getScoped? resolution.parameters xmlSchema "q" = none ∧
      ParameterSource.getScoped? resolution.parameters xmlSchema "r" = some "first" ∧
      ParameterSource.getScoped? resolution.parameters "T" "p" = none := by
  intro known replacements configuration xmlSchema
  have hloads : configuration.StandardLoadable replacements known := by decide +kernel
  obtain ⟨resolution, findings, hload⟩ := hloads.exists_load
  obtain ⟨⟨hglobal, htarget, hnoOther⟩, _⟩ := sharesLast_of_load hload
  refine ⟨resolution, findings, hload, ?_, ?_, ?_, ?_, ?_, hnoOther _ _ ?_⟩
  · rw [hglobal]
    decide
  · rw [hglobal]
    decide
  · rw [htarget]
    decide +kernel
  · rw [htarget]
    decide +kernel
  · rw [htarget]
    decide +kernel
  · intro kind
    cases kind <;> decide

end Resolution

end EncodingPlan
