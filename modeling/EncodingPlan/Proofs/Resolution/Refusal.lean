import EncodingPlan.Proofs.Pipeline.Assembly
import EncodingPlan.Proofs.Resolution.Population
import EncodingPlan.Proofs.RuleSet.Loops
import EncodingPlan.Resolution.Basic

/-! What a configuration is refused for. The checks of loading are listed as a reader of the
configuration would make them; loading answers what the first failing one finds, and goes through if
there is none. -/

namespace EncodingPlan

/-! ## The checks of a configuration -/

namespace Check

/-- A declared set leads onto a loop of parents; the problem is about the first one that does. -/
def cyclicInheritance (registry : Registry) : Check := fun problem =>
  ∃ before name after, registry.ruleSetNames = before ++ name :: after ∧
    (∀ earlier ∈ before, ¬ registry.LeadsToLoop earlier) ∧ registry.LeadsToLoop name ∧
    problem = .cyclicInheritance name (registry.ancestors name)

/-- The first thing that is wrong with the stages. -/
def unsoundPlan (plan : StagePlan) : Check := fun problem => plan.problems.head? = some problem

end Check

namespace Configuration

variable (configuration : Configuration) (replacements : Replacements) (known : Implementations)

/-- The standard rule sets and those of the targets that run. -/
def registry : Registry :=
  (Registry.standard.declareAll (configuration.targets.flatMap TargetSection.activeRuleSets)).1

/-- The stages that the sections describe. -/
def plan : StagePlan where
  input := configuration.input.stage
  transformers := configuration.transformers.filterMap (TransformerSection.transformer? known)
  targets := configuration.targets.filterMap (TargetSection.target? known)

/-- The versions of GML that targets for XML schemas ask for. -/
def xmlSchemaVersions : List String :=
  configuration.targets.filterMap fun target =>
    if known.target? target.implementation = some .xmlSchema then
      target.parameters.get? ParameterName.gmlVersion
    else none

/-- The version that is stored for XML schemas: the last one that is asked for, or else the standard
one. It passes through the replacements like any other value. -/
def storedVersion : String :=
  replacements.apply ((configuration.xmlSchemaVersions known).getLast?.getD GmlVersion.v32.text)

/-- The checks in their order, but for the one of the version that is stored. -/
def checks : List Check :=
  [.unsupportedVersionIn configuration.input.parameters,
    .unsupportedVersionIn configuration.dialogParameters,
    .unsupportedVersionIn configuration.logParameters]
  ++ configuration.targets.flatMap (TargetSection.checks known)
  ++ configuration.transformers.flatMap (TransformerSection.checks known)
  ++ [.cyclicInheritance configuration.registry, .unsoundPlan (configuration.plan known)]

def allChecks : List Check :=
  configuration.checks known
    ++ [.unsupportedVersion (configuration.storedVersion replacements known)]

end Configuration

/-! ## The steps after the population -/

theorem Configuration.coherent_registry (configuration : Configuration) :
    configuration.registry.Coherent := by
  rw [registry, Registry.declareAll_fst]
  exact List.foldlRecOn _ _ Registry.Coherent.standard fun _ hfold _ _ =>
    hfold.declareRuleSet _ _ _

theorem Registry.Coherent.validate_guards {registry : Registry} (h : registry.Coherent) :
    Guards [.cyclicInheritance registry] registry.validate := fun problem => by
  rw [FirstFailure.singleton_iff, h.validate_eq_error_iff]
  rfl

theorem StagePlan.assemble_guards (plan : StagePlan) :
    Guards [.unsoundPlan plan] plan.assemble := fun problem => by
  rw [FirstFailure.singleton_iff, Check.unsoundPlan]
  rcases plan.assemble_cases with ⟨first, hhead, herror⟩ | ⟨hsound, order, _, hok⟩
  · rw [herror, hhead, Except.error.injEq, Option.some.injEq]
  · rw [hok, hsound.problems_eq_nil]
    simp

/-- Stages have no records. -/
theorem StagePlan.recordArity_not_mem_problems (plan : StagePlan) (count : Nat) :
    .recordArity count ∉ plan.problems := by
  simp only [problems, List.mem_append, not_or]
  refine ⟨⟨⟨⟨⟨fun h => ?_, fun h => ?_⟩, fun h => ?_⟩, by simp⟩, fun h => ?_⟩, fun h => ?_⟩
  · obtain ⟨_, h⟩ := eq_duplicateStage_of_mem h
    cases h
  · obtain ⟨_, _, h⟩ := eq_danglingPredecessor_of_mem h
    cases h
  · obtain ⟨_, h⟩ := eq_selfReference_of_mem h
    cases h
  · obtain ⟨_, _, h⟩ := eq_disabledPredecessor_of_mem h
    cases h
  · cases eq_noTargets_of_mem h

/-- Where the version of GML for XML schemas is stored. -/
abbrev ParameterKey.xmlSchemaVersion : ParameterKey :=
  .inScope TargetKind.xmlSchema.implementationName ParameterName.gmlVersion

theorem Settings.derive_guards {parameters : ParameterStore} {raw : String}
    (hraw : ParameterSource.value? parameters .xmlSchemaVersion = some raw)
    (language : Option String) :
    Guards [.unsupportedVersion raw] (Settings.derive parameters language) := by
  have hversion : Settings.gmlVersionOf parameters = GmlVersion.parse raw := by
    rw [Settings.gmlVersionOf, ParameterSource.getScoped?, hraw]
  have hparse := GmlVersion.parse_guards raw
  rw [← hversion] at hparse
  exact hparse.bind fun _ _ => .ok _

/-! ## The stored version -/

theorem TargetKind.implementationName_injective : implementationName.Injective := by
  intro a b h
  cases a <;> cases b <;> simp_all [implementationName]

namespace ParameterStore

theorem value?_setAll_global (store : ParameterStore) (values : ParameterValues)
    (scope name : String) :
    ParameterSource.value? (store.setAll (values.writes .global)) (.inScope scope name) =
      ParameterSource.value? store (.inScope scope name) := by
  rw [value?_setAll, valuesFor_writes_of_ne values fun _ => by simp [ParameterKey.global,
    ParameterKey.inScope]]
  rfl

/-- The version that every configuration starts from. -/
theorem value?_seed_gmlVersion (store : ParameterStore) :
    ParameterSource.value? store.seed .xmlSchemaVersion =
      some (store.replacements.apply GmlVersion.v32.text) := by
  rw [seed, value?_setAll, standardValues, standardOfTargets, ← List.append_assoc, valuesFor_append,
    valuesFor_singleton, List.getLast?_concat]
  rfl

end ParameterStore

/-- The values that targets of the kind set under the name, in the order of the targets. -/
def Configuration.targetValues (configuration : Configuration) (known : Implementations)
    (kind : TargetKind) (name : String) : List String :=
  configuration.targets.filterMap fun target =>
    if known.target? target.implementation = some kind then target.parameters.get? name else none

theorem Configuration.valuesFor_parameterWrites (configuration : Configuration)
    (known : Implementations) (kind : TargetKind) (name : String) :
    ParameterStore.valuesFor (.inScope kind.implementationName name)
        (configuration.targets.flatMap (TargetSection.parameterWrites known)) =
      configuration.targetValues known kind name := by
  rw [ParameterStore.valuesFor_flatMap, targetValues, List.filterMap_eq_flatMap_toList]
  refine congrArg (List.flatMap · configuration.targets) (funext fun target => ?_)
  rw [TargetSection.parameterWrites]
  cases htarget : known.target? target.implementation with
  | none => rfl
  | some other =>
    by_cases hkind : other = kind
    · subst hkind
      rw [if_pos rfl]
      exact ParameterStore.valuesFor_writes target.parameters
        (fun _ _ h => (ParameterKey.mk.inj h).2) name
    · simp only [Option.some.injEq, hkind, if_false, Option.toList_none]
      refine ParameterStore.valuesFor_writes_of_ne _ fun _ h => hkind ?_
      exact TargetKind.implementationName_injective (Option.some.inj (ParameterKey.mk.inj h).1)

/-- What the standard values, the global sections and the targets leave. -/
theorem Configuration.value?_storedVersion (configuration : Configuration)
    (replacements : Replacements) (known : Implementations) (input dialog log : ParameterValues) :
    ParameterSource.value?
      (((((ParameterStore.seed { replacements }).setAll (input.writes .global)).setAll
        (dialog.writes .global)).setAll (log.writes .global)).setAll
          (configuration.targets.flatMap (TargetSection.parameterWrites known)))
      .xmlSchemaVersion = some (configuration.storedVersion replacements known) := by
  have hversions : configuration.targetValues known .xmlSchema ParameterName.gmlVersion =
      configuration.xmlSchemaVersions known := rfl
  rw [ParameterStore.value?_setAll, configuration.valuesFor_parameterWrites, hversions,
    storedVersion]
  cases (configuration.xmlSchemaVersions known).getLast? with
  | some raw => simp [ParameterStore.replacements_setAll, ParameterStore.seed]
  | none =>
    simp only [ParameterStore.value?_setAll_global, ParameterStore.value?_seed_gmlVersion]
    rfl

/-! ## Loading -/

namespace Resolution

/-- Loading makes all checks, in their order, and no other ones. -/
theorem load_guards (configuration : Configuration) (replacements : Replacements)
    (known : Implementations) :
    Guards (configuration.allChecks replacements known)
      (load configuration replacements known) := by
  have hchecks : configuration.allChecks replacements known =
      [.unsupportedVersionIn configuration.input.parameters] ++
      ([.unsupportedVersionIn configuration.dialogParameters] ++
      ([.unsupportedVersionIn configuration.logParameters] ++
      (configuration.targets.flatMap (TargetSection.checks known) ++
      (configuration.transformers.flatMap (TransformerSection.checks known) ++
      ([.cyclicInheritance configuration.registry] ++
      ([.unsoundPlan (configuration.plan known)] ++
      ([.unsupportedVersion (configuration.storedVersion replacements known)] ++ []))))))) := by
    simp [Configuration.allChecks, Configuration.checks]
  rw [hchecks, load]
  refine (Draft.addGlobals_guards _ _).bind fun draft₁ h₁ => ?_
  refine (Draft.addGlobals_guards _ _).bind fun draft₂ h₂ => ?_
  refine (Draft.addGlobals_guards _ _).bind fun draft₃ h₃ => ?_
  refine (Guards.foldlM (fun target _ draft => draft.addTarget_guards target) _).bind
    fun draft hdraft => ?_
  refine (Guards.mapM TransformerSection.configure_guards _).bind
    fun transformers htransformers => ?_
  obtain rfl := Draft.addGlobals_eq_ok h₁
  obtain rfl := Draft.addGlobals_eq_ok h₂
  obtain rfl := Draft.addGlobals_eq_ok h₃
  have hadds := Draft.foldlM_addTarget_adds hdraft
  have hregistry : draft.registry = configuration.registry := hadds.registry
  have hplan : StagePlan.mk configuration.input.stage transformers draft.targets =
      configuration.plan known := by
    rw [TransformerSection.mapM_configure_eq_ok htransformers, hadds.targets]
    rfl
  rw [hregistry, hplan]
  refine configuration.coherent_registry.validate_guards.bind fun _ _ => ?_
  refine (StagePlan.assemble_guards _).bind fun _ _ => ?_
  refine (Settings.derive_guards ?_ _).bind fun _ _ => .ok _
  rw [hadds.parameters]
  exact configuration.value?_storedVersion replacements known _ _ _

/-- No check is about the number of fields of a record. -/
theorem not_recordArity {configuration : Configuration} {replacements : Replacements}
    {known : Implementations} {count : Nat} :
    ∀ check ∈ configuration.allChecks replacements known, ¬ check (.recordArity count) := by
  have hversion (values : ParameterValues) :
      ¬ Check.unsupportedVersionIn values (.recordArity count) := by
    simp [Check.unsupportedVersionIn, Check.unsupportedVersion]
  have hstage {role : Role} {name : String} {mode : Option String} {parameters : ParameterValues} :
      ∀ check ∈ Check.ofStage known role name mode parameters, ¬ check (.recordArity count) := by
    simp [Check.ofStage, Check.unknownImplementation, Check.wrongRole, Check.invalidMode, hversion]
  intro check hcheck
  simp only [Configuration.allChecks, Configuration.checks, List.mem_append, List.mem_cons,
    List.not_mem_nil, or_false, List.mem_flatMap] at hcheck
  rcases hcheck with ((((rfl | rfl | rfl) | ⟨target, _, hcheck⟩) | ⟨transformer, _, hcheck⟩) |
    rfl | rfl) | rfl
  · exact hversion _
  · exact hversion _
  · exact hversion _
  · exact hstage check hcheck
  · exact hstage check hcheck
  · simp [Check.cyclicInheritance]
  · exact fun h => StagePlan.recordArity_not_mem_problems _ _ (List.mem_of_head? h)
  · simp [Check.unsupportedVersion]

/-- The version that is stored without replacements was asked for by a target, and so was checked
before, or is the standard one. -/
theorem storedVersion_passes (configuration : Configuration) (known : Implementations)
    (h : ∀ check ∈ configuration.checks known, check.Passes) :
    (Check.unsupportedVersion (configuration.storedVersion ∅ known)).Passes := by
  intro problem hproblem
  have hstored : configuration.storedVersion ∅ known =
      (configuration.xmlSchemaVersions known).getLast?.getD GmlVersion.v32.text := rfl
  cases hlast : (configuration.xmlSchemaVersions known).getLast? with
  | none =>
    rw [hstored, hlast] at hproblem
    exact hproblem.1 .v32 rfl
  | some raw =>
    obtain ⟨target, htarget, hraw⟩ := List.mem_filterMap.mp (List.mem_of_getLast? hlast)
    rw [Option.ite_none_right_eq_some] at hraw
    rw [hstored, hlast] at hproblem
    refine h (.unsupportedVersionIn target.parameters) ?_ problem ⟨raw, hraw.2, hproblem⟩
    rw [Configuration.checks, List.mem_append, List.mem_append, List.mem_append]
    exact .inl (.inl (.inr (List.mem_flatMap.mpr ⟨target, htarget, by
      simp [TargetSection.checks, Check.ofStage]⟩)))

/-- Loading fails exactly if one of the checks fails, and answers what the first failing one finds.
Records of map entries are not among the checks, and without replacements the stored version need
not be. -/
theorem load_refusals (configuration : Configuration) (replacements : Replacements)
    (known : Implementations) :
    ((∃ problem, load configuration replacements known = .error problem) ↔
      ∃ check ∈ configuration.allChecks replacements known, ∃ problem, check problem) ∧
    (∀ problem, load configuration replacements known = .error problem ↔
      FirstFailure (configuration.allChecks replacements known) problem) ∧
    (∀ count, load configuration replacements known ≠ .error (.recordArity count)) ∧
    ∀ problem, load configuration ∅ known = .error problem ↔
      FirstFailure (configuration.checks known) problem := by
  have hguards := load_guards configuration replacements known
  refine ⟨?_, hguards, fun count hload => ?_, fun problem => ?_⟩
  · rw [← FirstFailure.exists_iff]
    exact exists_congr hguards
  · obtain ⟨check, hmem, hproblem⟩ := ((hguards _).mp hload).exists_mem
    exact not_recordArity check hmem hproblem
  · rw [load_guards configuration ∅ known problem, Configuration.allChecks, FirstFailure.append_iff]
    refine or_iff_left fun ⟨hpasses, hlast⟩ => ?_
    exact storedVersion_passes configuration known hpasses problem
      (FirstFailure.singleton_iff.mp hlast)

end Resolution

end EncodingPlan
