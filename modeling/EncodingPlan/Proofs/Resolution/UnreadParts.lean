import EncodingPlan.Proofs.Resolution.Loading

/-! Parts of sections that loading passes over. A target that does not run declares no rule sets,
and neither does a transformer; map entries of the sort that a kind of target does not use are not
looked at. Without these parts a configuration is refused for the same problem, or leads to the same
resolution, which only shows other declarations of its stages. -/

namespace EncodingPlan

/-! ## Configurations without the parts -/

namespace TargetSection

def runs (declaration : TargetSection) : Bool :=
  (Mode.declared? declaration.mode).any Mode.isExecuted

def withoutIdleRuleSets (declaration : TargetSection) : TargetSection :=
  if declaration.runs then declaration else { declaration with ruleSets := ∅ }

/-- Leaves out the map entries of the sort that the kind of target does not use. -/
def withoutUnusedEntries (known : Implementations) (declaration : TargetSection) : TargetSection :=
  if (known.target? declaration.implementation).any TargetKind.usesXsdMapEntries then
    { declaration with mapEntries := [] }
  else { declaration with xsdMapEntries := [] }

end TargetSection

namespace Configuration

/-- Edits every target and every transformer. -/
def mapSections (configuration : Configuration) (onTarget : TargetSection → TargetSection)
    (onTransformer : TransformerSection → TransformerSection) : Configuration :=
  { configuration with
    transformers := configuration.transformers.map onTransformer
    targets := configuration.targets.map onTarget }

/-- Leaves out the rule sets of transformers and of targets that do not run. -/
def withoutIdleRuleSets (configuration : Configuration) : Configuration :=
  configuration.mapSections TargetSection.withoutIdleRuleSets ({ · with ruleSets := ∅ })

/-- Leaves out the map entries that no target uses. -/
def withoutUnusedEntries (configuration : Configuration) (known : Implementations) :
    Configuration :=
  configuration.mapSections (TargetSection.withoutUnusedEntries known) id

end Configuration

/-! ## Loading without the parts -/

/-- What follows a step matters only for the values that the step can give. -/
theorem bind_congr_of_eq_ok {α β : Type} {x : Except Problem α} {f g : α → Except Problem β}
    (h : ∀ a, x = .ok a → f a = g a) : (x >>= f) = (x >>= g) := by
  cases x with
  | error problem => rfl
  | ok a => exact h a rfl

namespace Draft

variable {known : Implementations} (draft : Draft) (declaration : TargetSection)

theorem addTarget_withoutIdleRuleSets :
    draft.addTarget known declaration.withoutIdleRuleSets = draft.addTarget known declaration := by
  rw [TargetSection.withoutIdleRuleSets]
  split
  · rfl
  rename_i hidle
  refine bind_congr_of_eq_ok fun kind _ => bind_congr_of_eq_ok fun mode hmode =>
    bind_congr_of_eq_ok fun _ _ => ?_
  have hdisabled : mode.isDisabled = true := by
    rw [TargetSection.runs, Mode.ofDeclaration_eq_ok_iff.mp hmode] at hidle
    simpa [Mode.isExecuted] using hidle
  simp only [hdisabled, if_true]
  rfl

theorem addTarget_withoutUnusedEntries :
    draft.addTarget known (declaration.withoutUnusedEntries known) =
      draft.addTarget known declaration := by
  rw [TargetSection.withoutUnusedEntries]
  split
  all_goals
    rename_i huses
    refine bind_congr_of_eq_ok fun kind hkind => bind_congr_of_eq_ok fun mode _ =>
      bind_congr_of_eq_ok fun _ _ => ?_
    rw [Implementations.target_eq_ok_iff.mp hkind] at huses
    simp only [Option.any_some] at huses
    simp only [addEntries, huses]
    rfl

end Draft

namespace Resolution

variable {configuration other : Configuration} {replacements : Replacements}
  {known : Implementations} {resolution : Resolution} {findings : Findings}

section
variable {onTarget : TargetSection → TargetSection}
  {onTransformer : TransformerSection → TransformerSection}
  (htarget : ∀ (draft : Draft) (declaration : TargetSection),
    draft.addTarget known (onTarget declaration) = draft.addTarget known declaration)
  (htransformer : ∀ declaration : TransformerSection,
    (onTransformer declaration).configure known = declaration.configure known)
include htarget htransformer

/-- Edits that no step of loading notices can only change the declarations of the stages. -/
theorem load_mapSections (configuration : Configuration) (replacements : Replacements) :
    load (configuration.mapSections onTarget onTransformer) replacements known =
      (fun (resolution, findings) => ({ resolution with
        declarations := stageDeclarations (configuration.mapSections onTarget onTransformer) },
        findings)) <$> load configuration replacements known := by
  have htransformers : (configuration.transformers.map onTransformer).mapM
      (TransformerSection.configure known) =
        configuration.transformers.mapM (TransformerSection.configure known) := by
    rw [List.mapM_map]
    simp only [Function.comp_def, htransformer]
  simp only [load, Configuration.mapSections, List.foldlM_map, htarget, htransformers, map_bind,
    map_pure]

/-- Configurations that such edits make equal are loaded alike. -/
theorem exists_load_of_mapSections_eq
    (hsame : other.mapSections onTarget onTransformer =
      configuration.mapSections onTarget onTransformer)
    (h : load configuration replacements known = .ok (resolution, findings)) :
    ∃ resolution', load other replacements known = .ok (resolution', findings) ∧
      { resolution' with declarations := resolution.declarations } = resolution := by
  have hload' := load_mapSections htarget htransformer other replacements
  rw [hsame, load_mapSections htarget htransformer, h] at hload'
  cases hother : load other replacements known with
  | error problem =>
    rw [hother] at hload'
    cases hload'
  | ok loaded =>
    obtain ⟨resolution', findings'⟩ := loaded
    rw [hother] at hload'
    obtain ⟨hresolution, rfl⟩ := Prod.mk.inj (Except.ok.inj hload')
    refine ⟨resolution', rfl, ?_⟩
    cases resolution
    cases resolution'
    simpa using hresolution.symm

end

/-- Two configurations that differ only in what transformers and idle targets declare of rule sets
lead to resolutions that differ only in the declarations of their stages. -/
theorem exists_load_of_withoutIdleRuleSets_eq
    (hsame : other.withoutIdleRuleSets = configuration.withoutIdleRuleSets)
    (h : load configuration replacements known = .ok (resolution, findings)) :
    ∃ resolution', load other replacements known = .ok (resolution', findings) ∧
      { resolution' with declarations := resolution.declarations } = resolution :=
  have hconfigure (declaration : TransformerSection) :
      TransformerSection.configure known { declaration with ruleSets := ∅ } =
        declaration.configure known := rfl
  exists_load_of_mapSections_eq Draft.addTarget_withoutIdleRuleSets hconfigure hsame h

theorem load_withoutUnusedEntries (configuration : Configuration) (replacements : Replacements)
    (known : Implementations) :
    load (configuration.withoutUnusedEntries known) replacements known =
      load configuration replacements known := by
  have hkeeps (declaration : TargetSection) :
      (declaration.withoutUnusedEntries known).parameters = declaration.parameters ∧
        (declaration.withoutUnusedEntries known).ruleSets = declaration.ruleSets := by
    rw [TargetSection.withoutUnusedEntries]
    split <;> exact ⟨rfl, rfl⟩
  have hdeclarations : stageDeclarations (configuration.withoutUnusedEntries known) =
      stageDeclarations configuration := by
    simp [stageDeclarations, Configuration.withoutUnusedEntries, Configuration.mapSections, hkeeps]
  have hconfigure (declaration : TransformerSection) :
      (id declaration).configure known = declaration.configure known := rfl
  have hload := load_mapSections Draft.addTarget_withoutUnusedEntries hconfigure configuration
    replacements
  refine hload.trans ?_
  cases h : load configuration replacements known with
  | error problem => rfl
  | ok loaded =>
    obtain ⟨resolution, findings⟩ := loaded
    have hshown : stageDeclarations (configuration.withoutUnusedEntries known) =
        resolution.declarations := hdeclarations.trans (load_eq_ok h).declarations.symm
    have hresolution : { resolution with
        declarations := stageDeclarations (configuration.withoutUnusedEntries known) } =
          resolution := by rw [hshown]
    exact congrArg (fun shown : Resolution => Except.ok (shown, findings)) hresolution

end Resolution

end EncodingPlan
