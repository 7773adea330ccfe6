import EncodingPlan.Configuration.Stages
import EncodingPlan.Proofs.Resolution.Checks

/-! What the sections of a configuration are refused for, and the stages of those that are not. -/

namespace EncodingPlan

/-! ## Checks of single sections -/

namespace Check

variable (known : Implementations)

/-- There is no implementation of the name. -/
def unknownImplementation (name : String) : Check := fun problem =>
  known.get? (Text.trim name) = none ∧ problem = .unknownImplementation name

/-- The implementation of the name plays another role. -/
def wrongRole (role : Role) (name : String) : Check := fun problem =>
  (∃ implementation, known.get? (Text.trim name) = some implementation ∧
    implementation.role ≠ role) ∧ problem = .roleMismatch name role

/-- A mode is given, and it is none of the modes. -/
def invalidMode (raw : Option String) : Check := fun problem =>
  ∃ text, raw = some text ∧ Mode.ofText? text = none ∧ problem = .invalidMode text

/-- The text is not that of a version of GML. -/
def unsupportedVersion (raw : String) : Check := fun problem =>
  (∀ version : GmlVersion, version.text ≠ raw) ∧ problem = .invalidGmlVersion raw

/-- The values ask for a version of GML, and it is not supported. -/
def unsupportedVersionIn (values : ParameterValues) : Check := fun problem =>
  ∃ raw, values.get? ParameterName.gmlVersion = some raw ∧ unsupportedVersion raw problem

/-- The checks of a transformer or target. -/
def ofStage (role : Role) (name : String) (mode : Option String) (parameters : ParameterValues) :
    List Check :=
  [unknownImplementation known name, wrongRole known role name, invalidMode mode,
    unsupportedVersionIn parameters]

end Check

/-! ## What is checked, and what comes of it -/

section
variable {known : Implementations} {name : String}

theorem GmlVersion.parse_guards (raw : String) :
    Guards [.unsupportedVersion raw] (GmlVersion.parse raw) := by
  have hmem (version : GmlVersion) : version ∈ all := by cases version <;> decide
  rw [parse]
  cases hfind : all.find? (·.text == raw) with
  | some version =>
    have hversion := List.find?_some hfind
    refine .of_cases (.inl ⟨version, rfl, fun problem hproblem => ?_⟩)
    exact hproblem.1 version (beq_iff_eq.mp hversion)
  | none =>
    refine .of_cases (.inr ⟨.invalidGmlVersion raw, rfl, fun problem => and_iff_right ?_⟩)
    intro version heq
    exact List.find?_eq_none.mp hfind version (hmem version) (beq_iff_eq.mpr heq)

theorem ParameterValues.checkGmlVersion_guards (values : ParameterValues) :
    Guards [.unsupportedVersionIn values] values.checkGmlVersion := by
  rw [checkGmlVersion]
  cases hraw : values.get? ParameterName.gmlVersion with
  | none =>
    refine .of_cases (.inl ⟨(), rfl, ?_⟩)
    rintro problem ⟨raw, hsome, _⟩
    rw [hraw] at hsome
    cases hsome
  | some raw =>
    intro problem
    have hguards := (GmlVersion.parse_guards raw).map (f := fun _ => ()) problem
    rw [FirstFailure.singleton_iff] at hguards ⊢
    refine hguards.trans ⟨fun h => ⟨raw, hraw, h⟩, ?_⟩
    rintro ⟨other, hother, h⟩
    rw [hraw, Option.some.injEq] at hother
    rwa [hother]

/-- The mode that a section declares, if it is one. -/
def Mode.declared? (raw : Option String) : Option Mode :=
  match raw with
  | some text => ofText? text
  | none => some .enabled

theorem Mode.ofDeclaration_eq_ok_iff {raw : Option String} {mode : Mode} :
    ofDeclaration raw = .ok mode ↔ declared? raw = some mode := by
  cases raw with
  | none => simp [ofDeclaration, declared?]
  | some text => cases hmode : ofText? text <;> simp [ofDeclaration, declared?, parse, hmode]

theorem Mode.ofDeclaration_guards (raw : Option String) :
    Guards [.invalidMode raw] (ofDeclaration raw) := by
  cases raw with
  | none =>
    refine .of_cases (.inl ⟨.enabled, rfl, ?_⟩)
    rintro problem ⟨text, hsome, _⟩
    cases hsome
  | some text =>
    rw [ofDeclaration, parse]
    cases hmode : ofText? text with
    | some mode =>
      refine .of_cases (.inl ⟨mode, rfl, ?_⟩)
      rintro problem ⟨other, hother, hnone, _⟩
      obtain rfl := Option.some.inj hother
      rw [hmode] at hnone
      cases hnone
    | none =>
      refine .of_cases (.inr ⟨.invalidMode text, rfl, fun problem => ?_⟩)
      simp [Check.invalidMode, hmode]

namespace Implementations

/-- The target that the name stands for, if it stands for one. -/
def target? (known : Implementations) (name : String) : Option TargetKind :=
  match known.get? (Text.trim name) with
  | some (.target kind) => some kind
  | _ => none

/-- The transformer that the name stands for, if it stands for one. -/
def transformer? (known : Implementations) (name : String) : Option TransformerKind :=
  match known.get? (Text.trim name) with
  | some (.transformer kind) => some kind
  | _ => none

theorem target_eq_ok_iff {kind : TargetKind} :
    known.target name = .ok kind ↔ known.target? name = some kind := by
  rw [target, target?, resolve]
  cases known.get? (Text.trim name) with
  | none => simp [Bind.bind, Except.bind]
  | some implementation => cases implementation <;> simp [Bind.bind, Except.bind]

theorem transformer_eq_ok_iff {kind : TransformerKind} :
    known.transformer name = .ok kind ↔ known.transformer? name = some kind := by
  rw [transformer, transformer?, resolve]
  cases known.get? (Text.trim name) with
  | none => simp [Bind.bind, Except.bind]
  | some implementation => cases implementation <;> simp [Bind.bind, Except.bind]

/-- A name is looked up, and then what it stands for must play the role. -/
private theorem resolve_guards {α : Type} {role : Role} {f : Implementation → Except Problem α}
    (hrole : ∀ implementation, implementation.role = role → ∃ a, f implementation = .ok a)
    (hother : ∀ implementation, implementation.role ≠ role →
      f implementation = .error (.roleMismatch name role)) :
    Guards [.unknownImplementation known name, .wrongRole known role name]
      (known.resolve name >>= f) := by
  have hresolve : Guards [.unknownImplementation known name] (known.resolve name) := by
    rw [resolve]
    cases hname : known.get? (Text.trim name) with
    | some implementation =>
      refine .of_cases (.inl ⟨implementation, rfl, fun problem hproblem => ?_⟩)
      rw [hproblem.1] at hname
      cases hname
    | none => exact .of_cases (.inr ⟨.unknownImplementation name, rfl, fun problem =>
        and_iff_right hname⟩)
  refine hresolve.bind fun implementation himplementation => ?_
  have hname : known.get? (Text.trim name) = some implementation := by
    rw [resolve] at himplementation
    split at himplementation
    · rename_i hname
      rwa [← Except.ok.inj himplementation]
    · cases himplementation
  by_cases hplays : implementation.role = role
  · obtain ⟨a, ha⟩ := hrole implementation hplays
    refine .of_cases (.inl ⟨a, ha, ?_⟩)
    rintro problem ⟨⟨other, hsome, hne⟩, _⟩
    rw [hname, Option.some.injEq] at hsome
    exact hne (hsome ▸ hplays)
  · exact .of_cases (.inr ⟨.roleMismatch name role, hother implementation hplays, fun problem =>
      and_iff_right ⟨implementation, hname, hplays⟩⟩)

theorem target_guards (known : Implementations) (name : String) :
    Guards [.unknownImplementation known name, .wrongRole known .target name]
      (known.target name) := by
  refine resolve_guards (fun implementation hrole => ?_) fun implementation hrole => ?_
  · cases implementation with
    | target kind => exact ⟨kind, rfl⟩
    | transformer kind => cases hrole
  · cases implementation with
    | target kind => exact absurd rfl hrole
    | transformer kind => rfl

theorem transformer_guards (known : Implementations) (name : String) :
    Guards [.unknownImplementation known name, .wrongRole known .transformer name]
      (known.transformer name) := by
  refine resolve_guards (fun implementation hrole => ?_) fun implementation hrole => ?_
  · cases implementation with
    | target kind => cases hrole
    | transformer kind => exact ⟨kind, rfl⟩
  · cases implementation with
    | target kind => rfl
    | transformer kind => exact absurd rfl hrole

end Implementations

end

end EncodingPlan
