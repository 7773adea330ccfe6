import EncodingPlan.Implementations
import EncodingPlan.Proofs.LastEntry
import EncodingPlan.Proofs.Text.NormalForm

/-! What texts stand for after registrations in any order. Of several registrations of a name the
last one counts, whatever role its implementation plays. A name is kept with the blanks around it,
but looked up without: what is registered under a name with blanks around it is never found. -/

namespace EncodingPlan

/-- An implementation, and a name for it. -/
structure Registration where
  name : String
  implementation : Implementation
deriving DecidableEq

/-- The text is the name but for the blanks around the text. There are no blanks around the name. -/
def Registration.IsNamedBy (registered : Registration) (text : String) : Prop :=
  Text.Trimmed registered.name.toList ∧ Text.trim registered.name = Text.trim text

theorem Registration.isNamedBy_iff {registered : Registration} {text : String} :
    registered.IsNamedBy text ↔ registered.name = Text.trim text := by
  constructor
  · rintro ⟨htrimmed, heq⟩
    rwa [htrimmed.trim_eq] at heq
  · intro h
    have htrimmed : Text.Trimmed registered.name.toList := by
      rw [h]
      exact Text.trimmed_trim text
    exact ⟨htrimmed, htrimmed.trim_eq.trans h⟩

namespace Implementations

/-- Makes registrations one after another. -/
def registerAll (known : Implementations) (registrations : List Registration) : Implementations :=
  registrations.foldl (fun known registered =>
    known.register registered.name registered.implementation) known

/-- Every built-in implementation under its full name and under the last segment of it. -/
def builtInRegistrations : List Registration :=
  Implementation.all.flatMap fun implementation =>
    (namesOf implementation).map fun name => ⟨name, implementation⟩

theorem builtIn_eq : builtIn = registerAll ∅ builtInRegistrations := by
  rw [registerAll, builtInRegistrations, List.foldl_flatMap]
  simp only [List.foldl_map]
  rfl

theorem registerAll_eq (known : Implementations) (registrations : List Registration) :
    known.registerAll registrations = registrations.foldl
      (Dict.enter Registration.name fun registered => some registered.implementation) known := rfl

theorem registerAll_append (known : Implementations) (earlier later : List Registration) :
    known.registerAll (earlier ++ later) = (known.registerAll earlier).registerAll later :=
  List.foldl_append

/-- The text stands for the implementation, and can be used for the role of this one only. -/
structure StandsFor (known : Implementations) (text : String) (implementation : Implementation) :
    Prop where
  resolve_eq : known.resolve text = .ok implementation
  target_iff : ∀ kind, known.target text = .ok kind ↔ implementation = .target kind
  transformer_iff : ∀ kind, known.transformer text = .ok kind ↔ implementation = .transformer kind
  noTarget : implementation.role ≠ .target →
    known.target text = .error (.roleMismatch text .target)
  noTransformer : implementation.role ≠ .transformer →
    known.transformer text = .error (.roleMismatch text .transformer)

/-- The text stands for nothing, and is refused as it was given. -/
structure StandsForNothing (known : Implementations) (text : String) : Prop where
  resolve_eq : known.resolve text = .error (.unknownImplementation text)
  target_eq : known.target text = .error (.unknownImplementation text)
  transformer_eq : known.transformer text = .error (.unknownImplementation text)

section
variable {known : Implementations} {text : String} {implementation : Implementation}

theorem standsFor_of_get? (h : known.get? (Text.trim text) = some implementation) :
    known.StandsFor text implementation := by
  have hresolve : known.resolve text = .ok implementation := by rw [resolve, h]
  cases implementation with
  | target kind =>
    have htarget : known.target text = .ok kind := by
      rw [target, hresolve]
      rfl
    have htransformer : known.transformer text = .error (.roleMismatch text .transformer) := by
      rw [transformer, hresolve]
      rfl
    exact ⟨hresolve, fun other => by simp [htarget], fun other => by simp [htransformer],
      fun hrole => absurd rfl hrole, fun _ => htransformer⟩
  | transformer kind =>
    have htarget : known.target text = .error (.roleMismatch text .target) := by
      rw [target, hresolve]
      rfl
    have htransformer : known.transformer text = .ok kind := by
      rw [transformer, hresolve]
      rfl
    exact ⟨hresolve, fun other => by simp [htarget], fun other => by simp [htransformer],
      fun _ => htarget, fun hrole => absurd rfl hrole⟩

theorem standsForNothing_of_get? (h : known.get? (Text.trim text) = none) :
    known.StandsForNothing text := by
  have hresolve : known.resolve text = .error (.unknownImplementation text) := by rw [resolve, h]
  refine ⟨hresolve, ?_, ?_⟩
  · rw [target, hresolve]
    rfl
  · rw [transformer, hresolve]
    rfl

theorem get?_register (known : Implementations) (registered : Registration) (text : String) :
    (known.register registered.name registered.implementation).get? (Text.trim text) =
      if Text.trim text = registered.name then some registered.implementation
      else known.get? (Text.trim text) :=
  known.get?_insert ..

end

/-- Texts stand for the last of the implementations that were registered under them. -/
structure Resolves (registrations : List Registration) (known : Implementations) : Prop where
  last : ∀ text registered, LastWith (Registration.IsNamedBy · text) registrations registered →
    known.StandsFor text registered.implementation
  other : ∀ text, (∀ registered ∈ registrations, ¬ registered.IsNamedBy text) →
    known.StandsForNothing text
  /-- A further registration counts at once, -/
  newest : ∀ (registered : Registration) (text : String), registered.IsNamedBy text →
    (known.register registered.name registered.implementation).StandsFor text
      registered.implementation
  /-- but with blanks around its name it changes nothing. -/
  lost : ∀ registered : Registration, ¬ Text.Trimmed registered.name.toList → ∀ text,
    (known.register registered.name registered.implementation).resolve text = known.resolve text

theorem resolves_registerAll (registrations : List Registration) :
    Resolves registrations (registerAll ∅ registrations) where
  last text registered hlast := by
    simp only [Registration.isNamedBy_iff] at hlast
    rw [registerAll_eq]
    exact standsFor_of_get? (Dict.get?_foldl_enter_of_lastWith hlast)
  other text hnone := by
    simp only [Registration.isNamedBy_iff] at hnone
    rw [registerAll_eq]
    exact standsForNothing_of_get? (Dict.get?_foldl_enter_of_forall_ne hnone)
  newest registered text hnamed := by
    rw [Registration.isNamedBy_iff] at hnamed
    exact standsFor_of_get? (by rw [get?_register, if_pos hnamed.symm])
  lost registered hblank text := by
    have hne : Text.trim text ≠ registered.name := by
      intro heq
      exact hblank (heq ▸ Text.trimmed_trim text)
    rw [resolve, resolve, get?_register, if_neg hne]

/-- Registrations count alike whether they begin with nothing or follow the built-in ones. -/
theorem resolves_after (registrations : List Registration) :
    Resolves registrations (registerAll ∅ registrations) ∧
      Resolves (builtInRegistrations ++ registrations) (registerAll builtIn registrations) := by
  refine ⟨resolves_registerAll registrations, ?_⟩
  rw [builtIn_eq, ← registerAll_append]
  exact resolves_registerAll _

/-- A name with a blank before it does not stand for what is registered under it. -/
theorem not_resolves_of_blank :
    (registerAll ∅ [⟨" xsd", .target .xmlSchema⟩]).resolve " xsd" =
      .error (.unknownImplementation " xsd") := by
  rfl

end Implementations

end EncodingPlan
