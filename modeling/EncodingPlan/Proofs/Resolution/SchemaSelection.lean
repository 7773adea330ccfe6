import EncodingPlan.Proofs.Resolution.Checks
import EncodingPlan.Resolution.SchemaSelection

/-! Which schemas a resolution selects. Three restrictions are tried in turn, each with the value of
its parameter in one scope and unless this is empty. The first one that does not accept the schema
decides: it skips the schema, or it cannot be read and is a problem. So a schema is selected if and
only if every restriction accepts it, and stays selected if some of them are taken away. -/

namespace EncodingPlan

/-! ## Trying in turn -/

/-- What comes of trials that are made one after another until one does not accept. -/
def skippedAfter : List (Except Problem Bool) → Except Problem Bool
  | [] => .ok false
  | .ok true :: trials => skippedAfter trials
  | .ok false :: _ => .ok true
  | .error problem :: _ => .error problem

section
variable {trials : List (Except Problem Bool)} {problem : Problem}

theorem skippedAfter_eq_ok_false_iff :
    skippedAfter trials = .ok false ↔ ∀ trial ∈ trials, trial = .ok true := by
  induction trials with
  | nil => simp [skippedAfter]
  | cons trial trials ih =>
    rw [List.forall_mem_cons, ← ih]
    match trial with
    | .ok true => simp [skippedAfter]
    | .ok false => simp [skippedAfter]
    | .error _ => simp [skippedAfter]

theorem skippedAfter_eq_error_iff : skippedAfter trials = .error problem ↔
    ∃ before after, trials = before ++ .error problem :: after ∧
      ∀ trial ∈ before, trial = .ok true := by
  induction trials with
  | nil => simp [skippedAfter]
  | cons trial trials ih =>
    constructor
    · intro h
      match trial, h with
      | .ok true, h =>
        obtain ⟨before, after, rfl, hbefore⟩ := ih.mp h
        exact ⟨.ok true :: before, after, rfl, List.forall_mem_cons.mpr ⟨rfl, hbefore⟩⟩
      | .error _, h =>
        obtain rfl := Except.error.inj h
        exact ⟨[], trials, rfl, by simp⟩
    · rintro ⟨before, after, heq, hbefore⟩
      cases before with
      | nil =>
        obtain ⟨rfl, -⟩ := List.cons.inj heq
        rw [skippedAfter]
      | cons first before =>
        obtain ⟨rfl, htrials⟩ := List.cons.inj heq
        obtain ⟨rfl, hrest⟩ := List.forall_mem_cons.mp hbefore
        rw [skippedAfter]
        exact ih.mpr ⟨before, after, htrials, hrest⟩

end

/-! ## Restrictions -/

/-- What can restrict the selection. -/
inductive Restriction where
  | name
  | namePattern
  | namespacePattern
deriving DecidableEq

namespace Restriction

/-- In the order in which they are tried. -/
def all : List Restriction := [name, namePattern, namespacePattern]

def parameter : Restriction → String
  | name => ParameterName.schemaName
  | namePattern => ParameterName.schemaNamePattern
  | namespacePattern => ParameterName.schemaNamespacePattern

variable {value schema ns : String} {problem : Problem} {restriction : Restriction}

/-- With this value, the restriction lets a schema of the namespace through. -/
def Accepts (value schema ns : String) : Restriction → Prop
  | name => value = schema
  | namePattern => ∃ pattern, Pattern.whole value = .ok pattern ∧ pattern.isMatch schema = true
  | namespacePattern => ∃ pattern, Pattern.whole value = .ok pattern ∧ pattern.isMatch ns = true

/-- The restriction takes a pattern, and the value cannot be read as one. -/
def Rejects (value : String) (problem : Problem) : Restriction → Prop
  | name => False
  | namePattern | namespacePattern => Pattern.whole value = .error problem

/-- Tries a schema. There may be no value. -/
def trial (value : Option String) (schema ns : String) : Restriction → Except Problem Bool
  | name => .ok (value.all (· == schema))
  | namePattern => SchemaSelection.accepts value schema
  | namespacePattern => SchemaSelection.accepts value ns

theorem accepts_eq_ok_true_iff {value : Option String} {text : String} :
    SchemaSelection.accepts value text = .ok true ↔ ∀ raw ∈ value,
      ∃ pattern, Pattern.whole raw = .ok pattern ∧ pattern.isMatch text = true := by
  cases value with
  | none => simp [SchemaSelection.accepts]
  | some raw => cases hwhole : Pattern.whole raw <;> simp [SchemaSelection.accepts, hwhole, Except.map]

theorem accepts_eq_error_iff {value : Option String} {text : String} :
    SchemaSelection.accepts value text = .error problem ↔
      ∃ raw ∈ value, Pattern.whole raw = .error problem := by
  cases value with
  | none => simp [SchemaSelection.accepts]
  | some raw => cases hwhole : Pattern.whole raw <;> simp [SchemaSelection.accepts, hwhole, Except.map]

theorem trial_eq_ok_true_iff {value : Option String} :
    restriction.trial value schema ns = .ok true ↔
      ∀ raw ∈ value, restriction.Accepts raw schema ns := by
  cases restriction with
  | name => cases value <;> simp [trial, Accepts]
  | namePattern => exact accepts_eq_ok_true_iff
  | namespacePattern => exact accepts_eq_ok_true_iff

theorem trial_eq_error_iff {value : Option String} :
    restriction.trial value schema ns = .error problem ↔
      ∃ raw ∈ value, restriction.Rejects raw problem := by
  cases restriction with
  | name => simp [trial, Rejects]
  | namePattern => exact accepts_eq_error_iff
  | namespacePattern => exact accepts_eq_error_iff

/-- The problem names the pattern as it was given. -/
theorem Rejects.eq_invalidPattern (h : restriction.Rejects value problem) :
    ∃ reason, problem = .invalidPattern value reason := by
  have hwhole : Pattern.whole value = .error problem := by
    cases restriction with
    | name => exact h.elim
    | namePattern => exact h
    | namespacePattern => exact h
  rw [Pattern.whole] at hwhole
  split at hwhole
  · cases hwhole
  · exact ⟨_, (Except.error.inj hwhole).symm⟩

end Restriction

namespace Resolution

variable {resolution : Resolution} {target : Option TargetKind} {schema ns : String}

/-- Where the parameter of a restriction stands for a kind of target, or for all of them. -/
def restrictionKey (target : Option TargetKind) (restriction : Restriction) : ParameterKey :=
  match target with
  | some kind => .inScope kind.implementationName restriction.parameter
  | none => .global restriction.parameter

def restrictionValue? (resolution : Resolution) (target : Option TargetKind)
    (restriction : Restriction) : Option String :=
  ParameterSource.value? resolution.parameters (restrictionKey target restriction)

/-- The restriction is made, with a value that is not empty. -/
def Restricts (resolution : Resolution) (target : Option TargetKind) (restriction : Restriction)
    (value : String) : Prop :=
  resolution.restrictionValue? target restriction = some value ∧ value ≠ ""

/-- The restriction accepts the schema, if it is made. -/
def Passes (resolution : Resolution) (target : Option TargetKind) (schema ns : String)
    (restriction : Restriction) : Prop :=
  ∀ value, resolution.Restricts target restriction value → restriction.Accepts value schema ns

/-- The restriction is made with a value that cannot be read. -/
def FailsAt (resolution : Resolution) (target : Option TargetKind) (problem : Problem)
    (restriction : Restriction) : Prop :=
  ∃ value reason, resolution.Restricts target restriction value ∧
    restriction.Rejects value problem ∧ problem = .invalidPattern value reason

/-- A restriction fails, and the ones that are tried before it accept the schema. -/
def Fails (resolution : Resolution) (target : Option TargetKind) (schema ns : String)
    (problem : Problem) : Prop :=
  ∃ before restriction after, Restriction.all = before ++ restriction :: after ∧
    (∀ earlier ∈ before, resolution.Passes target schema ns earlier) ∧
    resolution.FailsAt target problem restriction

/-- Schemas are selected by the restrictions as they are made for the kind of target. -/
structure SelectsByRestrictions (resolution : Resolution) (target : Option TargetKind) : Prop where
  selected_iff : ∀ schema ns, resolution.skipsSchema target schema ns = .ok false ↔
    ∀ restriction, resolution.Passes target schema ns restriction
  fails_iff : ∀ schema ns problem, resolution.skipsSchema target schema ns = .error problem ↔
    resolution.Fails target schema ns problem
  skipped_iff : ∀ schema ns, resolution.skipsSchema target schema ns = .ok true ↔
    ¬ (∀ restriction, resolution.Passes target schema ns restriction) ∧
      ∀ problem, ¬ resolution.Fails target schema ns problem
  /-- Nothing else is read. -/
  reads : ∀ other : Resolution, (∀ restriction, other.restrictionValue? target restriction =
      resolution.restrictionValue? target restriction) →
    ∀ schema ns, other.skipsSchema target schema ns = resolution.skipsSchema target schema ns
  /-- What is selected stays selected when restrictions are taken away. -/
  cleared : ∀ other : Resolution, (∀ restriction value,
      other.Restricts target restriction value → resolution.Restricts target restriction value) →
    ∀ schema ns, resolution.skipsSchema target schema ns = .ok false →
      other.skipsSchema target schema ns = .ok false

/-- Tries a schema with the value of the restriction. -/
def trial (resolution : Resolution) (target : Option TargetKind) (schema ns : String)
    (restriction : Restriction) : Except Problem Bool :=
  restriction.trial ((resolution.restrictionValue? target restriction).filter (!·.isEmpty)) schema ns

theorem skipsSchema_eq (resolution : Resolution) (target : Option TargetKind) (schema ns : String) :
    resolution.skipsSchema target schema ns =
      skippedAfter (Restriction.all.map (resolution.trial target schema ns)) := by
  have hselection : resolution.schemaSelection target = {
      name := (resolution.restrictionValue? target .name).filter (!·.isEmpty)
      namePattern := (resolution.restrictionValue? target .namePattern).filter (!·.isEmpty)
      namespacePattern :=
        (resolution.restrictionValue? target .namespacePattern).filter (!·.isEmpty) } := by
    cases target <;> rfl
  rw [skipsSchema, hselection, SchemaSelection.skips]
  simp only [Restriction.all, List.map_cons, List.map_nil, trial, Restriction.trial]
  split
  · next hname =>
    rw [hname, skippedAfter]
    match SchemaSelection.accepts _ schema, SchemaSelection.accepts _ ns with
    | .ok true, .ok true | .ok true, .ok false | .ok true, .error _ => rfl
    | .ok false, _ | .error _, _ => rfl
  · next hname => rw [Bool.eq_false_iff.mpr hname, skippedAfter]

theorem mem_filter_iff_restricts {restriction : Restriction} {value : String} :
    value ∈ (resolution.restrictionValue? target restriction).filter (!·.isEmpty) ↔
      resolution.Restricts target restriction value := by
  simp [Restricts, Option.filter_eq_some_iff]

theorem trial_eq_ok_true_iff {restriction : Restriction} :
    resolution.trial target schema ns restriction = .ok true ↔
      resolution.Passes target schema ns restriction := by
  simp only [trial, Restriction.trial_eq_ok_true_iff, mem_filter_iff_restricts, Passes]

theorem trial_eq_error_iff {restriction : Restriction} {problem : Problem} :
    resolution.trial target schema ns restriction = .error problem ↔
      resolution.FailsAt target problem restriction := by
  simp only [trial, Restriction.trial_eq_error_iff, mem_filter_iff_restricts, FailsAt]
  constructor
  · rintro ⟨value, hvalue, hrejects⟩
    obtain ⟨reason, hproblem⟩ := hrejects.eq_invalidPattern
    exact ⟨value, reason, hvalue, hrejects, hproblem⟩
  · rintro ⟨value, _, hvalue, hrejects, _⟩
    exact ⟨value, hvalue, hrejects⟩

theorem skipsSchema_eq_ok_false_iff : resolution.skipsSchema target schema ns = .ok false ↔
    ∀ restriction, resolution.Passes target schema ns restriction := by
  have hall (restriction : Restriction) : restriction ∈ Restriction.all := by
    cases restriction <;> decide
  rw [skipsSchema_eq, skippedAfter_eq_ok_false_iff, List.forall_mem_map]
  simp only [trial_eq_ok_true_iff, hall, true_implies]

theorem skipsSchema_eq_error_iff {problem : Problem} :
    resolution.skipsSchema target schema ns = .error problem ↔
      resolution.Fails target schema ns problem := by
  rw [skipsSchema_eq, skippedAfter_eq_error_iff]
  constructor
  · rintro ⟨_, _, heq, hbefore⟩
    obtain ⟨before, rest, hall, rfl, hrest⟩ := List.map_eq_append_iff.mp heq
    obtain ⟨restriction, after, rfl, htrial, -⟩ := List.map_eq_cons_iff.mp hrest
    refine ⟨before, restriction, after, hall, fun earlier hearlier => ?_,
      trial_eq_error_iff.mp htrial⟩
    exact trial_eq_ok_true_iff.mp (List.forall_mem_map.mp hbefore earlier hearlier)
  · rintro ⟨before, restriction, after, hall, hbefore, hfails⟩
    refine ⟨before.map (resolution.trial target schema ns),
      after.map (resolution.trial target schema ns), ?_, List.forall_mem_map.mpr fun earlier hmem =>
        trial_eq_ok_true_iff.mpr (hbefore earlier hmem)⟩
    rw [hall, List.map_append, List.map_cons, trial_eq_error_iff.mpr hfails]

theorem selectsByRestrictions (resolution : Resolution) (target : Option TargetKind) :
    resolution.SelectsByRestrictions target where
  selected_iff _ _ := skipsSchema_eq_ok_false_iff
  fails_iff _ _ _ := skipsSchema_eq_error_iff
  skipped_iff schema ns := by
    simp only [← skipsSchema_eq_ok_false_iff, ← skipsSchema_eq_error_iff]
    match resolution.skipsSchema target schema ns with
    | .ok true | .ok false | .error _ => simp
  reads other hvalues schema ns := by
    have htrial : other.trial target schema ns = resolution.trial target schema ns :=
      funext fun restriction => by rw [trial, trial, hvalues]
    rw [skipsSchema_eq, skipsSchema_eq, htrial]
  cleared other hvalues schema ns hselected := by
    rw [skipsSchema_eq_ok_false_iff] at hselected ⊢
    exact fun restriction value hvalue =>
      hselected restriction value (hvalues restriction value hvalue)

end Resolution

end EncodingPlan
