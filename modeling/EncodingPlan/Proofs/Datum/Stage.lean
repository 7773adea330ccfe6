import EncodingPlan.Datum.Stage
import EncodingPlan.Proofs.Datum.ReadBack

/-! Reading undoes writing for keys, records, implementations and stages. A stage is written with
fields in front that its parts do not know, and its reader first lets empty records pass for
nothing, which leaves what was written as it is. -/

namespace EncodingPlan

/-! ## Keys and records -/

instance : ReadBack MappingKey where
  read_write key := by
    unfold instWrittenMappingKey
    simp

/-- The fields of a record are of a number that a record may have. -/
instance : ReadBack MappingRecord where
  read_write record := by
    have hfields : MappingRecord.ofFields record.fields = .ok record :=
      dif_pos ⟨record.nonempty, record.atMostFour⟩
    change (read (write record.fields) : Option (List String)).bind
      (fun fields => (MappingRecord.ofFields fields).toOption) = _
    rw [read_write, Option.bind_some, hfields]
    rfl

instance : ReadBack ParameterKey where
  read_write key := by
    obtain ⟨scope, name⟩ := key
    unfold instWrittenParameterKey
    cases scope with
    | none => simp
    | some scope => simp [read_option]

/-! ## Implementations -/

instance : ReadBack Implementation where
  read_write
    | .target kind => by
      unfold instWrittenImplementation
      simp
    | .transformer kind => by
      unfold instWrittenImplementation
      simp

/-! ## Inputs, transformers and targets -/

variable {fields : List (String × Datum)} {name : String} {datum : Datum}

theorem Input.names_toFields (input : Input) : input.toFields.map Prod.fst = Input.fieldNames := rfl

theorem Transformer.names_toFields (t : Transformer) :
    t.toFields.map Prod.fst = Transformer.fieldNames := rfl

theorem Target.names_toFields (t : Target) : t.toFields.map Prod.fst = Target.fieldNames := rfl

theorem Input.ofFields?_toFields (input : Input) : Input.ofFields? input.toFields = some input := by
  simp [Input.ofFields?, Input.toFields]

theorem Transformer.ofFields?_toFields (t : Transformer) :
    Transformer.ofFields? t.toFields = some t := by
  simp [Transformer.ofFields?, Transformer.toFields]

theorem Target.ofFields?_toFields (t : Target) : Target.ofFields? t.toFields = some t := by
  simp [Target.ofFields?, Target.toFields]

/-- A field that an input does not have. -/
theorem Input.ofFields?_cons (h : name ∉ Input.fieldNames) :
    Input.ofFields? ((name, datum) :: fields) = Input.ofFields? fields := by
  simp only [Input.fieldNames, List.mem_cons, not_or] at h
  simp [Input.ofFields?, h]

theorem Transformer.ofFields?_cons (h : name ∉ Transformer.fieldNames) :
    Transformer.ofFields? ((name, datum) :: fields) = Transformer.ofFields? fields := by
  simp only [Transformer.fieldNames, List.mem_cons, not_or] at h
  simp [Transformer.ofFields?, h]

theorem Target.ofFields?_cons (h : name ∉ Target.fieldNames) :
    Target.ofFields? ((name, datum) :: fields) = Target.ofFields? fields := by
  simp only [Target.fieldNames, List.mem_cons, not_or] at h
  simp [Target.ofFields?, h]

instance : ReadBack Input := ⟨Input.ofFields?_toFields⟩

instance : ReadBack Transformer := ⟨Transformer.ofFields?_toFields⟩

instance : ReadBack Target := ⟨Target.ofFields?_toFields⟩

/-! ## Stages -/

theorem Input.map_relaxed_toFields (input : Input) :
    input.toFields.map (fun (name, value) => (name, value.relaxed)) = input.toFields := rfl

theorem Transformer.map_relaxed_toFields (t : Transformer) :
    t.toFields.map (fun (name, value) => (name, value.relaxed)) = t.toFields := by
  obtain ⟨id, kind, mode, predecessor⟩ := t
  cases predecessor <;> rfl

theorem Target.map_relaxed_toFields (t : Target) :
    t.toFields.map (fun (name, value) => (name, value.relaxed)) = t.toFields := rfl

theorem read_relaxed_text (text : String) :
    (read (Datum.text text).relaxed : Option String) = some text := rfl

theorem relaxed_write_natural (n : Nat) : (write n).relaxed = write n := rfl

/-- The field that tells what the stage is decides which reader reads the others, and is itself
unknown to that reader. -/
instance : ReadBack Stage where
  read_write
    | .input i => by
      have hstage : "stage" ∉ i.toFields.map Prod.fst := by
        rw [Input.names_toFields]
        decide
      unfold instWrittenStage
      simp only [List.map_cons, Input.map_relaxed_toFields, Datum.required_cons_self hstage,
        read_relaxed_text]
      rw [Option.bind_eq_bind, Option.bind_some, Input.ofFields?_cons (by decide),
        Input.ofFields?_toFields]
      rfl
    | .transformer t => by
      have hstage : "stage" ∉ t.toFields.map Prod.fst := by
        rw [Transformer.names_toFields]
        decide
      unfold instWrittenStage
      simp only [List.map_cons, Transformer.map_relaxed_toFields, Datum.required_cons_self hstage,
        read_relaxed_text]
      rw [Option.bind_eq_bind, Option.bind_some, Transformer.ofFields?_cons (by decide),
        Transformer.ofFields?_toFields]
      rfl
    | .target ordinal t => by
      have hstage : "stage" ∉ (("ordinal", write ordinal) :: t.toFields).map Prod.fst := by
        simp [Target.names_toFields, Target.fieldNames]
      have hordinal : "ordinal" ∉ t.toFields.map Prod.fst := by
        rw [Target.names_toFields]
        decide
      unfold instWrittenStage
      simp only [List.map_cons, Target.map_relaxed_toFields, relaxed_write_natural,
        Datum.required_cons_self hstage, read_relaxed_text]
      rw [Option.bind_eq_bind, Option.bind_some, Datum.required_cons_of_ne (by decide),
        Datum.required_cons_self hordinal, read_write, Target.ofFields?_cons (by decide),
        Target.ofFields?_cons (by decide), Target.ofFields?_toFields]
      rfl

end EncodingPlan
