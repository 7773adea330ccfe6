import EncodingPlan.ClassCategory
import EncodingPlan.Datum.Basic
import EncodingPlan.GmlVersion
import EncodingPlan.Mapping.Tables
import EncodingPlan.Mode
import EncodingPlan.Parameter.Key

/-! The written forms of names, kinds, keys and records. Names are brought to normal form when
they are read; identifiers are taken as they stand. -/

namespace EncodingPlan

instance : Written (Name what) := .asText Name.text fun text => some (.ofText text)

instance : Written StageId := .asText StageId.text fun text => some ⟨text⟩

instance : Written Mode := .asText Mode.text Mode.ofText?

instance : Written TargetKind := .asName TargetKind.key TargetKind.ofKey?

instance : Written TransformerKind := .asName TransformerKind.key TransformerKind.ofKey?

instance : Written MappingKind := .asName MappingKind.key MappingKind.ofKey?

instance : Written Role := .asName Role.key fun key => [Role.target, .transformer].find? (·.key == key)

/-- The kind may come before the role, but cannot be read until it is known whose kind it is. -/
instance : Written Implementation where
  write
    | .target kind => .record [("role", write Role.target), ("kind", write kind)]
    | .transformer kind => .record [("role", write Role.transformer), ("kind", write kind)]
  read datum := do
    let fields ← match datum with
      | .record fields => some (Datum.relaxedUntil "role" fields)
      | datum => datum.fields? ["role", "kind"]
    match ← Datum.required fields "role" with
    | Role.target => .target <$> Datum.required fields "kind"
    | Role.transformer => .transformer <$> Datum.required fields "kind"

instance : Written MappingKey where
  write key := .record [("subject", write key.subject), ("rule_set", write key.ruleSet)]
  read datum := do
    let fields ← datum.fields? ["subject", "rule_set"]
    pure ⟨← Datum.required fields "subject", ← Datum.required fields "rule_set"⟩

instance : Written MappingRecord where
  write record := write record.fields
  read datum := do (MappingRecord.ofFields (← read datum)).toOption

/-- A global key is written without a scope. -/
instance : Written ParameterKey where
  write key :=
    .record <| (key.scope.toList.map fun scope => ("scope", write scope))
      ++ [("name", write key.name)]
  read datum := do
    let fields ← datum.fields? ["scope", "name"]
    pure ⟨← Datum.defaulting fields "scope" none, ← Datum.required fields "name"⟩

end EncodingPlan
