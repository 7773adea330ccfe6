import EncodingPlan.Datum.Terms
import EncodingPlan.Stage

/-! The written forms of stages. A stage is written like the input, transformer or target that it
is, with a field that tells which; in a list, that field comes first. A target with its place among
the targets is never given as a list. -/

namespace EncodingPlan

namespace Input

def toFields (input : Input) : List (String × Datum) := [("id", write input.id)]

def fieldNames : List String := ["id"]

def ofFields? (fields : List (String × Datum)) : Option Input := do
  pure ⟨← Datum.required fields "id"⟩

end Input

namespace Transformer

def toFields (t : Transformer) : List (String × Datum) :=
  [("id", write t.id), ("kind", write t.kind), ("mode", write t.mode),
   ("predecessor", write t.predecessor)]

def fieldNames : List String := ["id", "kind", "mode", "predecessor"]

def ofFields? (fields : List (String × Datum)) : Option Transformer := do
  pure {
    id := ← Datum.required fields "id"
    kind := ← Datum.required fields "kind"
    mode := ← Datum.defaulting fields "mode" .enabled
    predecessor := ← Datum.defaulting fields "predecessor" none }

end Transformer

namespace Target

def toFields (t : Target) : List (String × Datum) :=
  [("kind", write t.kind), ("mode", write t.mode), ("predecessors", write t.predecessors)]

def fieldNames : List String := ["kind", "mode", "predecessors"]

def ofFields? (fields : List (String × Datum)) : Option Target := do
  pure {
    kind := ← Datum.required fields "kind"
    mode := ← Datum.defaulting fields "mode" .enabled
    predecessors := ← Datum.defaulting fields "predecessors" [] }

end Target

instance : Written Input where
  write i := .record i.toFields
  read datum := (datum.fields? Input.fieldNames).bind Input.ofFields?

instance : Written Transformer where
  write t := .record t.toFields
  read datum := (datum.fields? Transformer.fieldNames).bind Transformer.ofFields?

instance : Written Target where
  write t := .record t.toFields
  read datum := (datum.fields? Target.fieldNames).bind Target.ofFields?

instance : Written Stage where
  write
    | .input i => .record (("stage", .text "input") :: i.toFields)
    | .transformer t => .record (("stage", .text "transformer") :: t.toFields)
    | .target ordinal t =>
      .record (("stage", .text "target") :: ("ordinal", write ordinal) :: t.toFields)
  read
    | .record fields => do
      let fields := fields.map fun (name, value) => (name, value.relaxed)
      match ← Datum.required (α := String) fields "stage" with
      | "input" => .input <$> Input.ofFields? fields
      | "transformer" => .transformer <$> Transformer.ofFields? fields
      | "target" => .target <$> Datum.required fields "ordinal" <*> Target.ofFields? fields
      | _ => none
    | .list (.text tag :: items) =>
      let rest := Datum.list (items.map Datum.relaxed)
      match tag with
      | "input" => .input <$> read rest
      | "transformer" => .transformer <$> read rest
      | _ => none
    | _ => none

end EncodingPlan
