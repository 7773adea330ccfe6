import EncodingPlan.Resolution.Basic

/-! Which schemas are selected. Three parameters restrict the selection, each unless it is empty:
the name, a pattern for the name and a pattern for the namespace. They are tried in this order, and
a pattern is read only when everything before it accepts the schema. -/

namespace EncodingPlan

structure SchemaSelection where
  name : Option String
  namePattern : Option String
  namespacePattern : Option String
deriving DecidableEq

namespace SchemaSelection

/-- Whether a pattern, if there is one, matches the whole of a text. -/
def accepts (pattern : Option String) (text : String) : Except Problem Bool :=
  match pattern with
  | some raw => (Pattern.whole raw).map (·.isMatch text)
  | none => .ok true

def skips (selection : SchemaSelection) (schema ns : String) : Except Problem Bool :=
  if selection.name.all (· == schema) then do
    if ← accepts selection.namePattern schema then
      pure !(← accepts selection.namespacePattern ns)
    else
      pure true
  else
    .ok true

end SchemaSelection

namespace Resolution

/-- The selection of a kind of target, or the global one; neither stands in for the other. -/
def schemaSelection (resolution : Resolution) (target : Option TargetKind) : SchemaSelection :=
  let wanted (name : String) : Option String :=
    let value := match target with
      | some kind => ParameterSource.getScoped? resolution.parameters kind.implementationName name
      | none => ParameterSource.get? resolution.parameters name
    value.filter (!·.isEmpty)
  { name := wanted ParameterName.schemaName
    namePattern := wanted ParameterName.schemaNamePattern
    namespacePattern := wanted ParameterName.schemaNamespacePattern }

def skipsSchema (resolution : Resolution) (target : Option TargetKind) (schema ns : String) :
    Except Problem Bool :=
  (resolution.schemaSelection target).skips schema ns

end Resolution

end EncodingPlan
