import EncodingPlan.Configuration.Mappings
import EncodingPlan.Configuration.RuleSets
import EncodingPlan.Configuration.Stages
import EncodingPlan.Vocabulary

/-! What loading gathers before it looks at the whole: the sections of a configuration are added to
a draft one after another, first those with global parameters, then the targets. A section that is
refused leaves no draft. Targets that do not run keep their parameters and map entries, but declare
no rule sets. -/

namespace EncodingPlan

/-- The values as they are written under the keys of their names. -/
def ParameterValues.writes (values : ParameterValues) (key : String → ParameterKey) :
    List (ParameterKey × String) :=
  values.entries.map fun (name, value) => (key name, value)

structure Draft where
  registry : Registry := .standard
  mappings : MappingTables := ∅
  parameters : ParameterStore
  vocabulary : Vocabulary := ∅
  /-- The modes of the kinds of targets that were added. -/
  targetModes : Dict TargetKind Mode := ∅
  /-- In the order of declaration. -/
  targets : List Target := []
  findings : Findings := []

namespace Draft

variable (draft : Draft)

/-- The standard rules and values, and nothing of a configuration. -/
def start (replacements : Replacements) : Draft where
  parameters := ParameterStore.seed { replacements }

/-- Adds a section of global parameters. -/
def addGlobals (values : ParameterValues) : Except Problem Draft := do
  values.checkGmlVersion
  pure { draft with parameters := draft.parameters.setAll (values.writes .global) }

/-- Adds the input section but for its parameters. -/
def addInput (input : InputSection) : Draft :=
  { draft with vocabulary := draft.vocabulary.addInput input }

/-- Of several targets of one kind, the first one that runs gives the mode. -/
def addMode (kind : TargetKind) (mode : Mode) : Draft :=
  if (draft.targetModes.get? kind).all Mode.isDisabled then
    { draft with targetModes := draft.targetModes.insert kind mode }
  else draft

def addRuleSets (declarations : List (String × RuleSetDeclaration)) : Draft :=
  let (registry, found) := draft.registry.declareAll declarations
  { draft with registry, findings := draft.findings ++ found }

/-- Adds parameters in the scope of a kind of target. -/
def addScoped (kind : TargetKind) (values : ParameterValues) : Draft :=
  { draft with
    parameters := draft.parameters.setAll (values.writes (.inScope kind.implementationName)) }

/-- Adds the map entries of the sort that the kind of target reads, and the namespaces of targets
that write XML schemas. -/
def addEntries (kind : TargetKind) (declaration : TargetSection) : Except Problem Draft :=
  if kind.usesXsdMapEntries then do
    let mappings ← declaration.xsdMapEntries.foldlM MappingTables.addXsdMapEntry draft.mappings
    let vocabulary := draft.vocabulary.addNamespaces declaration.namespaces
    pure { draft with mappings, vocabulary }
  else do
    let mappings ← declaration.mapEntries.foldlM
      (MappingTables.addMapEntry kind.implementationName) draft.mappings
    pure { draft with mappings }

/-- Adds a target. It is refused for its implementation first, then for its mode, and last for the
version of GML it asks for. -/
def addTarget (known : Implementations) (draft : Draft) (declaration : TargetSection) :
    Except Problem Draft := do
  let kind ← known.target declaration.implementation
  let mode ← Mode.ofDeclaration declaration.mode
  declaration.parameters.checkGmlVersion
  let draft := draft.addMode kind mode
  let draft := if mode.isDisabled then draft else draft.addRuleSets declaration.ruleSets.entries
  let draft ← (draft.addScoped kind declaration.parameters).addEntries kind declaration
  pure { draft with targets := draft.targets ++ [declaration.stage kind mode] }

end Draft

end EncodingPlan
