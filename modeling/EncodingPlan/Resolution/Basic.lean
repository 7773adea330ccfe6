import EncodingPlan.Pipeline.Assembly
import EncodingPlan.Resolution.Draft
import EncodingPlan.Settings.Basic

/-! Loading. A configuration that is not refused becomes a resolution, which answers whatever the
stages ask. The checks come in a fixed order: global parameters, targets, transformers, rule sets,
the pipeline, settings. -/

namespace EncodingPlan

/-- What a stage declares for itself. -/
structure StageDeclaration where
  parameters : ParameterValues := ∅
  /-- In the order of declaration. -/
  ruleSets : List RuleSetName := []
  /-- The rules that one of its rule sets adds. -/
  rules : List RuleName := []
deriving DecidableEq

def StageDeclaration.of (parameters : ParameterValues) (ruleSets : Dict String RuleSetDeclaration) :
    StageDeclaration where
  parameters
  ruleSets := ruleSets.keys.map .ofText
  rules := ruleSets.values.flatMap fun ruleSet => ruleSet.additionalRules.map .ofText

structure Resolution where
  registry : Registry
  mappings : MappingTables
  parameters : ParameterStore
  vocabulary : Vocabulary
  /-- The modes of the kinds of targets that are declared. -/
  targetModes : Dict TargetKind Mode
  pipeline : Pipeline
  /-- In the order of the stages. -/
  declarations : List StageDeclaration
  settings : Settings

namespace Resolution

/-- What the stages declare for themselves: nothing the input, then the transformers and the
targets. -/
def stageDeclarations (configuration : Configuration) : List StageDeclaration :=
  ({} : StageDeclaration)
    :: (configuration.transformers.map fun t => StageDeclaration.of t.parameters t.ruleSets)
    ++ configuration.targets.map fun t => StageDeclaration.of t.parameters t.ruleSets

/-- Loads a configuration and answers the resolution together with what was found and did not stand
in the way: unknown rules first, undeclared parents of rule sets after them. -/
def load (configuration : Configuration) (replacements : Replacements)
    (known : Implementations) : Except Problem (Resolution × Findings) := do
  let draft ← (Draft.start replacements).addGlobals configuration.input.parameters
  let draft ← draft.addGlobals configuration.dialogParameters
  let draft ← draft.addGlobals configuration.logParameters
  let draft ← configuration.targets.foldlM (Draft.addTarget known)
    (draft.addInput configuration.input)
  let transformers ← configuration.transformers.mapM (TransformerSection.configure known)
  let undeclaredParents ← draft.registry.validate
  let pipeline ← StagePlan.assemble ⟨configuration.input.stage, transformers, draft.targets⟩
  let settings ← Settings.derive draft.parameters
    (configuration.input.parameters.get? ParameterName.language)
  pure ({
    registry := draft.registry.resolved
    mappings := draft.mappings
    parameters := draft.parameters
    vocabulary := draft.vocabulary
    targetModes := draft.targetModes
    pipeline
    declarations := stageDeclarations configuration
    settings := settings.withGmlNamespace ((draft.vocabulary.namespaceOf? "gml").map (·.ns)) },
    draft.findings ++ undeclaredParents)

/-! ## Queries -/

variable (resolution : Resolution)

def mapping? (kind : MappingKind) (key : MappingKey) : Option MappingRecord :=
  resolution.mappings.lookup resolution.registry kind key

/-- A record of the map entries of one kind of target. -/
def targetMapping? (target : TargetKind) (key : MappingKey) : Option MappingRecord :=
  resolution.mappings.ofTargets.lookup resolution.registry target.implementationName key

/-- The mode of a kind of target: of the first one that runs, or disabled if none does. -/
def targetMode (kind : TargetKind) : Mode := (resolution.targetModes.get? kind).getD .disabled

end Resolution

end EncodingPlan
