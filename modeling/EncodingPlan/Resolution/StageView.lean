import EncodingPlan.Parameter.Overlay
import EncodingPlan.Resolution.Basic

/-! A resolution as one of its stages sees it. The stage's own parameters hide those of its scope;
no other stage sees them. -/

namespace EncodingPlan

structure StageView where
  resolution : Resolution
  stage : Stage
  declaration : StageDeclaration

namespace StageView

variable (view : StageView)

/-- The values that the stage lays over the shared ones. A target that writes rules for XML
instances follows the encoding of XML schemas, and so brings its default encoding rule there. -/
def ownValues : List (ParameterKey × String) :=
  let own := view.declaration.parameters.entries.map fun (name, value) =>
    (ParameterKey.inScope view.stage.scope name, value)
  if view.stage.asTarget?.any (·.kind = .folSchematron) then
    own ++ ((view.declaration.parameters.get? ParameterName.defaultEncodingRule).map fun rule =>
      (.inScope TargetKind.xmlSchema.implementationName ParameterName.defaultEncodingRule,
        rule)).toList
  else own

def parameters : ParameterOverlay :=
  view.ownValues.foldl (fun overlay (key, value) => overlay.set key value)
    { base := view.resolution.parameters }

def mode : Mode := view.stage.mode

/-- A parameter in the scope of the stage. -/
def parameter? (name : String) : Option String :=
  ParameterSource.getScoped? view.parameters view.stage.scope name

def parameterNamesMatching (pattern : String) : Except Problem (List String) :=
  ParameterSource.namesMatching view.parameters view.stage.scope pattern

def defaultEncodingRule? : Option RuleSetName :=
  (view.parameter? ParameterName.defaultEncodingRule).map .ofText

/-- Rule sets that the stage declares, in the order of declaration. -/
def ruleSets : List RuleSetName := view.declaration.ruleSets

/-- Whether a rule set that the stage declares adds the rule. -/
def hasRule (rule : RuleName) : Bool := view.declaration.rules.contains rule

end StageView

namespace Resolution

variable (resolution : Resolution)

/-- The view of a stage of the pipeline; other stages have none. -/
def view? (stage : Stage) : Option StageView :=
  ((resolution.pipeline.stages.zip resolution.declarations).find? fun (known, _) =>
    known == stage).map fun (known, declaration) => ⟨resolution, known, declaration⟩

/-- The views of the stages that run, in the order in which they run. -/
def executionViews : List StageView :=
  resolution.pipeline.executionOrder.filterMap resolution.view?

end Resolution

end EncodingPlan
