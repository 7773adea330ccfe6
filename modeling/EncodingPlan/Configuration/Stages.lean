import EncodingPlan.Configuration.Basic
import EncodingPlan.Implementations
import EncodingPlan.Parameter.Standard
import EncodingPlan.Stage

/-! The stages that the sections of a configuration declare. A section is refused for its
implementation first, then for its mode, and last for the version of GML it asks for. -/

namespace EncodingPlan

/-- Refuses parameters that ask for an unsupported version of GML. -/
def ParameterValues.checkGmlVersion (values : ParameterValues) : Except Problem Unit :=
  match values.get? ParameterName.gmlVersion with
  | some raw => (GmlVersion.parse raw).map fun _ => ()
  | none => .ok ()

/-- A stage without a mode is enabled. -/
def Mode.ofDeclaration (raw : Option String) : Except Problem Mode :=
  match raw with
  | some text => Mode.parse text
  | none => .ok .enabled

/-- The target of this kind and mode that the section describes. A stage that is named twice feeds
it once. -/
def TargetSection.stage (declaration : TargetSection) (kind : TargetKind) (mode : Mode) : Target :=
  declaration.inputs.foldl (fun target raw => target.feedFrom (.ofText raw)) { kind, mode }

namespace TransformerSection

def stage (declaration : TransformerSection) (kind : TransformerKind) (mode : Mode) :
    Transformer where
  id := .ofText declaration.id
  kind
  mode
  predecessor := declaration.input.map .ofText

def configure (known : Implementations) (declaration : TransformerSection) :
    Except Problem Transformer := do
  let kind ← known.transformer declaration.implementation
  let mode ← Mode.ofDeclaration declaration.mode
  declaration.parameters.checkGmlVersion
  pure (declaration.stage kind mode)

end TransformerSection

/-- A blank identifier counts as none. -/
def InputSection.stage (declaration : InputSection) : Input :=
  match declaration.id.map StageId.ofText with
  | some id => if id.isEmpty then {} else ⟨id⟩
  | none => {}

end EncodingPlan
