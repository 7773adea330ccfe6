import EncodingPlan.Mode

/-! Stages of a pipeline: the input, where the model comes in, transformers, which change it, and
targets, which write it. The input and transformers have identifiers, by which later stages name
their predecessors. -/

namespace EncodingPlan

structure Input where
  id : StageId := .input
deriving DecidableEq

/-- A transformer without a predecessor is fed by the input. -/
structure Transformer where
  id : StageId
  kind : TransformerKind
  mode : Mode := .enabled
  predecessor : Option StageId := none
deriving DecidableEq

/-- A target without predecessors is fed by the input. -/
structure Target where
  kind : TargetKind
  mode : Mode := .enabled
  predecessors : List StageId := []
deriving DecidableEq

namespace Transformer

def predecessorIn (transformer : Transformer) (input : Input) : StageId :=
  transformer.predecessor.getD input.id

end Transformer

namespace Target

/-- Adds a predecessor unless it is one already. -/
def feedFrom (target : Target) (id : StageId) : Target :=
  if target.predecessors.contains id then target
  else { target with predecessors := target.predecessors ++ [id] }

def predecessorsIn (target : Target) (input : Input) : List StageId :=
  if target.predecessors.isEmpty then [input.id] else target.predecessors

end Target

/-- A stage; a target comes with its place among the targets. -/
inductive Stage where
  | input (input : Input)
  | transformer (transformer : Transformer)
  | target (ordinal : Nat) (target : Target)
deriving DecidableEq

namespace Stage

def id? : Stage → Option StageId
  | input i => some i.id
  | transformer t => some t.id
  | target .. => none

/-- The input always runs. -/
def mode : Stage → Mode
  | input _ => .enabled
  | transformer t => t.mode
  | target _ t => t.mode

def isExecuted (stage : Stage) : Bool := stage.mode.isExecuted

def isInput : Stage → Bool
  | input _ => true
  | _ => false

def asTransformer? : Stage → Option Transformer
  | transformer t => some t
  | _ => none

def asTarget? : Stage → Option Target
  | target _ t => some t
  | _ => none

/-- The scope of the stage's parameters: the name of its implementation, or the input's id. -/
def scope : Stage → String
  | input i => i.id.text
  | transformer t => t.kind.implementationName
  | target _ t => t.kind.implementationName

def text : Stage → String
  | input i => s!"input `{i.id}`"
  | transformer t => s!"transformer `{t.id}`"
  | target ordinal t => s!"target #{ordinal} ({t.kind.implementationName})"

/-- The identifiers that the stage names as its predecessors. -/
def predecessorIds (whole : Input) : Stage → List StageId
  | input _ => []
  | transformer t => [t.predecessorIn whole]
  | target _ t => t.predecessorsIn whole

end Stage

end EncodingPlan
