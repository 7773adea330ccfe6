import EncodingPlan.Stage

/-! What can be wrong with the stages of a pipeline. Six checks follow one another: repeated
identifiers, predecessors that do not exist, transformers that feed themselves, loops of
transformers, stages that run after a disabled transformer, and the lack of targets. Within a check
the problems come in the order of declaration. -/

namespace EncodingPlan

/-- The stages that a pipeline is to be made of. -/
structure StagePlan where
  input : Input
  transformers : List Transformer
  targets : List Target
deriving DecidableEq

namespace StagePlan

variable (plan : StagePlan)

/-- Identifiers that later stages may name. -/
def declaredIds : List StageId := plan.input.id :: plan.transformers.map Transformer.id

def labelledTargets : List (String × Target) :=
  plan.targets.zipIdx.map fun (target, ordinal) => ((Stage.target ordinal target).text, target)

def label (transformer : Transformer) : String := (Stage.transformer transformer).text

/-- Transformers whose identifier has been seen before. -/
def duplicates (seen : List StageId) : List Transformer → List Problem
  | [] => []
  | t :: ts =>
    if seen.contains t.id then .duplicateStage t.id :: duplicates seen ts
    else duplicates (t.id :: seen) ts

def dangling : List Problem :=
  (plan.transformers.filterMap fun t =>
    let predecessor := t.predecessorIn plan.input
    if plan.declaredIds.contains predecessor then none
    else some (.danglingPredecessor (label t) predecessor))
  ++ plan.labelledTargets.flatMap fun (text, target) =>
    (target.predecessors.filter fun id => !plan.declaredIds.contains id).map
      (.danglingPredecessor text)

def selfReferences : List Problem :=
  (plan.transformers.filter fun t => t.predecessorIn plan.input == t.id).map
    fun t => .selfReference t.id

/-- The last transformer with this identifier. -/
def transformer? (id : StageId) : Option Transformer :=
  plan.transformers.reverse.find? (·.id == id)

/-- Follows predecessors from `current`, the last stage of `path`. Answers the first loop met, each
member followed by its predecessor, unless it is a transformer that feeds itself. -/
def loopWithin : Nat → List StageId → Transformer → Option (List StageId)
  | 0, _, _ => none
  | fuel + 1, path, current =>
    let predecessor := current.predecessorIn plan.input
    if predecessor = plan.input.id then none
    else if path.contains predecessor then
      let loop := path.dropWhile (· != predecessor)
      if loop.length > 1 then some loop else none
    else do
      let next ← plan.transformer? predecessor
      loopWithin fuel (path ++ [next.id]) next

/-- The loop that the predecessors of a transformer lead into. A path holds its identifier and one of
every other transformer at most, so that many steps are enough. -/
def loopFrom (start : Transformer) : Option (List StageId) :=
  plan.loopWithin (plan.transformers.length + 1) [start.id] start

def sameMembers (a b : List StageId) : Bool := a.all b.contains && b.all a.contains

/-- Each loop once, though several transformers lead into it. -/
def loops : List (List StageId) :=
  (plan.transformers.filterMap plan.loopFrom).foldl
    (fun found loop => if found.any (sameMembers loop) then found else found ++ [loop]) []

def isDisabled (id : StageId) : Bool := (plan.transformer? id).any (·.mode.isDisabled)

/-- Stages that run though a predecessor of theirs does not. -/
def disabledPredecessors : List Problem :=
  (plan.transformers.filterMap fun t =>
    let predecessor := t.predecessorIn plan.input
    if t.mode.isExecuted && plan.isDisabled predecessor then
      some (.disabledPredecessor (label t) predecessor)
    else none)
  ++ plan.labelledTargets.flatMap fun (text, target) =>
    if target.mode.isExecuted then
      (target.predecessors.filter plan.isDisabled).map (.disabledPredecessor text)
    else []

def problems : List Problem :=
  duplicates [plan.input.id] plan.transformers
    ++ plan.dangling
    ++ plan.selfReferences
    ++ plan.loops.map .cyclicPipeline
    ++ plan.disabledPredecessors
    ++ if plan.targets.isEmpty then [.noTargets] else []

/-- The input, the transformers and the targets in the order of declaration. -/
def stages : List Stage :=
  .input plan.input :: plan.transformers.map .transformer
    ++ plan.targets.zipIdx.map fun (target, ordinal) => .target ordinal target

end StagePlan

end EncodingPlan
