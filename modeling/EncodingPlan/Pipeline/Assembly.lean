import EncodingPlan.Pipeline.Graph
import EncodingPlan.Pipeline.Validation

/-! Pipelines: stages without problems, linked to their predecessors. Disabled stages keep their
place in the graph but are left out when the stages that run are listed. -/

namespace EncodingPlan

structure Pipeline where
  plan : StagePlan
  graph : StageGraph
  /-- The order of the graph. -/
  order : List Nat

namespace StagePlan

/-- The position of the input or transformer with this identifier. -/
def position? (plan : StagePlan) (id : StageId) : Option Nat :=
  plan.stages.findIdx? fun stage => stage.id? == some id

/-- Links from the predecessors that exist. -/
def links (plan : StagePlan) : List (Nat × Nat) :=
  plan.stages.zipIdx.flatMap fun (stage, position) =>
    (stage.predecessorIds plan.input).filterMap fun id =>
      (plan.position? id).map fun source => (source, position)

def graph (plan : StagePlan) : StageGraph := .ofLinks plan.stages.length plan.links

/-- Refuses the plan for its first problem. -/
def assemble (plan : StagePlan) : Except Problem Pipeline :=
  match plan.problems with
  | problem :: _ => .error problem
  | [] =>
    match plan.graph.ordered with
    | some order => .ok ⟨plan, plan.graph, order⟩
    | none => .error (.cyclicPipeline (plan.stages.filterMap Stage.id?))

end StagePlan

namespace Pipeline

variable (pipeline : Pipeline)

def input : Input := pipeline.plan.input

def stages : List Stage := pipeline.plan.stages

def stagesAt (positions : List Nat) : List Stage := positions.filterMap (pipeline.stages[·]?)

/-- The input or transformer with this identifier. -/
def stage? (id : StageId) : Option Stage :=
  (pipeline.plan.position? id).bind (pipeline.stages[·]?)

/-- Every stage after its predecessors; of several that could come next, the one declared first. -/
def topologicalOrder : List Stage := pipeline.stagesAt pipeline.order

def executionOrder : List Stage := pipeline.topologicalOrder.filter Stage.isExecuted

/-- The stages that run, by levels that depend on earlier levels only. -/
def levels : List (List Stage) :=
  (((pipeline.graph.levels.getD []).map fun level =>
    (pipeline.stagesAt level).filter Stage.isExecuted)).filter (!·.isEmpty)

def predecessors (id : StageId) : List Stage :=
  match pipeline.plan.position? id with
  | some position => pipeline.stagesAt (pipeline.graph.predecessors position)
  | none => []

def successors (id : StageId) : List Stage :=
  match pipeline.plan.position? id with
  | some position => pipeline.stagesAt (pipeline.graph.successors position)
  | none => []

def size : Nat := pipeline.stages.length

end Pipeline

end EncodingPlan
