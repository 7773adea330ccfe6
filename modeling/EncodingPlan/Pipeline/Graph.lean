/-! Directed graphs over the positions of stages. Links may be parallel or lead from a position to
itself. The order of a graph lists every position after its predecessors, and takes the least
position whenever several could come next; its levels collect the positions all of whose
predecessors are on earlier levels. Either exists only if the graph has no cycle.

Both count the links that lead to a position and take one back whenever its predecessor is taken. -/

namespace EncodingPlan

structure StageGraph where
  size : Nat
  /-- Pairs of a predecessor and its successor. -/
  links : List (Nat × Nat)
  inside : ∀ link ∈ links, link.1 < size ∧ link.2 < size

namespace StageGraph

def unlinked (size : Nat) : StageGraph := ⟨size, [], by simp⟩

/-- The position that a number names: the number itself if the graph has it, or else what its lowest
32 bits say. -/
def position (graph : StageGraph) (number : Nat) : Nat :=
  if number < graph.size then number else number % 4294967296

/-- Adds a link between positions of the graph. -/
def connect? (graph : StageGraph) (source target : Nat) : Option StageGraph :=
  let source := graph.position source
  let target := graph.position target
  if h : source < graph.size ∧ target < graph.size then
    some {
      size := graph.size
      links := graph.links ++ [(source, target)]
      inside := fun link hl => by
        rcases List.mem_append.1 hl with hl | hl
        · exact graph.inside link hl
        · rw [List.mem_singleton.1 hl]
          exact h }
  else none

/-- The graph with the links that lie inside it. -/
def ofLinks (size : Nat) (links : List (Nat × Nat)) : StageGraph :=
  links.foldl (fun graph (source, target) => (graph.connect? source target).getD graph)
    (unlinked size)

/-- Direct predecessors in ascending order. -/
def predecessors (graph : StageGraph) (position : Nat) : List Nat :=
  (List.range graph.size).filter fun source => graph.links.contains (source, position)

/-- Direct successors in ascending order. -/
def successors (graph : StageGraph) (position : Nat) : List Nat :=
  (List.range graph.size).filter fun target => graph.links.contains (position, target)

theorem mem_predecessors {graph : StageGraph} {source position : Nat} :
    source ∈ graph.predecessors position ↔ (source, position) ∈ graph.links := by
  simp only [predecessors, List.mem_filter, List.mem_range, List.contains_iff_mem,
    and_iff_right_iff_imp]
  exact fun h => (graph.inside _ h).1

theorem mem_successors {graph : StageGraph} {position target : Nat} :
    target ∈ graph.successors position ↔ (position, target) ∈ graph.links := by
  simp only [successors, List.mem_filter, List.mem_range, List.contains_iff_mem,
    and_iff_right_iff_imp]
  exact fun h => (graph.inside _ h).2

/-! ## Order -/

/-- How far the positions of a graph have been taken. -/
structure Frontier where
  /-- For every position, the number of links that lead to it from positions that were not taken. -/
  waiting : List Nat
  /-- The positions that wait for no link and were not taken. -/
  ready : List Nat

/-- Takes back a link to the position, which gets ready when that was the last one. -/
def Frontier.release (frontier : Frontier) (position : Nat) : Frontier :=
  let waiting := frontier.waiting.modify position (· - 1)
  { waiting
    ready := if waiting[position]? = some 0 then frontier.ready ++ [position]
      else frontier.ready }

/-- The number of links that lead to the position. -/
def inDegree (graph : StageGraph) (position : Nat) : Nat :=
  graph.links.countP fun link => link.2 == position

/-- Where the links from the position lead, parallel links each for itself. -/
def outgoing (graph : StageGraph) (position : Nat) : List Nat :=
  (graph.links.filter fun link => link.1 == position).map Prod.snd

/-- Before a position is taken. -/
def start (graph : StageGraph) : Frontier where
  waiting := (List.range graph.size).map graph.inDegree
  ready := (List.range graph.size).filter fun position => graph.inDegree position == 0

/-- Takes some of the ready positions. -/
def take (graph : StageGraph) (frontier : Frontier) (positions : List Nat) : Frontier :=
  (positions.flatMap graph.outgoing).foldl Frontier.release
    { frontier with ready := frontier.ready.filter fun position => !positions.contains position }

/-- Takes the least ready position as long as there is one, at most `fuel` times. -/
def orderFrom (graph : StageGraph) : Nat → Frontier → List Nat
  | 0, _ => []
  | fuel + 1, frontier =>
    match frontier.ready.min? with
    | some next => next :: orderFrom graph fuel (graph.take frontier [next])
    | none => []

/-- The order of the positions. Those on a cycle never get ready. -/
def ordered (graph : StageGraph) : Option (List Nat) :=
  let order := graph.orderFrom graph.size graph.start
  if order.length = graph.size then some order else none

/-- Takes all ready positions as long as there are any, at most `fuel` times. -/
def levelsFrom (graph : StageGraph) : Nat → Frontier → List (List Nat)
  | 0, _ => []
  | fuel + 1, frontier =>
    if frontier.ready.isEmpty then []
    else
      let level := frontier.ready.mergeSort
      level :: levelsFrom graph fuel (graph.take frontier level)

def levels (graph : StageGraph) : Option (List (List Nat)) :=
  let levels := graph.levelsFrom graph.size graph.start
  if levels.flatten.length = graph.size then some levels else none

end StageGraph

end EncodingPlan
