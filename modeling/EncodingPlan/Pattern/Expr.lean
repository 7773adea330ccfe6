import EncodingPlan.Pattern.Condition

/-! What a pattern means: an expression in which flags have been given their effect. Expressions are
kept in a simple form: sequences and choices are nested to the right and have no empty parts, no
choice lies directly in a choice, and single characters to choose from are one set. The functions
`ofParts`, `oneOf` and `repeated` build this form from expressions that have it. -/

namespace EncodingPlan.Pattern

inductive Expr where
  | empty
  | chars (set : CharSet)
  | condition (c : Condition)
  | seq (first second : Expr)
  | alt (left right : Expr)
  /-- A group whose span is of interest by itself. -/
  | group (body : Expr)
  /-- At least `least` rounds, and at most `most` if that is given; `greedy` says whether more rounds
  are preferred to fewer. -/
  | rounds (body : Expr) (least : Nat) (most : Option Nat) (greedy : Bool)
deriving DecidableEq

namespace Expr

/-! ## Lengths -/

/-- Whether no character can be matched, for want of a part that takes one. -/
def isWeightless : Expr → Bool
  | empty | condition _ => true
  | chars _ => false
  | seq first second => first.isWeightless && second.isWeightless
  | alt left right => left.isWeightless && right.isWeightless
  | group body | rounds body _ _ _ => body.isWeightless

/-- A bound from below on the number of characters of a match. There is none for expressions that
hold the empty set. -/
def shortest? : Expr → Option Nat
  | empty | condition _ => some 0
  | chars set => if set = .none then none else some 1
  | seq first second => do pure ((← first.shortest?) + (← second.shortest?))
  | alt left right => do pure (min (← left.shortest?) (← right.shortest?))
  | group body => body.shortest?
  | rounds body least _ _ => body.shortest?.map (· * least)

/-! ## Sequences -/

/-- One expression after the other. -/
def andThen : Expr → Expr → Expr
  | empty, next => next
  | seq first second, next => seq first (second.andThen next)
  | first, next => if next = empty then first else seq first next

def ofParts (parts : List Expr) : Expr := parts.foldr andThen empty

/-- The members of a sequence. -/
def parts : Expr → List Expr
  | empty => []
  | seq first second => first :: second.parts
  | e => [e]

/-- The only character that matches. -/
def char? : Expr → Option Char
  | chars set => set.single?
  | _ => none

/-- The only text that matches, if the expression spells it out. -/
def text? (e : Expr) : Option (List Char) := e.parts.mapM char?

/-- The members of a sequence, with characters that follow one another as one piece. -/
def pieces (e : Expr) : List (List Expr) :=
  e.parts.splitBy fun first second => first.char?.isSome && second.char?.isSome

/-! ## Choices -/

/-- The members of a choice. -/
def branches : Expr → List Expr
  | alt left right => left :: right.branches
  | e => [e]

def ofBranches : List Expr → Expr
  | [] => chars .none
  | [branch] => branch
  | branch :: others => alt branch (ofBranches others)

def set? : Expr → Option CharSet
  | chars set => some set
  | _ => none

/-- A choice between the branches. If all of them are characters, or all are larger sets, it is one
set. -/
def choice (branches : List Expr) : Expr :=
  let branches := branches.flatMap Expr.branches
  let single := fun set : CharSet => set.single?.isSome
  match branches.mapM set? with
  | some sets =>
    if sets.all single || !sets.any single then chars (.unions sets) else ofBranches branches
  | none => ofBranches branches

def hasGroup : Expr → Bool
  | empty | chars _ | condition _ => false
  | seq first second => first.hasGroup || second.hasGroup
  | alt left right => left.hasGroup || right.hasGroup
  | group _ => true
  | rounds body _ _ _ => body.hasGroup

/-- The pieces that two sequences have in common at their start. No two groups are the same. -/
def sharedPieces : List (List Expr) → List (List Expr) → List (List Expr)
  | piece :: pieces, other :: others =>
    if piece = other && !piece.any hasGroup then piece :: sharedPieces pieces others else []
  | _, _ => []

/-- Any of the branches. If all of them are sequences, what they have in common at their start stands
before the choice. -/
def oneOf (branches : List Expr) : Expr :=
  let branches := (branches.flatMap Expr.branches).map pieces
  match branches with
  | first :: others =>
    if branches.all fun pieces => 2 ≤ pieces.length then
      let shared := others.foldl sharedPieces first
      let rests := branches.map fun pieces => ofParts (pieces.drop shared.length).flatten
      ofParts (shared.flatten ++ [choice rests])
    else choice (branches.map fun pieces => ofParts pieces.flatten)
  | [] => chars .none

/-! ## Repetition -/

/-- From `least` to `most` rounds of the body. Of what takes no characters, a second round adds
nothing to the first. -/
def repeated (body : Expr) (least : Nat) (most : Option Nat) (greedy : Bool) : Expr :=
  let (least, most) :=
    if body.isWeightless then (min least 1, some (min (most.getD 1) 1)) else (least, most)
  if most = some 0 then empty
  else if least = 1 ∧ most = some 1 then body
  else rounds body least most greedy

end Expr

end EncodingPlan.Pattern
