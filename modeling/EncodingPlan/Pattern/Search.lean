import EncodingPlan.Pattern.Expr

/-! Looking for a match in a text, in one pass over its characters. Between two characters the
expression is marked with all that can have been matched so far: a mark at a set of characters says
that its character has just been read. Reading on moves the marks, and a match is found when the end
of the expression is reached. -/

namespace EncodingPlan.Pattern

/-- The number of a round, counting the rounds that take characters. There are `enough` of them if
the least number is reached, or is reached with rounds that take no characters. -/
structure Round where
  number : Nat
  enough : Bool
deriving DecidableEq

namespace Round

def le (a b : Round) : Bool :=
  a.number < b.number || (a.number == b.number && (!a.enough || b.enough))

/-- The round after `number` others, if there may be one. When there are enough rounds and no
bound, their number does not matter any more. -/
def after? (number : Nat) (enough : Bool) (least : Nat) (most : Option Nat) : Option Round :=
  let enough := enough || least ≤ number + 1
  match most with
  | none => some ⟨if enough then least else number + 1, enough⟩
  | some most => if number < most then some ⟨number + 1, enough⟩ else none

end Round

/-- The marks of an expression at a place. -/
inductive Marks where
  | none
  /-- The character before the place has been read. -/
  | read
  /-- Marks on the members of a sequence or a choice. -/
  | both (first second : Marks)
  /-- Marks on the body of a repetition, for each round that has been begun, in ascending order. -/
  | rounds (begun : List (Round × Marks))

namespace Marks

def isNone : Marks → Bool
  | none => true
  | _ => false

def isRead : Marks → Bool
  | read => true
  | _ => false

def first : Marks → Marks
  | both first _ => first
  | _ => none

def second : Marks → Marks
  | both _ second => second
  | _ => none

def begun : Marks → List (Round × Marks)
  | rounds begun => begun
  | _ => []

def pair : Marks → Marks → Marks
  | none, none => none
  | first, second => both first second

def ofRounds : List (Round × Marks) → Marks
  | [] => none
  | begun => rounds begun

/-- Rounds that begin at a place and rounds begun before it, all in ascending order, each with
whether it begins at the place. -/
def alongside : List Round → List (Round × Marks) → List (Round × Bool × Marks)
  | [], begun => begun.map fun (round, marks) => (round, false, marks)
  | starts, [] => starts.map fun round => (round, true, none)
  | start :: starts, (round, marks) :: begun =>
    if start = round then (round, true, marks) :: alongside starts begun
    else if start.le round then (start, true, none) :: alongside starts ((round, marks) :: begun)
    else (round, false, marks) :: alongside (start :: starts) begun

end Marks

namespace Expr

/-- Whether the expression matches the empty span at the place. -/
def passes (place : Place) : Expr → Bool
  | empty => true
  | chars _ => false
  | condition c => c.holds place
  | seq first second => first.passes place && second.passes place
  | alt left right => left.passes place || right.passes place
  | group body => body.passes place
  | rounds body least _ _ => least == 0 || body.passes place

/-- Whether a span that was begun before the place ends there. -/
def finishes (place : Place) : Expr → Marks → Bool
  | empty, _ | condition _, _ => false
  | chars _, marks => marks.isRead
  | seq first second, marks =>
    second.finishes place marks.second ||
      (first.finishes place marks.first && second.passes place)
  | alt left right, marks => left.finishes place marks.first || right.finishes place marks.second
  | group body, marks => body.finishes place marks
  | rounds body _ _ _, marks =>
    let passes := body.passes place
    marks.begun.any fun (round, marks) => (round.enough || passes) && body.finishes place marks

/-- The rounds that begin at a place: the first one if the repetition does, and the one after each
that ends there. -/
def starts (least : Nat) (most : Option Nat) (passes enters : Bool) (ended : List Round) :
    List Round :=
  let first := if enters then (Round.after? 0 passes least most).toList else []
  let next := ended.filterMap fun round =>
    Round.after? round.number (round.enough || passes) least most
  (first ++ next).eraseReps

/-- The marks after the character that follows the place; `enters` says whether the expression may
begin at the place. -/
def advance (place : Place) (e : Expr) (enters : Bool) (marks : Marks) : Marks :=
  if !enters && marks.isNone then .none
  else match e with
    | empty | condition _ => .none
    | chars set => if enters && place.after.any set.has then .read else .none
    | seq first second =>
      let reached := first.finishes place marks.first || (enters && first.passes place)
      .pair (first.advance place enters marks.first) (second.advance place reached marks.second)
    | alt left right =>
      .pair (left.advance place enters marks.first) (right.advance place enters marks.second)
    | group body => body.advance place enters marks
    | rounds body least most _ =>
      let ended := marks.begun.filter fun (_, marks) => body.finishes place marks
      let starts := starts least most (body.passes place) enters (ended.map Prod.fst)
      let moved := (Marks.alongside starts marks.begun).map fun (round, enters, marks) =>
        (round, body.advance place enters marks)
      .ofRounds (moved.filter fun (_, marks) => !marks.isNone)

/-- Whether a match ends at one of the places from the one between `before` and the characters ahead;
`marks` are those at this place. -/
def isFound (e : Expr) (before : Option Char) (marks : Marks) : List Char → Bool
  | [] => e.passes ⟨before, none⟩ || e.finishes ⟨before, none⟩ marks
  | c :: cs =>
    let place : Place := ⟨before, some c⟩
    e.passes place || e.finishes place marks || e.isFound (some c) (e.advance place true marks) cs

/-- Whether some span of the text matches. -/
def matchesIn (e : Expr) (text : String) : Bool := e.isFound none .none text.toList

end Expr

end EncodingPlan.Pattern
