import EncodingPlan.Pattern.Meaning
import EncodingPlan.Pattern.Search
import EncodingPlan.Pattern.Size
import EncodingPlan.Problem

/-! Patterns for whole texts, as configurations use them. -/

namespace EncodingPlan

/-- A pattern that has been read and understood. -/
structure Pattern where
  expr : Pattern.Expr

namespace Pattern

/-- The pattern that a text spells, unless it is too large. -/
def ofText? (text : String) : Option Pattern := do
  let (e, _) ← (← parse? text.toList).meaning {}
  if e.fits then some ⟨e⟩ else none

/-- The text of `pattern` between anchors for the start and the end of the text, in a group. -/
def anchored (pattern : String) : String := "^(?:" ++ pattern ++ ")$"

/-- The pattern that is to match texts from start to end. -/
def whole (pattern : String) : Except Problem Pattern :=
  match ofText? (anchored pattern) with
  | some compiled => .ok compiled
  | none => .error (.invalidPattern pattern "not a regular expression")

/-- Whether the pattern matches somewhere in the text. -/
def isMatch (pattern : Pattern) (text : String) : Bool := pattern.expr.matchesIn text

end Pattern

end EncodingPlan
