import EncodingPlan.Pattern.CharSet

/-! Conditions on a place between two characters of a text. -/

namespace EncodingPlan.Pattern

/-- A place of a text: the characters on its two sides. None stands for an end of the text. -/
structure Place where
  before : Option Char
  after : Option Char

inductive Condition where
  | textStart
  | textEnd
  | lineStart
  | lineEnd
  /-- Line starts and ends that see a carriage return with a newline as one break. -/
  | breakStart
  | breakEnd
  | wordBoundary (word : CharSet)
  | notWordBoundary (word : CharSet)
  | wordStart (word : CharSet)
  | wordEnd (word : CharSet)
  | wordStartHalf (word : CharSet)
  | wordEndHalf (word : CharSet)
deriving DecidableEq

/-- Whether the condition holds at the place. -/
def Condition.holds (place : Place) : Condition → Bool
  | textStart => place.before.isNone
  | textEnd => place.after.isNone
  | lineStart => place.before.isNone || place.before == some '\n'
  | lineEnd => place.after.isNone || place.after == some '\n'
  | breakStart =>
    place.before.isNone || place.before == some '\n' ||
      (place.before == some '\r' && place.after != some '\n')
  | breakEnd =>
    place.after.isNone || place.after == some '\r' ||
      (place.after == some '\n' && place.before != some '\r')
  | wordBoundary word => place.before.any word.has != place.after.any word.has
  | notWordBoundary word => place.before.any word.has == place.after.any word.has
  | wordStart word => !place.before.any word.has && place.after.any word.has
  | wordEnd word => place.before.any word.has && !place.after.any word.has
  | wordStartHalf word => !place.before.any word.has
  | wordEndHalf word => !place.after.any word.has

end EncodingPlan.Pattern
