import EncodingPlan.Dict

/-! Replacement of values. A value that is a token is replaced by the literal of the token, as a
whole and once: the literal is not looked at again. -/

namespace EncodingPlan

/-- Literals by their tokens. -/
abbrev Replacements := Dict String String

namespace Replacements

def apply (replacements : Replacements) (value : String) : String :=
  (replacements.get? value).getD value

end Replacements

end EncodingPlan
