import EncodingPlan.Problem

/-! Processing modes of stages. Only a disabled stage does not run. -/

namespace EncodingPlan

inductive Mode where
  | enabled
  | disabled
  | diagnosticsOnly
deriving DecidableEq, Repr

namespace Mode

instance : Inhabited Mode := ⟨enabled⟩

def isDisabled : Mode → Bool
  | disabled => true
  | _ => false

def isExecuted (mode : Mode) : Bool := !mode.isDisabled

def text : Mode → String
  | enabled => "enabled"
  | disabled => "disabled"
  | diagnosticsOnly => "diagnostics-only"

instance : ToString Mode := ⟨text⟩

/-- Surrounding blanks and the case of ASCII letters do not matter. -/
def ofText? (raw : String) : Option Mode :=
  match Text.lowerAscii (Text.trim raw) with
  | "enabled" => some enabled
  | "disabled" => some disabled
  | "diagnostics-only" | "diagnosticsonly" => some diagnosticsOnly
  | _ => none

def parse (raw : String) : Except Problem Mode :=
  match ofText? raw with
  | some mode => .ok mode
  | none => .error (.invalidMode raw)

end Mode

end EncodingPlan
