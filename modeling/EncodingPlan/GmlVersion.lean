import EncodingPlan.Problem

/-! The supported versions of GML. -/

namespace EncodingPlan

inductive GmlVersion where
  | v21
  | v31
  | v32
  | v33
deriving DecidableEq, Repr

namespace GmlVersion

instance : Inhabited GmlVersion := ⟨v32⟩

def all : List GmlVersion := [v21, v31, v32, v33]

def text : GmlVersion → String
  | v21 => "2.1"
  | v31 => "3.1"
  | v32 => "3.2"
  | v33 => "3.3"

/-- Accepts the four version numbers as they are written, and nothing else. -/
def parse (raw : String) : Except Problem GmlVersion :=
  match all.find? (·.text == raw) with
  | some version => .ok version
  | none => .error (.invalidGmlVersion raw)

end GmlVersion

end EncodingPlan
