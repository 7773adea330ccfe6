import EncodingPlan.Text.Blank

/-! Identifiers of stages. They are compared exactly, letter case included. -/

namespace EncodingPlan

structure StageId where
  text : String
deriving DecidableEq, Repr

namespace StageId

/-- The identifier a text denotes: surrounding blanks do not belong to it. -/
def ofText (raw : String) : StageId := ⟨Text.trim raw⟩

/-- The identifier of an input that is given none. -/
def input : StageId := ⟨"INPUT"⟩

instance : Inhabited StageId := ⟨input⟩

instance : ToString StageId := ⟨StageId.text⟩

def isEmpty (id : StageId) : Bool := id.text.isEmpty

end StageId

end EncodingPlan
