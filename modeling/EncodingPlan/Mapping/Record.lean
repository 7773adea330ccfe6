import EncodingPlan.Problem

/-! Mapping records: one to four fields, which the tables do not interpret. -/

namespace EncodingPlan

structure MappingRecord where
  fields : List String
  nonempty : fields ≠ []
  atMostFour : fields.length ≤ 4
deriving DecidableEq

namespace MappingRecord

def ofFields (fields : List String) : Except Problem MappingRecord :=
  if h : fields ≠ [] ∧ fields.length ≤ 4 then .ok ⟨fields, h.1, h.2⟩
  else .error (.recordArity fields.length)

def single (field : String) : MappingRecord := ⟨[field], by simp, by simp⟩

def first (record : MappingRecord) : String := record.fields.head record.nonempty

def get? (record : MappingRecord) (index : Nat) : Option String := record.fields[index]?

def size (record : MappingRecord) : Nat := record.fields.length

end MappingRecord

end EncodingPlan
