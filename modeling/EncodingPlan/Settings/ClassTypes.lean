import EncodingPlan.ClassCategory
import EncodingPlan.Pattern.CharSet

/-! Lists of class stereotypes in a parameter. Stereotypes are separated by commas; whatever stands
beside a comma and belongs to no word is part of the separator. -/

namespace EncodingPlan.ClassTypes

def isWord (c : Char) : Bool := CharSet.word.has c

/-- Drops the separator at the start. -/
def stripStart (piece : List Char) : List Char := piece.dropWhile fun c => !isWord c

/-- Drops the separator at the end. -/
def stripEnd (piece : List Char) : List Char := Text.dropEndWhile (fun c => !isWord c) piece

/-- Drops the separators of pieces that follow a comma. -/
def stripFollowing : List (List Char) → List (List Char)
  | [] => []
  | [last] => [stripStart last]
  | piece :: pieces => stripEnd (stripStart piece) :: stripFollowing pieces

/-- The pieces between separators, empty ones included. -/
def pieces (cs : List Char) : List (List Char) :=
  match Text.cut (· == ',') cs with
  | [] => []
  | [only] => [only]
  | first :: following => stripEnd first :: stripFollowing following

/-- The categories of the listed stereotypes, in the order of declaration. A blank list selects
every category, and so does not restrict them. -/
def categories (raw : String) : Option (List ClassCategory) :=
  match Text.trimChars raw.toList with
  | [] => none
  | cs =>
    let listed := ((pieces cs).filter (!·.isEmpty)).map fun piece =>
      ClassCategory.ofStereotype (String.ofList piece)
    some (ClassCategory.all.filter listed.contains)

end EncodingPlan.ClassTypes
