import EncodingPlan.Text.CodeTable

/-! Blank characters, trimming and cutting. Trimming removes blanks at both ends and nothing else;
the pieces of a cut text, joined by their separators, are the text. -/

namespace EncodingPlan.Text

def blankTable : CodeTable :=
  [(0x9, 0xD), (0x20, 0x20), (0x85, 0x85), (0xA0, 0xA0), (0x1680, 0x1680), (0x2000, 0x200A),
   (0x2028, 0x2029), (0x202F, 0x202F), (0x205F, 0x205F), (0x3000, 0x3000)]

def isBlank (c : Char) : Bool := blankTable.has c

/-- The list without the longest run at its end whose members all satisfy `p`. -/
def dropEndWhile (p : Char → Bool) (cs : List Char) : List Char :=
  (cs.reverse.dropWhile p).reverse

def trimChars (cs : List Char) : List Char := dropEndWhile isBlank (cs.dropWhile isBlank)

def trim (s : String) : String := String.ofList (trimChars s.toList)

/-- The pieces between the characters that satisfy `isSeparator`, empty ones included. -/
def cut (isSeparator : Char → Bool) : List Char → List (List Char)
  | [] => [[]]
  | c :: cs =>
    if isSeparator c then [] :: cut isSeparator cs
    else match cut isSeparator cs with
      | [] => [[c]]
      | piece :: pieces => (c :: piece) :: pieces

def cutAt (separator : Char) (s : String) : List String :=
  (cut (· == separator) s.toList).map String.ofList

end EncodingPlan.Text
