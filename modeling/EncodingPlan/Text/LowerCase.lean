import EncodingPlan.Text.Blank
import EncodingPlan.Text.LowerCaseTable

/-! Lower-casing. A character has one lower-case image that depends on it alone, with two
exceptions: capital I with a dot above becomes two characters, and capital sigma becomes a final
sigma where it ends a word. The normal form of a text is its trimmed lower-case form. -/

namespace EncodingPlan.Text

def lowerCode (code : Nat) : Nat :=
  (lowerRuns.findSome? fun run => CaseRun.image? run code).getD code

/-- The lower-case image of a character outside any word. -/
def lowerChar (c : Char) : List Char :=
  if c = '\u0130' then ['i', '\u0307'] else [Char.ofNat (lowerCode c.toNat)]

/-- Whether a cased character comes first, once the ones that do not interrupt a word are passed. -/
def startsCased (cs : List Char) : Bool :=
  match cs.find? fun c => !caseIgnorableTable.has c with
  | some c => casedTable.has c
  | none => false

/-- The lower-case form of a capital sigma between `before` (nearest first) and `after`. -/
def lowerSigma (before after : List Char) : Char :=
  if startsCased before && !startsCased after then '\u03C2' else '\u03C3'

/-- The lower-case form of a text that follows `before` (nearest first). -/
def lowerAfter (before : List Char) : List Char → List Char
  | [] => []
  | c :: rest =>
    (if c = '\u03A3' then [lowerSigma before rest] else lowerChar c) ++ lowerAfter (c :: before) rest

def lowerChars (cs : List Char) : List Char := lowerAfter [] cs

def lowerCase (s : String) : String := String.ofList (lowerChars s.toList)

/-- The form in which names are kept: trimmed, then lower-cased. -/
def normalForm (s : String) : String := lowerCase (trim s)

/-- Lower-cases the letters A to Z and no others. -/
def lowerAscii (s : String) : String := String.ofList (s.toList.map Char.toLower)

def equalIgnoringAsciiCase (a b : String) : Bool := lowerAscii a == lowerAscii b

end EncodingPlan.Text
