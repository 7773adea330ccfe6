import EncodingPlan.Text.Blank
import EncodingPlan.Text.CaseFolding
import EncodingPlan.Text.CategoryTable
import EncodingPlan.Text.TraitTable

/-! Sets of characters as patterns describe them, built by set algebra from tables. The ranges of a
set are ascending and closed up. -/

namespace EncodingPlan

open Text

structure CharSet where
  ranges : CodeTable
deriving DecidableEq

namespace CharSet

def has (set : CharSet) (c : Char) : Bool := set.ranges.has c

/-- The set of an ascending table whose ranges do not touch. -/
def table (codes : CodeTable) : CharSet := ⟨codes⟩

def none : CharSet := table []

def range (first last : Char) : CharSet := table [(first.toNat, last.toNat)]

def single (c : Char) : CharSet := range c c

def union (left right : CharSet) : CharSet := ⟨left.ranges.union right.ranges⟩

def compl (set : CharSet) : CharSet := ⟨set.ranges.compl⟩

def all : CharSet := compl none

def diff (left right : CharSet) : CharSet := compl (union (compl left) right)

def inter (left right : CharSet) : CharSet := diff left (compl right)

def symmDiff (left right : CharSet) : CharSet := union (diff left right) (diff right left)

def unions (sets : List CharSet) : CharSet := sets.foldr union none

/-- With every character that differs from a member in letter case only. -/
def anyCase (set : CharSet) : CharSet := ⟨Text.anyCase set.ranges⟩

/-- The same among ASCII letters. -/
def anyAsciiCase (set : CharSet) : CharSet := ⟨Text.anyAsciiCase set.ranges⟩

/-- The only member. -/
def single? (set : CharSet) : Option Char :=
  match set.ranges with
  | [(first, last)] => if first = last then some (Char.ofNat first) else Option.none
  | _ => Option.none

/-! ## Classes of characters -/

def letter : CharSet :=
  unions [table Category.uppercaseLetter, table Category.lowercaseLetter,
    table Category.titlecaseLetter, table Category.modifierLetter, table Category.otherLetter]

def mark : CharSet :=
  unions [table Category.nonspacingMark, table Category.spacingMark, table Category.enclosingMark]

def number : CharSet :=
  unions [table Category.decimalNumber, table Category.letterNumber, table Category.otherNumber]

def lowercase : CharSet := union (table Category.lowercaseLetter) (table Trait.otherLowercase)

def uppercase : CharSet := union (table Category.uppercaseLetter) (table Trait.otherUppercase)

def alphabetic : CharSet :=
  unions [letter, table Category.letterNumber, table Trait.otherAlphabetic]

def digit : CharSet := table Category.decimalNumber

def blank : CharSet := table blankTable

/-- The characters that words are made of. -/
def word : CharSet :=
  unions [alphabetic, mark, digit, table Category.connectorPunctuation, table Trait.joinControl]

def asciiDigit : CharSet := table [(0x30, 0x39)]

def asciiBlank : CharSet := table [(0x9, 0xD), (0x20, 0x20)]

def asciiWord : CharSet := table [(0x30, 0x39), (0x41, 0x5A), (0x5F, 0x5F), (0x61, 0x7A)]

end CharSet

end EncodingPlan
