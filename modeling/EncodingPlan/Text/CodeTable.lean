/-! Sets of characters given by ranges of code points, and case mappings given by runs of code
points that keep a fixed distance to their images. A table is ascending if its ranges are, and
closed up if no two of them overlap or touch; the operations below keep both. -/

namespace EncodingPlan.Text

/-- A set of code points, as closed ranges. -/
abbrev CodeTable := List (Nat × Nat)

namespace CodeTable

def has (table : CodeTable) (c : Char) : Bool :=
  table.any fun (first, last) => decide (first ≤ c.toNat) && decide (c.toNat ≤ last)

/-- The last code point. -/
def maxCode : Nat := 0x10FFFF

/-- Puts a range among those of an ascending table; `rest` does so with the ranges after it. -/
def mergeOne (range : Nat × Nat) (rest : CodeTable → CodeTable) : CodeTable → CodeTable
  | [] => range :: rest []
  | other :: others =>
    if range.1 ≤ other.1 then range :: rest (other :: others)
    else other :: mergeOne range rest others

/-- The ranges of two ascending tables in ascending order. -/
def merge : CodeTable → CodeTable → CodeTable
  | [] => id
  | range :: ranges => mergeOne range (merge ranges)

/-- A range and the ones after it, closed up. -/
def closeUpFrom (range : Nat × Nat) : CodeTable → CodeTable
  | [] => [range]
  | next :: others =>
    if next.1 ≤ range.2 + 1 then closeUpFrom (range.1, max range.2 next.2) others
    else range :: closeUpFrom next others

/-- The same set without ranges that overlap or touch. -/
def closeUp : CodeTable → CodeTable
  | [] => []
  | range :: ranges => closeUpFrom range ranges

def union (a b : CodeTable) : CodeTable := closeUp (merge a b)

/-- What a table leaves out, from a code point on. -/
def gapsFrom (start : Nat) : CodeTable → CodeTable
  | [] => if start ≤ maxCode then [(start, maxCode)] else []
  | (first, last) :: others =>
    if start < first then (start, first - 1) :: gapsFrom (last + 1) others
    else gapsFrom (last + 1) others

def compl (table : CodeTable) : CodeTable := gapsFrom 0 table

end CodeTable

/-- The code points `first`, `first + step`, … up to `last`, with the image of `first`. -/
abbrev CaseRun := Nat × Nat × Nat × Nat

namespace CaseRun

def image? (run : CaseRun) (code : Nat) : Option Nat :=
  let (first, last, step, image) := run
  if first ≤ code ∧ code ≤ last ∧ (code - first) % step = 0 then some (image + (code - first))
  else none

/-- The run that leads back. -/
def inverse (run : CaseRun) : CaseRun :=
  let (first, last, step, image) := run
  (image, image + (last - first), step, first)

/-- The images of the code points of a range. -/
def images (run : CaseRun) (range : Nat × Nat) : CodeTable :=
  let (first, last, step, image) := run
  let lowest := first + (max first range.1 - first + (step - 1)) / step * step
  let highest := min last range.2
  if highest < lowest then []
  else if step = 1 then [(image + (lowest - first), image + (highest - first))]
  else
    (List.range ((highest - lowest) / step + 1)).map fun n =>
      (image + (lowest - first) + n * step, image + (lowest - first) + n * step)

end CaseRun

namespace CodeTable

/-- The images of a set under runs. -/
def imagesUnder (runs : List CaseRun) (table : CodeTable) : CodeTable :=
  runs.foldl (fun images run => union (table.flatMap run.images) images) []

/-- The set with all code points that have the same image as one of its members, a code point
outside the runs being its own image. -/
def closeUnder (runs : List CaseRun) (table : CodeTable) : CodeTable :=
  let withImages := union table (imagesUnder runs table)
  union withImages (imagesUnder (runs.map CaseRun.inverse) withImages)

end CodeTable

end EncodingPlan.Text
