import EncodingPlan.Text.CodeTable

/-! The UTF-8 forms of ranges of code points, as sequences of byte ranges: a sequence stands for the
forms whose first byte is in its first range, the second byte in the second range, and so on. -/

namespace EncodingPlan.Text.Utf8

/-- The bytes of a character. -/
def bytes (c : Char) : List Nat := (String.utf8EncodeChar c).map UInt8.toNat

/-- The bytes of a text. -/
def bytesOf (text : List Char) : List Nat := text.flatMap bytes

abbrev ByteRange := Nat × Nat

/-- The number of values that `count` bytes after the first one tell apart. -/
def blockSize : Nat → Nat
  | 0 => 1
  | count + 1 => 64 * blockSize count

/-- The forms of the values from `first` to `last` in a byte marked by `mark` and `count` bytes after
it. Values with one first byte stay together; of the others, those that fill their blocks do. -/
def forms (mark : Nat) : Nat → Nat → Nat → List (List ByteRange)
  | 0, first, last => [[(mark + first, mark + last)]]
  | count + 1, first, last =>
    let size := blockSize (count + 1)
    let inBlock (block first last : Nat) : List (List ByteRange) :=
      (forms 0x80 count first last).map ((mark + block, mark + block) :: ·)
    if first / size = last / size then inBlock (first / size) (first % size) (last % size)
    else
      let startsLate := first % size ≠ 0
      let endsEarly := last % size ≠ size - 1
      let lowest := if startsLate then first / size + 1 else first / size
      let beyond := if endsEarly then last / size else last / size + 1
      (if startsLate then inBlock (first / size) (first % size) (size - 1) else []) ++
      (if lowest < beyond then
        [(mark + lowest, mark + (beyond - 1)) :: List.replicate (count + 1) (0x80, 0xBF)]
      else []) ++
      (if endsEarly then inBlock (last / size) 0 (last % size) else [])

/-- The ranges of code points whose forms have the same length, each with the mark of the first byte
and the number of bytes after it. -/
def zones : List (Nat × Nat × Nat × Nat) :=
  [(0x0, 0x7F, 0x0, 0), (0x80, 0x7FF, 0xC0, 1), (0x800, 0xD7FF, 0xE0, 2), (0xE000, 0xFFFF, 0xE0, 2),
   (0x10000, 0x10FFFF, 0xF0, 3)]

/-- The forms of the code points of a range. -/
def sequences (range : Nat × Nat) : List (List ByteRange) :=
  zones.flatMap fun (first, last, mark, count) =>
    let first := max first range.1
    let last := min last range.2
    if first ≤ last then forms mark count first last else []

end EncodingPlan.Text.Utf8
