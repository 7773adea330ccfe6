import EncodingPlan.Pattern.Expr
import EncodingPlan.Pattern.Parser

/-! The meaning of syntax under flags. Flags set in a group hold until its end, across the bars
between its branches. Without the flag for all characters, classes are sets of ASCII characters,
and what would have to match more is refused. -/

namespace EncodingPlan.Pattern

open Text

/-- The flags in force. -/
structure Flags where
  ignoreCase : Bool := false
  multiLine : Bool := false
  dotMatchesNewline : Bool := false
  carriageReturn : Bool := false
  swapGreed : Bool := false
  unicode : Bool := true

namespace Flags

def edit (flags : Flags) (edits : FlagEdits) : Flags where
  ignoreCase := edits.setting .ignoreCase flags.ignoreCase
  multiLine := edits.setting .multiLine flags.multiLine
  dotMatchesNewline := edits.setting .dotMatchesNewline flags.dotMatchesNewline
  carriageReturn := edits.setting .carriageReturn flags.carriageReturn
  swapGreed := edits.setting .swapGreed flags.swapGreed
  unicode := edits.setting .unicode flags.unicode

/-- The set as it counts when letter case may have to be ignored. -/
def caseClosed (flags : Flags) (set : CharSet) : CharSet :=
  if !flags.ignoreCase then set
  else if flags.unicode then .anyCase set
  else .anyAsciiCase set

/-- The complement, if asked for; it does not consist of ASCII characters. -/
def complemented (flags : Flags) (negated : Bool) (set : CharSet) : Option CharSet :=
  if !negated then some set
  else if flags.unicode then some (.compl set)
  else none

def word (flags : Flags) : CharSet := if flags.unicode then .word else .asciiWord

end Flags

/-- A literal outside brackets. A byte above 127 is no character. -/
def Literal.meaning (flags : Flags) (l : Literal) : Option CharSet :=
  if flags.unicode || l.char.toNat < 0x80 then some (flags.caseClosed (.single l.char))
  else if l.asByte then none
  else some (.single l.char)

/-- Whether a literal may stand in a class. -/
def Literal.fits (flags : Flags) (l : Literal) : Bool := flags.unicode || l.char.toNat < 0x80

def PosixClass.set : PosixClass → CharSet
  | .alnum => .table [(0x30, 0x39), (0x41, 0x5A), (0x61, 0x7A)]
  | .alpha => .table [(0x41, 0x5A), (0x61, 0x7A)]
  | .ascii => .table [(0x0, 0x7F)]
  | .blank => .table [(0x9, 0x9), (0x20, 0x20)]
  | .cntrl => .table [(0x0, 0x1F), (0x7F, 0x7F)]
  | .digit => .asciiDigit
  | .graph => .table [(0x21, 0x7E)]
  | .lower => .table [(0x61, 0x7A)]
  | .print => .table [(0x20, 0x7E)]
  | .punct => .table [(0x21, 0x2F), (0x3A, 0x40), (0x5B, 0x60), (0x7B, 0x7E)]
  | .space => .asciiBlank
  | .upper => .table [(0x41, 0x5A)]
  | .word => .asciiWord
  | .xdigit => .table [(0x30, 0x39), (0x41, 0x46), (0x61, 0x66)]

def Shorthand.meaning (flags : Flags) (negated : Bool) (s : Shorthand) : Option CharSet :=
  flags.complemented negated <|
    match s with
    | .digit => if flags.unicode then .digit else .asciiDigit
    | .blank => if flags.unicode then .blank else .asciiBlank
    | .word => flags.word

def PropertyQuery.meaning (flags : Flags) (negated : Bool) : PropertyQuery → Option CharSet
  | .byName name =>
    if flags.unicode then
      (Property.byName? name).bind fun set => flags.complemented negated (flags.caseClosed set)
    else none
  | .byValue name value differs =>
    if flags.unicode then
      (Property.byValue? name value).bind fun set =>
        flags.complemented (negated != differs) (flags.caseClosed set)
    else none

mutual

def ClassSyntax.meaning (flags : Flags) : ClassSyntax → Option CharSet
  | .literal l => if l.fits flags then some (.single l.char) else none
  | .range first last =>
    if first.fits flags && last.fits flags then some (.range first.char last.char) else none
  | .shorthand s negated => s.meaning flags negated
  | .posix p negated => flags.complemented negated (flags.caseClosed p.set)
  | .property q negated => q.meaning flags negated
  | .bracketed body negated => do
    flags.complemented negated (flags.caseClosed (← body.meaning flags))
  | .union items => ClassSyntax.meaningOfAll flags items
  | .operation op left right => do
    let left := flags.caseClosed (← left.meaning flags)
    let right := flags.caseClosed (← right.meaning flags)
    pure <| match op with
      | .intersection => .inter left right
      | .difference => .diff left right
      | .symmetricDifference => .symmDiff left right

/-- The union of the items. -/
def ClassSyntax.meaningOfAll (flags : Flags) : List ClassSyntax → Option CharSet
  | [] => some .none
  | item :: items => do
    pure (.union (← item.meaning flags) (← ClassSyntax.meaningOfAll flags items))

end

def Anchor.meaning (flags : Flags) : Anchor → Condition
  | .lineStart =>
    if !flags.multiLine then .textStart
    else if flags.carriageReturn then .breakStart
    else .lineStart
  | .lineEnd =>
    if !flags.multiLine then .textEnd
    else if flags.carriageReturn then .breakEnd
    else .lineEnd
  | .textStart => .textStart
  | .textEnd => .textEnd
  | .wordBoundary => .wordBoundary flags.word
  | .notWordBoundary => .notWordBoundary flags.word
  | .wordStart => .wordStart flags.word
  | .wordEnd => .wordEnd flags.word
  | .wordStartHalf => .wordStartHalf flags.word
  | .wordEndHalf => .wordEndHalf flags.word

/-- What a dot matches. -/
def Flags.dot (flags : Flags) : Option CharSet :=
  if !flags.unicode then none
  else if flags.dotMatchesNewline then some .all
  else if flags.carriageReturn then some (.compl (.table [(0xA, 0xA), (0xD, 0xD)]))
  else some (.compl (.single '\n'))

mutual

/-- The expression and the flags in force after it. -/
def Syntax.meaning (flags : Flags) : Syntax → Option (Expr × Flags)
  | .empty => some (.empty, flags)
  | .flags edits => some (.empty, flags.edit edits)
  | .literal l => do pure (.chars (← l.meaning flags), flags)
  | .dot => do pure (.chars (← flags.dot), flags)
  | .anchor a => some (.condition (a.meaning flags), flags)
  | .shorthand s negated => do pure (.chars (← s.meaning flags negated), flags)
  | .property q negated => do pure (.chars (← q.meaning flags negated), flags)
  | .bracketed body negated => do
    let set ← flags.complemented negated (flags.caseClosed (← body.meaning flags))
    pure (.chars set, flags)
  | .repetition body least most marked => do
    let (e, flags) ← body.meaning flags
    pure (e.repeated least most (marked == flags.swapGreed), flags)
  | .group edits body => do
    let (e, _) ← body.meaning (flags.edit edits)
    pure (e, flags)
  | .capture body => do
    let (e, _) ← body.meaning flags
    pure (.group e, flags)
  | .concat parts => do
    let (parts, flags) ← Syntax.meaningOfAll flags parts
    pure (.ofParts parts, flags)
  | .alternation branches => do
    let (branches, flags) ← Syntax.meaningOfAll flags branches
    pure (.oneOf branches, flags)

/-- The expressions one after the other, and the flags in force after them. -/
def Syntax.meaningOfAll (flags : Flags) : List Syntax → Option (List Expr × Flags)
  | [] => some ([], flags)
  | first :: others => do
    let (e, flags) ← first.meaning flags
    let (es, flags) ← Syntax.meaningOfAll flags others
    pure (e :: es, flags)

end

end EncodingPlan.Pattern
