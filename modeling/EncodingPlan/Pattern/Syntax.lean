/-! Patterns as they are written. Flags stand in the tree where they were set; `Pattern.Meaning`
gives them their effect. -/

namespace EncodingPlan.Pattern

/-- Switches that change how the rest of a group is read. -/
inductive Flag where
  | ignoreCase
  | multiLine
  | dotMatchesNewline
  | swapGreed
  | unicode
  | carriageReturn
  | verbose
deriving DecidableEq, Repr

/-- Flags to turn on or off. -/
abbrev FlagEdits := List (Flag × Bool)

/-- Conditions on a place in the text, as written. -/
inductive Anchor where
  | lineStart
  | lineEnd
  | textStart
  | textEnd
  | wordBoundary
  | notWordBoundary
  | wordStart
  | wordEnd
  | wordStartHalf
  | wordEndHalf
deriving DecidableEq, Repr

inductive Shorthand where
  | digit
  | blank
  | word
deriving DecidableEq, Repr

inductive PosixClass where
  | alnum
  | alpha
  | ascii
  | blank
  | cntrl
  | digit
  | graph
  | lower
  | print
  | punct
  | space
  | upper
  | word
  | xdigit
deriving DecidableEq, Repr

/-- A character property, by its name alone or by a name and a value. -/
inductive PropertyQuery where
  | byName (name : List Char)
  | byValue (name value : List Char) (differs : Bool)
deriving DecidableEq, Repr

inductive SetOperation where
  | intersection
  | difference
  | symmetricDifference
deriving DecidableEq, Repr

/-- A character as written; `asByte` marks the two-digit form `\xNN`. -/
structure Literal where
  char : Char
  asByte : Bool
deriving DecidableEq, Repr

/-- What stands between brackets. -/
inductive ClassSyntax where
  | literal (l : Literal)
  | range (first last : Literal)
  | shorthand (s : Shorthand) (negated : Bool)
  | posix (p : PosixClass) (negated : Bool)
  | property (q : PropertyQuery) (negated : Bool)
  | bracketed (body : ClassSyntax) (negated : Bool)
  | union (items : List ClassSyntax)
  | operation (op : SetOperation) (left right : ClassSyntax)

inductive Syntax where
  | empty
  | flags (edits : FlagEdits)
  | literal (l : Literal)
  | dot
  | anchor (a : Anchor)
  | shorthand (s : Shorthand) (negated : Bool)
  | property (q : PropertyQuery) (negated : Bool)
  | bracketed (body : ClassSyntax) (negated : Bool)
  /-- At least `least` times, and at most `most` times if that is given; `marked` says whether it is
  marked to turn its preference for more rounds or for fewer. -/
  | repetition (body : Syntax) (least : Nat) (most : Option Nat) (marked : Bool)
  /-- A group for its flags and for keeping its parts together. -/
  | group (edits : FlagEdits) (body : Syntax)
  /-- A group whose span is of interest by itself. -/
  | capture (body : Syntax)
  | concat (parts : List Syntax)
  | alternation (branches : List Syntax)

mutual

/-- How deep brackets, lists of items and operations are nested. -/
def ClassSyntax.depth : ClassSyntax → Nat
  | .bracketed body _ => body.depth + 1
  | .union (item :: items) => max item.depth (ClassSyntax.depthOfAll items) + 1
  | .operation _ left right => max left.depth right.depth + 1
  | _ => 0

def ClassSyntax.depthOfAll : List ClassSyntax → Nat
  | [] => 0
  | item :: items => max item.depth (ClassSyntax.depthOfAll items)

end

mutual

/-- How deep groups, repetitions, sequences, alternations and brackets are nested. -/
def Syntax.depth : Syntax → Nat
  | .bracketed body _ => body.depth + 1
  | .repetition body _ _ _ => body.depth + 1
  | .group _ body => body.depth + 1
  | .capture body => body.depth + 1
  | .concat parts => Syntax.depthOfAll parts + 1
  | .alternation branches => Syntax.depthOfAll branches + 1
  | _ => 0

def Syntax.depthOfAll : List Syntax → Nat
  | [] => 0
  | part :: parts => max part.depth (Syntax.depthOfAll parts)

end

namespace ClassSyntax

/-- The items as one class; a single item stands for itself. -/
def ofItems : List ClassSyntax → ClassSyntax
  | [item] => item
  | items => .union items

end ClassSyntax

namespace Syntax

/-- The parts as one pattern; a single part stands for itself. -/
def ofParts : List Syntax → Syntax
  | [] => .empty
  | [part] => part
  | parts => .concat parts

def ofBranches : List Syntax → Syntax
  | [branch] => branch
  | branches => .alternation branches

end Syntax

end EncodingPlan.Pattern
