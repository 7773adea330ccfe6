import EncodingPlan.Pattern.Expr
import EncodingPlan.Text.Utf8

/-! The size of patterns. A pattern is decided by two automata that read the bytes of a text, one
forwards and one backwards, and it is refused if one of them is too large. The size of an automaton
is counted without building it: by its states, the transitions of states that lead on by several
ranges of bytes, and the links from states of choice to what can follow. -/

namespace EncodingPlan.Pattern

open Text

namespace Automaton

inductive Direction where
  | forwards
  | backwards
deriving DecidableEq

def stateBytes : Nat := 32

def transitionBytes : Nat := 8

def linkBytes : Nat := 4

/-- The most bytes that an automaton may take. -/
def sizeLimit : Nat := 10485760

/-! ## Sets of characters -/

/-- Sequences of byte ranges in ascending order, as those that begin alike. -/
def alike (sequences : List (List Utf8.ByteRange)) : List (List (List Utf8.ByteRange)) :=
  sequences.splitBy fun a b => a.head? == b.head?

/-- The sequences as a tree: its inner nodes, each as the sequences that go on from it. -/
def nodesWithin : Nat → List (List Utf8.ByteRange) → List (List (List Utf8.ByteRange))
  | 0, _ => []
  | depth + 1, sequences =>
    sequences :: (alike sequences).flatMap fun sequences =>
      if sequences.any fun sequence => sequence.length ≤ 1 then []
      else nodesWithin depth (sequences.map List.tail)

/-- The bytes for a set. ASCII characters take one state that leads to another; read forwards, nodes
from which the same sequences go on are one state; read backwards, every step has a state. -/
def setBytes (direction : Direction) (set : CharSet) : Nat :=
  if set.ranges.all fun (_, last) => last ≤ 0x7F then
    2 * stateBytes + set.ranges.length * transitionBytes
  else
    let sequences := set.ranges.flatMap Utf8.sequences
    let nodes := nodesWithin 4 sequences
    let steps (nodes : List (List (List Utf8.ByteRange))) : Nat :=
      (nodes.map fun node => (alike node).length).foldl (· + ·) 0
    match direction with
    | .forwards =>
      let nodes := nodes.eraseDups
      (1 + nodes.length) * stateBytes + steps nodes * transitionBytes
    | .backwards => (2 + steps nodes) * stateBytes + sequences.length * linkBytes

/-! ## Texts -/

/-- The bytes for the tree of texts, without its end. Each text is given by the bytes that are left
of it; one of which nothing is left ends at the node. Texts before and after such an end share no
steps. -/
def treeBytesWithin : Nat → List (List Nat) → Nat
  | 0, _ => 0
  | depth + 1, texts =>
    let goingOn := texts.dropWhile List.isEmpty
    let ends := goingOn.countP List.isEmpty + (if goingOn.length < texts.length then 1 else 0)
    let chunks := (goingOn.splitBy fun a b => !a.isEmpty && !b.isEmpty).filter fun chunk =>
      chunk.any fun text => !text.isEmpty
    let chunkBytes (chunk : List (List Nat)) : Nat :=
      let heads := (chunk.filterMap List.head?).eraseDups
      let transitions := if heads.length = 1 then 0 else heads.length * transitionBytes
      let below := heads.map fun head =>
        let rests := (chunk.filter fun text => text.head? == some head).map List.tail
        if rests.all List.isEmpty then 0 else treeBytesWithin depth rests
      stateBytes + transitions + below.foldl (· + ·) 0
    stateBytes + (chunks.length + ends) * linkBytes + (chunks.map chunkBytes).foldl (· + ·) 0

/-- The bytes for a choice between texts. -/
def textsBytes (direction : Direction) (texts : List (List Char)) : Nat :=
  let texts := texts.map fun text =>
    match direction with
    | .forwards => Utf8.bytesOf text
    | .backwards => (Utf8.bytesOf text).reverse
  stateBytes + treeBytesWithin ((texts.map List.length).foldl max 0) texts

/-! ## Expressions -/

/-- The part of an automaton that stands for an expression. -/
structure Fragment where
  bytes : Nat
  /-- Whether its last state is one of choice, which takes a link to what comes next. -/
  endsInChoice : Bool

namespace Fragment

def outBytes (f : Fragment) : Nat := if f.endsInChoice then linkBytes else 0

def andThen (f g : Fragment) : Fragment := ⟨f.bytes + f.outBytes + g.bytes, g.endsInChoice⟩

/-- So many copies, one after the other. -/
def copies (f : Fragment) : Nat → Fragment
  | 0 => ⟨stateBytes, false⟩
  | count + 1 => ⟨(count + 1) * f.bytes + count * f.outBytes, f.endsInChoice⟩

/-- A part that can be left out. -/
def optional (f : Fragment) : Fragment :=
  ⟨2 * stateBytes + f.bytes + 2 * linkBytes + f.outBytes, false⟩

/-- At least `least` copies; `takes` says whether each takes a character. -/
def atLeast (f : Fragment) (takes : Bool) : Nat → Fragment
  | 0 =>
    if takes then ⟨stateBytes + f.bytes + linkBytes + f.outBytes, true⟩
    else ⟨3 * stateBytes + f.bytes + 4 * linkBytes + f.outBytes, false⟩
  | 1 => ⟨stateBytes + f.bytes + linkBytes + f.outBytes, true⟩
  | count + 2 =>
    let before := f.copies (count + 1)
    ⟨before.bytes + before.outBytes + (stateBytes + f.bytes + linkBytes + f.outBytes), true⟩

/-- From `least` to `most` copies. -/
def between (f : Fragment) (least most : Nat) : Fragment :=
  let before := f.copies least
  if least = most then before
  else
    let each := stateBytes + 2 * linkBytes + f.bytes + f.outBytes
    ⟨before.bytes + before.outBytes + stateBytes + (most - least) * each, false⟩

end Fragment

/-- The fragment for an expression. Of a choice that is itself a branch of a choice it holds only the
branches, each with the links that lead to it and on from it. -/
def fragment (direction : Direction) (asBranch : Bool) : Expr → Fragment
  | .empty | .condition _ => ⟨stateBytes, false⟩
  | .chars set =>
    match set.single? with
    | some c => ⟨c.utf8Size * stateBytes, false⟩
    | none => ⟨setBytes direction set, false⟩
  | .seq first second =>
    match direction with
    | .forwards => (fragment direction false first).andThen (fragment direction false second)
    | .backwards => (fragment direction false second).andThen (fragment direction false first)
  | .alt left right =>
    let branch (e : Expr) (f : Fragment) : Nat :=
      match e with
      | .alt .. => f.bytes
      | _ => f.bytes + linkBytes + f.outBytes
    let branches := branch left (fragment direction true left) +
      branch right (fragment direction true right)
    if asBranch then ⟨branches, false⟩
    else
      let texts := ((Expr.alt left right).branches.mapM Expr.text?).getD [[]]
      if texts.any List.isEmpty then ⟨2 * stateBytes + branches, false⟩
      else ⟨textsBytes direction texts, false⟩
  | .group body =>
    let f := fragment direction false body
    match direction with
    | .forwards => ⟨2 * stateBytes + f.bytes + f.outBytes, false⟩
    | .backwards => f
  | .rounds body least most _ =>
    let f := fragment direction false body
    match least, most with
    | 0, some 1 => f.optional
    | least, none => f.atLeast (body.shortest?.any (0 < ·)) least
    | least, some most => f.between least most

/-- Whether matches of the expression begin at the start of the text, or read backwards, at its
end. -/
def isAnchored (direction : Direction) : Expr → Bool
  | .empty | .chars _ => false
  | .condition c =>
    match direction with
    | .forwards => c = .textStart
    | .backwards => c = .textEnd
  | .seq first second =>
    match direction with
    | .forwards =>
      isAnchored direction first || (first.isWeightless && isAnchored direction second)
    | .backwards =>
      isAnchored direction second || (second.isWeightless && isAnchored direction first)
  | .alt left right => isAnchored direction left && isAnchored direction right
  | .group body => isAnchored direction body
  | .rounds body least _ _ => 0 < least && isAnchored direction body

/-- The bytes of a whole automaton: what may be passed before the match, the match, and its end. -/
def bytes (direction : Direction) (e : Expr) : Nat :=
  let anyByte : Fragment := ⟨2 * stateBytes + transitionBytes, false⟩
  let before : Fragment :=
    if isAnchored direction e then ⟨stateBytes, false⟩ else anyByte.atLeast true 0
  let f := match direction with
    | .forwards => fragment direction false (.group e)
    | .backwards => fragment direction false e
  ((before.andThen f).andThen ⟨stateBytes, false⟩).bytes

end Automaton

/-- Whether both automata of the expression keep to the limit. -/
def Expr.fits (e : Expr) : Bool :=
  Automaton.bytes .forwards e ≤ Automaton.sizeLimit &&
    Automaton.bytes .backwards e ≤ Automaton.sizeLimit

end EncodingPlan.Pattern
