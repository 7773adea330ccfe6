import EncodingPlan.Pattern.Expr

/-! Which spans of a text an expression matches. A span is judged where it stands: between the
character before it and the text after it, which conditions look at. -/

namespace EncodingPlan.Pattern

/-- The character before what follows a span. -/
def lastOf (before : Option Char) : List Char → Option Char
  | [] => before
  | c :: cs => lastOf (some c) cs

@[simp] theorem lastOf_nil (before : Option Char) : lastOf before [] = before := rfl

@[simp] theorem lastOf_cons (before : Option Char) (c : Char) (cs : List Char) :
    lastOf before (c :: cs) = lastOf (some c) cs := rfl

@[simp] theorem lastOf_append (before : Option Char) (cs ds : List Char) :
    lastOf before (cs ++ ds) = lastOf (lastOf before cs) ds := by
  induction cs generalizing before with
  | nil => rfl
  | cons c cs ih => exact ih (some c)

theorem lastOf_none_eq_none_iff {cs : List Char} : lastOf none cs = none ↔ cs = [] := by
  have hsome (c : Char) (cs : List Char) : lastOf (some c) cs ≠ none := by
    induction cs generalizing c with
    | nil => simp
    | cons d cs ih => exact ih d
  cases cs with
  | nil => simp
  | cons c cs => simp [hsome]

/-- Says of a span whether it matches, given what stands before it and after it. -/
abbrev SpanRelation := Option Char → List Char → List Char → Prop

/-- So many matches, one directly after the other. -/
def Repeats (matched : SpanRelation) : Nat → SpanRelation
  | 0, _, span, _ => span = []
  | count + 1, before, span, after => ∃ first rest, span = first ++ rest ∧
      matched before first (rest ++ after) ∧
      Repeats matched count (lastOf before first) rest after

namespace Expr

/-- The expression matches the span between `before` and `after`. -/
def Spans : Expr → SpanRelation
  | empty, _, span, _ => span = []
  | chars set, _, span, _ => ∃ c, span = [c] ∧ set.has c = true
  | condition c, before, span, after => span = [] ∧ c.holds ⟨before, after.head?⟩ = true
  | seq first second, before, span, after => ∃ s t, span = s ++ t ∧
      first.Spans before s (t ++ after) ∧ second.Spans (lastOf before s) t after
  | alt left right, before, span, after =>
      left.Spans before span after ∨ right.Spans before span after
  | group body, before, span, after => body.Spans before span after
  | rounds body least most _, before, span, after => ∃ count, least ≤ count ∧
      (∀ bound ∈ most, count ≤ bound) ∧ Repeats body.Spans count before span after

/-- No repetition asks for more rounds than it allows. -/
def IsOrdered : Expr → Prop
  | empty | chars _ | condition _ => True
  | seq first second => first.IsOrdered ∧ second.IsOrdered
  | alt left right => left.IsOrdered ∧ right.IsOrdered
  | group body => body.IsOrdered
  | rounds body least most _ => body.IsOrdered ∧ ∀ bound ∈ most, least ≤ bound

variable {before : Option Char} {span after : List Char}

theorem spans_seq_empty_left (next : Expr) :
    (seq empty next).Spans before span after ↔ next.Spans before span after := by
  constructor
  · rintro ⟨_, t, rfl, rfl, ht⟩
    exact ht
  · exact fun h => ⟨[], span, rfl, rfl, h⟩

theorem spans_seq_empty_right (first : Expr) :
    (seq first empty).Spans before span after ↔ first.Spans before span after := by
  constructor
  · rintro ⟨s, _, rfl, hs, rfl⟩
    rwa [List.append_nil]
  · exact fun h => ⟨span, [], (List.append_nil span).symm, h, rfl⟩

theorem spans_seq_seq (first second third : Expr) :
    (seq (seq first second) third).Spans before span after ↔
      (seq first (seq second third)).Spans before span after := by
  constructor
  · rintro ⟨_, u, rfl, ⟨s, t, rfl, hs, ht⟩, hu⟩
    refine ⟨s, t ++ u, List.append_assoc .., ?_, t, u, rfl, ht, ?_⟩
    · rwa [List.append_assoc]
    · rwa [lastOf_append] at hu
  · rintro ⟨s, _, rfl, hs, t, u, rfl, ht, hu⟩
    refine ⟨s ++ t, u, (List.append_assoc ..).symm, ⟨s, t, rfl, ?_, ht⟩, ?_⟩
    · rwa [List.append_assoc] at hs
    · rwa [lastOf_append]

theorem spans_seq_congr {first second other : Expr}
    (h : ∀ before span after, second.Spans before span after ↔ other.Spans before span after) :
    (seq first second).Spans before span after ↔ (seq first other).Spans before span after := by
  simp only [Spans, h]

/-- One expression after the other matches what the two match in turn. -/
theorem spans_andThen (first next : Expr) (before : Option Char) (span after : List Char) :
    (first.andThen next).Spans before span after ↔ (seq first next).Spans before span after := by
  have hplain (first : Expr) (before : Option Char) (span after : List Char) :
      (if next = empty then first else seq first next).Spans before span after ↔
        (seq first next).Spans before span after := by
    split
    · rename_i h
      rw [h, spans_seq_empty_right]
    · rfl
  induction first generalizing before span after with
  | empty => exact (spans_seq_empty_left next).symm
  | seq first second _ ih =>
    exact (spans_seq_congr ih).trans (spans_seq_seq first second next).symm
  | chars set => exact hplain ..
  | condition c => exact hplain ..
  | alt left right => exact hplain ..
  | group body => exact hplain ..
  | rounds body least most greedy => exact hplain ..

theorem spans_ofParts_cons (part : Expr) (parts : List Expr) :
    (ofParts (part :: parts)).Spans before span after ↔
      ∃ s t, span = s ++ t ∧ part.Spans before s (t ++ after) ∧
        (ofParts parts).Spans (lastOf before s) t after :=
  spans_andThen part (ofParts parts) before span after

theorem spans_ofParts_nil : (ofParts []).Spans before span after ↔ span = [] := Iff.rfl

end Expr

end EncodingPlan.Pattern
