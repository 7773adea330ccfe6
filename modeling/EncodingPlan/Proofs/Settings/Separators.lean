import EncodingPlan.Settings.ClassTypes
import Mathlib.Data.List.SplitBy
import Mathlib.Data.Prod.Lex
import Mathlib.Order.WellFounded

/-! Where a list of class stereotypes is cut. What separates is a run of characters outside words
with a comma in it, from the word before it to the word after it. The pattern for it, a comma between
two repetitions that take commas as well, has many matches in such a run. The one that is found next
is the leftmost; it goes from its first repetition as far as there is a comma to come, and with the
second one to the end of the run. So a text that is split at the matches is cut at its runs. -/

namespace EncodingPlan.ClassTypes

variable {cs before left right after : List Char}

theorem isWord_comma : isWord ',' = false := by decide +kernel

/-- None of the characters belongs to a word. -/
def Wordless (cs : List Char) : Prop := ∀ c ∈ cs, isWord c = false

theorem wordless_separator (hleft : Wordless left) (hright : Wordless right) :
    Wordless (left ++ ',' :: right) :=
  List.forall_mem_append.mpr ⟨hleft, List.forall_mem_cons.mpr ⟨isWord_comma, hright⟩⟩

/-! ## Runs -/

/-- The text in longest runs of characters that are all in words or all outside. -/
def runs (cs : List Char) : List (List Char) := cs.splitBy fun c d => isWord c == isWord d

def isSeparator (run : List Char) : Bool := run.all (!isWord ·) && run.contains ','

/-- The pieces between the runs that separate, empty ones included. -/
def piecesBetween (cs : List Char) : List (List Char) :=
  ((runs cs).splitOnP isSeparator).map List.flatten

theorem flatten_runs (cs : List Char) : (runs cs).flatten = cs := List.flatten_splitBy _ cs

theorem isSeparator_of_mem_runs (h : ',' ∉ cs) : ∀ run ∈ runs cs, isSeparator run = false := by
  intro run hrun
  have hcomma : ',' ∉ run := fun hmem =>
    h (flatten_runs cs ▸ List.mem_flatten.mpr ⟨run, hrun, hmem⟩)
  rw [isSeparator, List.contains_eq_mem, decide_eq_false hcomma, Bool.and_false]

theorem piecesBetween_of_not_mem (h : ',' ∉ cs) : piecesBetween cs = [cs] := by
  rw [piecesBetween, List.splitOnP_eq_singleton (isSeparator_of_mem_runs h), List.map_singleton,
    flatten_runs]

/-- The first run that separates, with the texts at its sides. -/
structure SplitsOff (before run after : List Char) : Prop where
  wordless : Wordless run
  comma : ',' ∈ run
  first : ',' ∉ before
  wordBefore : ∀ c ∈ before.getLast?, isWord c = true
  wordAfter : ∀ c ∈ after.head?, isWord c = true

namespace SplitsOff

variable {run : List Char}

theorem isSeparator_run (h : SplitsOff before run after) : isSeparator run = true := by
  rw [isSeparator, List.contains_iff_mem.mpr h.comma, Bool.and_true, List.all_eq_true]
  intro c hc
  rw [h.wordless c hc, Bool.not_false]

theorem runs_eq (h : SplitsOff before run after) :
    runs (before ++ run ++ after) = runs before ++ run :: runs after := by
  have hrun : runs run = [run] := by
    refine List.splitBy_of_isChain (List.ne_nil_of_mem h.comma) (List.Pairwise.isChain ?_)
    refine List.Pairwise.imp_of_mem ?_ (List.pairwise_of_forall fun _ _ => trivial)
    intro c d hc hd _
    rw [h.wordless c hc, h.wordless d hd, beq_self_eq_true]
  have hbefore : runs (before ++ run) = runs before ++ runs run := by
    refine List.splitBy_append fun c hc d hd => ?_
    rw [h.wordBefore c hc, h.wordless d (List.mem_of_mem_head? hd)]
    rfl
  have hafter : runs (before ++ run ++ after) = runs (before ++ run) ++ runs after := by
    refine List.splitBy_append fun c hc d hd => ?_
    rw [List.getLast?_append_of_ne_nil _ (List.ne_nil_of_mem h.comma)] at hc
    rw [h.wordAfter d hd, h.wordless c (List.mem_of_mem_getLast? hc)]
    rfl
  rw [hafter, hbefore, hrun, List.append_assoc, List.singleton_append]

theorem piecesBetween_eq (h : SplitsOff before run after) :
    piecesBetween (before ++ run ++ after) = before :: piecesBetween after := by
  rw [piecesBetween, h.runs_eq, List.splitOnP_append_cons _ _ h.isSeparator_run,
    List.splitOnP_eq_singleton (isSeparator_of_mem_runs h.first), List.singleton_append,
    List.map_cons, flatten_runs, piecesBetween]

end SplitsOff

/-! ## Matches -/

/-- The pattern for separators matches between two parts of a text: with a repetition of characters
outside words, a comma and another repetition. -/
structure Matches (cs before left right after : List Char) : Prop where
  text : cs = before ++ (left ++ ',' :: right) ++ after
  wordlessLeft : Wordless left
  wordlessRight : Wordless right

/-- The match that is found next. It begins as early as any; the first repetition takes as much as
it can, and after it the second one. -/
structure IsNextMatch (cs before left right after : List Char) : Prop
    extends Matches cs before left right after where
  leftmost : ∀ before' left' right' after', Matches cs before' left' right' after' →
    before.length ≤ before'.length
  greedyLeft : ∀ left' right' after', Matches cs before left' right' after' →
    left'.length ≤ left.length
  greedyRight : ∀ right' after', Matches cs before left right' after' →
    right'.length ≤ right.length

/-- The pieces of a text between matches, each of them found next after the one before. -/
inductive SplitsAtMatches : List Char → List (List Char) → Prop where
  | whole {cs : List Char} :
    (∀ before left right after, ¬ Matches cs before left right after) → SplitsAtMatches cs [cs]
  | cut {cs before left right after : List Char} {pieces : List (List Char)} :
    IsNextMatch cs before left right after → SplitsAtMatches after pieces →
    SplitsAtMatches cs (before :: pieces)

theorem matches_of_text (h : cs = before ++ ',' :: after) : Matches cs before [] [] after where
  text := by rw [h, List.nil_append, List.append_assoc, List.singleton_append]
  wordlessLeft := nofun
  wordlessRight := nofun

theorem not_mem_iff :
    ',' ∉ cs ↔ ∀ before left right after, ¬ Matches cs before left right after := by
  refine ⟨fun h before left right after hmatch => h (by simp [hmatch.text]), fun h hmem => ?_⟩
  obtain ⟨before, after, htext⟩ := List.append_of_mem hmem
  exact h _ _ _ _ (matches_of_text htext)

theorem exists_isNextMatch (h : ',' ∈ cs) :
    ∃ before left right after, IsNextMatch cs before left right after := by
  -- matches are preferred by their lengths, and the longer repetitions come first
  let rank (before left right : List Char) : ℕ ×ₗ ℕ ×ₗ ℕ :=
    toLex (before.length, toLex (cs.length - left.length, cs.length - right.length))
  let ranks : Set (ℕ ×ₗ ℕ ×ₗ ℕ) :=
    {r | ∃ before left right after, Matches cs before left right after ∧ rank before left right = r}
  obtain ⟨before, after, htext⟩ := List.append_of_mem h
  have hranks : ranks.Nonempty := ⟨_, before, [], [], after, matches_of_text htext, rfl⟩
  obtain ⟨-, ⟨before, left, right, after, hmatch, rfl⟩, hfirst⟩ :=
    wellFounded_lt.has_min ranks hranks
  refine ⟨before, left, right, after, hmatch, ?_, ?_, ?_⟩
  · intro before' left' right' after' h'
    by_contra hlt
    refine hfirst _ ⟨_, _, _, _, h', rfl⟩ (Prod.Lex.toLex_lt_toLex.mpr (.inl ?_))
    omega
  · intro left' right' after' h'
    by_contra hlt
    have hlen := congrArg List.length h'.text
    refine hfirst _ ⟨_, _, _, _, h', rfl⟩ (Prod.Lex.toLex_lt_toLex.mpr (.inr ⟨rfl, ?_⟩))
    refine Prod.Lex.toLex_lt_toLex.mpr (.inl ?_)
    simp only [List.length_append, List.length_cons] at hlen ⊢
    omega
  · intro right' after' h'
    by_contra hlt
    have hlen := congrArg List.length h'.text
    refine hfirst _ ⟨_, _, _, _, h', rfl⟩ (Prod.Lex.toLex_lt_toLex.mpr (.inr ⟨rfl, ?_⟩))
    refine Prod.Lex.toLex_lt_toLex.mpr (.inr ⟨rfl, ?_⟩)
    simp only [List.length_append, List.length_cons] at hlen ⊢
    omega

/-- The next match is a whole run. -/
theorem IsNextMatch.splitsOff (h : IsNextMatch cs before left right after) :
    SplitsOff before (left ++ ',' :: right) after where
  wordless := wordless_separator h.wordlessLeft h.wordlessRight
  comma := by simp
  first hmem := by
    obtain ⟨earlier, rest, hbefore⟩ := List.append_of_mem hmem
    have hle := h.leftmost earlier [] [] (rest ++ (left ++ ',' :: right) ++ after)
      (matches_of_text (by rw [h.text, hbefore]; simp))
    rw [hbefore, List.length_append, List.length_cons] at hle
    omega
  wordBefore c hc := by
    obtain ⟨earlier, hbefore⟩ := List.getLast?_eq_some_iff.mp hc
    by_contra hword
    have hle := h.leftmost earlier (c :: left) right after
      ⟨by rw [h.text, hbefore]; simp,
        List.forall_mem_cons.mpr ⟨Bool.eq_false_iff.mpr hword, h.wordlessLeft⟩, h.wordlessRight⟩
    rw [hbefore, List.length_append, List.length_singleton] at hle
    omega
  wordAfter c hc := by
    obtain ⟨rest, hafter⟩ := List.head?_eq_some_iff.mp hc
    by_contra hword
    have hle := h.greedyRight (right ++ [c]) rest
      ⟨by rw [h.text, hafter]; simp, h.wordlessLeft,
        List.forall_mem_append.mpr
          ⟨h.wordlessRight, List.forall_mem_singleton.mpr (Bool.eq_false_iff.mpr hword)⟩⟩
    rw [List.length_append, List.length_singleton] at hle
    omega

theorem splitsAtMatches_piecesBetween (cs : List Char) :
    SplitsAtMatches cs (piecesBetween cs) := by
  -- what is left after a match is shorter
  induction hlen : cs.length using Nat.strong_induction_on generalizing cs with
  | _ count ih =>
    by_cases hcomma : ',' ∈ cs
    · obtain ⟨before, left, right, after, hnext⟩ := exists_isNextMatch hcomma
      have hshort : after.length < count := by
        rw [← hlen, hnext.text, List.length_append, List.length_append, List.length_append,
          List.length_cons]
        omega
      have hpieces := hnext.splitsOff.piecesBetween_eq
      rw [← hnext.text] at hpieces
      rw [hpieces]
      exact .cut hnext (ih _ hshort after rfl)
    · rw [piecesBetween_of_not_mem hcomma]
      exact .whole (not_mem_iff.mp hcomma)

theorem splitsAtMatches_iff {pieces : List (List Char)} :
    SplitsAtMatches cs pieces ↔ pieces = piecesBetween cs := by
  refine ⟨fun h => ?_, fun h => h ▸ splitsAtMatches_piecesBetween cs⟩
  induction h with
  | whole hnone => exact (piecesBetween_of_not_mem (not_mem_iff.mpr hnone)).symm
  | cut hnext _ ih => rw [hnext.text, hnext.splitsOff.piecesBetween_eq, ih]

end EncodingPlan.ClassTypes
