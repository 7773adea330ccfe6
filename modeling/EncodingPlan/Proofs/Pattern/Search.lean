import EncodingPlan.Pattern.Search
import EncodingPlan.Proofs.Pattern.Spans
import Mathlib.Logic.Basic

/-! Looking for a match finds one if there is one. Marks stand for what can be read on from a place
to complete a match that was begun before it. Reading a character on from new marks is reading it
first from the old ones, or from a beginning at the place. A repetition counts the rounds that take
characters; a place at which the body matches nothing makes up for all rounds that are missing. -/

namespace EncodingPlan.Pattern

theorem mem_eraseReps {α : Type} [BEq α] [LawfulBEq α] {a : α} {as : List α} :
    a ∈ as.eraseReps ↔ a ∈ as := by
  have hloop (b : α) (bs acc : List α) :
      a ∈ List.eraseRepsBy.loop (· == ·) b bs acc ↔ a ∈ acc ∨ a ∈ b :: bs := by
    induction bs generalizing b acc with
    | nil => simp [List.eraseRepsBy.loop, or_comm]
    | cons c bs ih =>
      rw [List.eraseRepsBy.loop]
      split
      · rename_i h
        simp [ih, eq_of_beq h]
      · rw [ih, List.mem_cons, List.mem_cons (b := b), or_left_comm, or_assoc]
  cases as with
  | nil => rfl
  | cons b bs => simp [List.eraseReps, List.eraseRepsBy, hloop]

/-- A prefix of a span with a first character is empty or takes that character. -/
theorem exists_cons_eq_append_iff {c : Char} {span : List Char}
    {holds : List Char → List Char → Prop} :
    (∃ s t, c :: span = s ++ t ∧ holds s t) ↔
      holds [] (c :: span) ∨ ∃ s t, span = s ++ t ∧ holds (c :: s) t := by
  constructor
  · rintro ⟨s, t, h, hst⟩
    rcases List.cons_eq_append_iff.mp h with ⟨rfl, rfl⟩ | ⟨s, rfl, rfl⟩
    · exact .inl hst
    · exact .inr ⟨s, t, rfl, hst⟩
  · rintro (h | ⟨s, t, rfl, h⟩)
    · exact ⟨[], _, rfl, h⟩
    · exact ⟨c :: s, t, rfl, h⟩

/-! ## Rounds -/

theorem Round.of_after? {number least : Nat} {enough : Bool} {most : Option Nat}
    {following : Round} (h : Round.after? number enough least most = some following) :
    (∀ bound ∈ most, following.number = number + 1 ∧ number + 1 ≤ bound) ∧
      (following.enough = false → following.number = number + 1) ∧
      (following.enough = true ↔ enough = true ∨ least ≤ number + 1) := by
  cases most with
  | none =>
    cases Option.some.inj h
    exact ⟨by simp, fun henough => if_neg (Bool.eq_false_iff.mp henough), by simp⟩
  | some most =>
    simp only [Round.after?, Option.ite_none_right_eq_some, Option.some.injEq] at h
    obtain ⟨hlt, rfl⟩ := h
    exact ⟨fun bound hbound => ⟨rfl, by rw [← Option.some.inj hbound]; exact hlt⟩, fun _ => rfl,
      by simp⟩

theorem Round.exists_after? {number : Nat} {most : Option Nat}
    (h : ∀ bound ∈ most, number + 1 ≤ bound) (enough : Bool) (least : Nat) :
    ∃ following, Round.after? number enough least most = some following := by
  cases most with
  | none => exact ⟨_, rfl⟩
  | some most => exact ⟨_, if_pos (h most rfl)⟩

/-- What can follow a round of a repetition that has ended: nothing, if there are enough rounds or
the body matches nothing here, or a further round that takes characters. -/
inductive GoesOn (matched : SpanRelation) (least : Nat) (most : Option Nat) :
    Round → SpanRelation where
  | stop {round : Round} {before : Option Char} {after : List Char}
      (h : round.enough = true ∨ matched before [] after) :
      GoesOn matched least most round before [] after
  | next {round following : Round} {before : Option Char} {first rest after : List Char}
      {passes : Bool} (hpasses : passes = true ↔ matched before [] (first ++ rest ++ after))
      (hround : Round.after? round.number (round.enough || passes) least most = some following)
      (htakes : first ≠ []) (hfirst : matched before first (rest ++ after))
      (hrest : GoesOn matched least most following (lastOf before first) rest after) :
      GoesOn matched least most round before (first ++ rest) after

variable {matched : SpanRelation} {least : Nat} {most : Option Nat} {round : Round}
  {before : Option Char} {span after : List Char}

theorem goesOn_nil_iff : GoesOn matched least most round before [] after ↔
    round.enough = true ∨ matched before [] after := by
  constructor
  · intro h
    generalize hspan : ([] : List Char) = span at h
    cases h with
    | stop h => exact h
    | next _ _ htakes _ _ => exact absurd (List.append_eq_nil_iff.mp hspan.symm).1 htakes
  · exact .stop

theorem goesOn_cons_iff {c : Char} {passes : Bool}
    (hpasses : passes = true ↔ matched before [] (c :: span ++ after)) :
    GoesOn matched least most round before (c :: span) after ↔
      ∃ following, Round.after? round.number (round.enough || passes) least most = some following ∧
        ∃ s t, span = s ++ t ∧ matched before (c :: s) (t ++ after) ∧
          GoesOn matched least most following (lastOf (some c) s) t after := by
  constructor
  · intro h
    generalize hspan : c :: span = whole at h
    cases h with
    | stop _ => cases hspan
    | @next _ following _ first rest _ passes' hpasses' hround htakes hfirst hrest =>
      rcases List.cons_eq_append_iff.mp hspan with ⟨rfl, -⟩ | ⟨s, rfl, rfl⟩
      · exact absurd rfl htakes
      · have heq : passes' = passes := by
          rw [Bool.eq_iff_iff, hpasses, hpasses', List.cons_append, List.cons_append]
        exact ⟨following, heq ▸ hround, s, rest, rfl, hfirst, hrest⟩
  · rintro ⟨following, hround, s, t, rfl, hfirst, hrest⟩
    have htakes : c :: s ≠ [] := List.cons_ne_nil _ _
    exact .next hpasses hround htakes hfirst hrest

/-- Matches of nothing can be put before others. -/
theorem Repeats.pad {count : Nat} (h : Repeats matched count before span after)
    (hempty : matched before [] (span ++ after)) (more : Nat) :
    Repeats matched (count + more) before span after := by
  induction more with
  | zero => exact h
  | succ more ih => exact ⟨[], span, rfl, hempty, ih⟩

/-- The rounds that go on, with those that are made up for by matches of nothing, are enough and not
too many. -/
theorem GoesOn.exists_repeats (h : GoesOn matched least most round before span after)
    (hordered : ∀ bound ∈ most, least ≤ bound) (hround : ∀ bound ∈ most, round.number ≤ bound) :
    ∃ count, Repeats matched count before span after ∧
      (∀ bound ∈ most, round.number + count ≤ bound) ∧
      (round.enough = true ∨ least ≤ round.number + count) := by
  induction h with
  | @stop round before after h =>
    rcases h with henough | hempty
    · exact ⟨0, rfl, hround, .inl henough⟩
    · -- the rounds that are missing take nothing
      have hnone : Repeats matched 0 before [] after := rfl
      refine ⟨0 + (least - round.number), hnone.pad hempty _, fun bound hbound => ?_, .inr ?_⟩
      · have := hordered bound hbound
        have := hround bound hbound
        omega
      · omega
  | @next round following before first rest after passes hpasses hfollowing htakes hfirst _ ih =>
    obtain ⟨hbounds, hnumber, henough⟩ := Round.of_after? hfollowing
    obtain ⟨count, hrepeats, hmost, hleast⟩ := ih fun bound hbound => by
      have := hbounds bound hbound
      omega
    have hrepeated : Repeats matched (count + 1) before (first ++ rest) after :=
      ⟨first, rest, rfl, hfirst, hrepeats⟩
    by_cases hpass : passes = true
    · refine ⟨count + 1 + (least - (round.number + count + 1)), hrepeated.pad (hpasses.mp hpass) _,
        fun bound hbound => ?_, .inr ?_⟩
      · have := hordered bound hbound
        have := hmost bound hbound
        have := (hbounds bound hbound).1
        omega
      · omega
    · refine ⟨count + 1, hrepeated, fun bound hbound => ?_, ?_⟩
      · have := hmost bound hbound
        have := (hbounds bound hbound).1
        omega
      · by_cases hfollowing : following.enough = true
        · rcases henough.mp hfollowing with h | h
          · exact .inl (by simpa [hpass] using h)
          · exact .inr (by omega)
        · have := hnumber (by simpa using hfollowing)
          have := hleast.resolve_left hfollowing
          exact .inr (by omega)

theorem Repeats.goesOn {count : Nat} (h : Repeats matched count before span after)
    (hmost : ∀ bound ∈ most, round.number + count ≤ bound)
    (hleast : round.enough = true ∨ least ≤ round.number + count)
    (hround : least ≤ round.number → round.enough = true) :
    GoesOn matched least most round before span after := by
  induction count generalizing round before span with
  | zero =>
    cases h
    exact .stop (.inl (hleast.elim id hround))
  | succ count ih =>
    obtain ⟨first, rest, rfl, hfirst, hrest⟩ := h
    cases first with
    | nil =>
      -- the round takes nothing, so there are enough rounds from here on
      have hpasses : true = true ↔ matched before [] (rest ++ after) := iff_of_true rfl hfirst
      have hgoes : GoesOn matched least most ⟨round.number, true⟩ before rest after :=
        ih hrest (fun bound hbound => Nat.le_of_succ_le (hmost bound hbound)) (.inl rfl)
          fun _ => rfl
      cases rest with
      | nil => exact .stop (.inr hfirst)
      | cons c rest =>
        rw [List.nil_append, goesOn_cons_iff hpasses, Bool.or_true]
        exact (goesOn_cons_iff hpasses).mp hgoes
    | cons c first =>
      obtain ⟨passes, hpasses⟩ : ∃ passes : Bool,
          passes = true ↔ matched before [] (c :: first ++ rest ++ after) := by
        classical
        exact ⟨decide (matched before [] (c :: first ++ rest ++ after)), decide_eq_true_iff⟩
      obtain ⟨following, hfollowing⟩ :
          ∃ following, Round.after? round.number (round.enough || passes) least most =
            some following :=
        Round.exists_after? (fun bound hbound => by have := hmost bound hbound; omega) _ _
      obtain ⟨hbounds, hnumber, henough⟩ := Round.of_after? hfollowing
      refine .next hpasses hfollowing (List.cons_ne_nil c first) hfirst (ih hrest ?_ ?_ ?_)
      · intro bound hbound
        have := hmost bound hbound
        have := hbounds bound hbound
        omega
      · by_cases hfollows : following.enough = true
        · exact .inl hfollows
        · have hnot := mt henough.mpr hfollows
          rw [Bool.or_eq_true] at hnot
          have := hnumber (by simpa using hfollows)
          have := hleast.resolve_left fun h => hnot (.inl (.inl h))
          exact .inr (by omega)
      · intro hle
        refine Bool.of_not_eq_false fun hfollows => ?_
        have := hnumber hfollows
        have henoughs := henough.mpr (.inr (by omega))
        rw [hfollows] at henoughs
        cases henoughs

namespace Expr

theorem spans_rounds_iff {body : Expr} {greedy : Bool} (h : ∀ bound ∈ most, least ≤ bound) :
    (rounds body least most greedy).Spans before span after ↔
      GoesOn body.Spans least most ⟨0, least == 0⟩ before span after := by
  constructor
  · rintro ⟨count, hleast, hmost, hrepeats⟩
    refine hrepeats.goesOn (fun bound hbound => ?_) (.inr ?_) fun hle => ?_
    · simpa using hmost bound hbound
    · simpa using hleast
    · simpa using hle
  · intro hgoes
    obtain ⟨count, hrepeats, hmost, hleast⟩ := hgoes.exists_repeats h fun _ _ => Nat.zero_le _
    refine ⟨count, ?_, fun bound hbound => by simpa using hmost bound hbound, hrepeats⟩
    rcases hleast with hleast | hleast
    · rw [beq_iff_eq] at hleast
      exact hleast ▸ Nat.zero_le count
    · simpa using hleast

/-! ## Marks -/

/-- A match that the marks stand for can be completed by the span. -/
def Leads : Expr → Marks → SpanRelation
  | empty, _, _, _, _ | condition _, _, _, _, _ => False
  | chars _, marks, _, span, _ => marks.isRead = true ∧ span = []
  | seq first second, marks, before, span, after =>
      (∃ s t, span = s ++ t ∧ first.Leads marks.first before s (t ++ after) ∧
        second.Spans (lastOf before s) t after) ∨
      second.Leads marks.second before span after
  | alt left right, marks, before, span, after =>
      left.Leads marks.first before span after ∨ right.Leads marks.second before span after
  | group body, marks, before, span, after => body.Leads marks before span after
  | rounds body least most _, marks, before, span, after =>
      ∃ s t, span = s ++ t ∧ ∃ round begun, (round, begun) ∈ marks.begun ∧
        body.Leads begun before s (t ++ after) ∧
        GoesOn body.Spans least most round (lastOf before s) t after

theorem not_leads_none (e : Expr) : ¬ e.Leads .none before span after := by
  induction e generalizing before span after with
  | empty => exact id
  | condition c => exact id
  | chars set => exact fun h => Bool.false_ne_true h.1
  | seq first second ihfirst ihsecond =>
    rintro (⟨s, t, -, hs, -⟩ | h)
    · exact ihfirst hs
    · exact ihsecond h
  | alt left right ihleft ihright =>
    rintro (h | h)
    · exact ihleft h
    · exact ihright h
  | group body ih => exact ih
  | rounds body least most greedy ih =>
    rintro ⟨s, t, -, round, begun, hmem, -, -⟩
    cases hmem

/-- An expression that matches nothing at a place is passed there. -/
theorem passes_iff {e : Expr} (h : e.IsOrdered) (before : Option Char) (after : List Char) :
    e.passes ⟨before, after.head?⟩ = true ↔ e.Spans before [] after := by
  induction e generalizing before after with
  | empty => simp [passes, Spans]
  | condition c => simp [passes, Spans]
  | chars set => simp [passes, Spans]
  | seq first second ihfirst ihsecond =>
    simp only [passes, Bool.and_eq_true, ihfirst h.1, ihsecond h.2, Spans]
    constructor
    · rintro ⟨hfirst, hsecond⟩
      exact ⟨[], [], rfl, hfirst, hsecond⟩
    · rintro ⟨s, t, hst, hfirst, hsecond⟩
      obtain ⟨rfl, rfl⟩ := List.append_eq_nil_iff.mp hst.symm
      exact ⟨hfirst, hsecond⟩
  | alt left right ihleft ihright =>
    simp only [passes, Bool.or_eq_true, ihleft h.1, ihright h.2, Spans]
  | group body ih => exact ih h before after
  | rounds body least most greedy ih =>
    rw [spans_rounds_iff h.2, goesOn_nil_iff, passes, Bool.or_eq_true, ih h.1]

/-- A match that the marks stand for ends at the place. -/
theorem finishes_iff {e : Expr} (h : e.IsOrdered) {marks : Marks} (before : Option Char)
    (after : List Char) :
    e.finishes ⟨before, after.head?⟩ marks = true ↔ e.Leads marks before [] after := by
  induction e generalizing before after marks with
  | empty => simp [finishes, Leads]
  | condition c => simp [finishes, Leads]
  | chars set => simp [finishes, Leads]
  | seq first second ihfirst ihsecond =>
    simp only [finishes, Bool.or_eq_true, Bool.and_eq_true, ihfirst h.1, ihsecond h.2,
      passes_iff h.2, Leads]
    constructor
    · rintro (hsecond | ⟨hfirst, hsecond⟩)
      · exact .inr hsecond
      · exact .inl ⟨[], [], rfl, hfirst, hsecond⟩
    · rintro (⟨s, t, hst, hfirst, hsecond⟩ | hsecond)
      · obtain ⟨rfl, rfl⟩ := List.append_eq_nil_iff.mp hst.symm
        exact .inr ⟨hfirst, hsecond⟩
      · exact .inl hsecond
  | alt left right ihleft ihright =>
    simp only [finishes, Bool.or_eq_true, ihleft h.1, ihright h.2, Leads]
  | group body ih => exact ih h before after
  | rounds body least most greedy ih =>
    simp only [finishes, List.any_eq_true, Prod.exists, Bool.and_eq_true, Bool.or_eq_true, ih h.1,
      passes_iff h.1, Leads]
    constructor
    · rintro ⟨round, begun, hmem, hstop, hbody⟩
      exact ⟨[], [], rfl, round, begun, hmem, hbody, .stop hstop⟩
    · rintro ⟨s, t, hst, round, begun, hmem, hbody, hgoes⟩
      obtain ⟨rfl, rfl⟩ := List.append_eq_nil_iff.mp hst.symm
      exact ⟨round, begun, hmem, goesOn_nil_iff.mp hgoes, hbody⟩

end Expr

namespace Marks

@[simp] theorem first_pair (first second : Marks) : (pair first second).first = first := by
  cases first <;> cases second <;> rfl

@[simp] theorem second_pair (first second : Marks) : (pair first second).second = second := by
  cases first <;> cases second <;> rfl

@[simp] theorem begun_ofRounds (begun : List (Round × Marks)) : (ofRounds begun).begun = begun := by
  cases begun <;> rfl

/-- Side by side stand all rounds that begin and all that were begun before. -/
theorem exists_alongside_iff {starts : List Round} {begun : List (Round × Marks)}
    {goesOn : Round → Marks → Prop} {begins : Round → Prop}
    (hnone : ∀ round, ¬ goesOn round .none) :
    (∃ entry ∈ alongside starts begun,
        goesOn entry.1 entry.2.2 ∨ entry.2.1 = true ∧ begins entry.1) ↔
      (∃ entry ∈ begun, goesOn entry.1 entry.2) ∨ ∃ round ∈ starts, begins round := by
  fun_induction alongside starts begun with
  | case1 begun => simp
  | case2 starts hstarts =>
    simp only [List.mem_map, exists_exists_and_eq_and, hnone, false_or, true_and]
    simp
  | case3 starts round marks begun ih =>
    simp only [List.mem_cons, exists_eq_or_imp, ih, true_and]
    exact Iff.of_eq (by ac_rfl)
  | case4 start starts round marks begun hne hle ih =>
    simp only [List.mem_cons, exists_eq_or_imp, ih, true_and, hnone, false_or]
    exact Iff.of_eq (by ac_rfl)
  | case5 start starts round marks begun hne hle ih =>
    simp only [List.mem_cons, exists_eq_or_imp, ih, Bool.false_eq_true, false_and, or_false]
    exact Iff.of_eq (by ac_rfl)

end Marks

theorem mem_starts_iff {passes enters : Bool} {ended : List Round} :
    round ∈ Expr.starts least most passes enters ended ↔
      (enters = true ∧ Round.after? 0 ((least == 0) || passes) least most = some round) ∨
        ∃ begun ∈ ended,
          Round.after? begun.number (begun.enough || passes) least most = some round := by
  have henough : ((least == 0) || passes || decide (least ≤ 0 + 1)) =
      (passes || decide (least ≤ 0 + 1)) := by
    cases passes with
    | true => simp
    | false => cases least <;> simp
  have hzero : Round.after? 0 ((least == 0) || passes) least most =
      Round.after? 0 passes least most := by
    simp only [Round.after?, henough]
  rw [Expr.starts, mem_eraseReps, List.mem_append, List.mem_filterMap, hzero]
  cases enters <;> simp

namespace Expr

/-- Where nothing is under way and nothing begins, nothing is read. -/
theorem leads_advance_of_idle {e : Expr} {marks : Marks} {enters : Bool} {c : Char}
    (hidle : (!enters && marks.isNone) = true) :
    e.Leads (e.advance ⟨before, some c⟩ enters marks) (some c) span after ↔
      e.Leads marks before (c :: span) after ∨
        enters = true ∧ e.Spans before (c :: span) after := by
  have hadvance : e.advance ⟨before, some c⟩ enters marks = .none := by
    rw [advance.eq_def, if_pos hidle]
  obtain ⟨henters, hmarks⟩ := Bool.and_eq_true_iff.mp hidle
  have hnone : marks = .none := by cases marks <;> simp_all [Marks.isNone]
  rw [Bool.not_eq_true'] at henters
  rw [hadvance, hnone, henters]
  simp [not_leads_none]

/-- The rounds whose marks have been moved are those begun before and those that begin here. -/
theorem exists_moved_iff {body : Expr} {c : Char} {starts : List Round}
    {begun : List (Round × Marks)} {goes : Round → Prop}
    (hbody : ∀ enters marks,
      body.Leads (body.advance ⟨before, some c⟩ enters marks) (some c) span after ↔
        body.Leads marks before (c :: span) after ∨
          enters = true ∧ body.Spans before (c :: span) after) :
    (∃ round marks,
      (round, marks) ∈ ((Marks.alongside starts begun).map fun (round, enters, marks) =>
        (round, body.advance ⟨before, some c⟩ enters marks)).filter
          (fun (_, marks) => !marks.isNone) ∧
      body.Leads marks (some c) span after ∧ goes round) ↔
      (∃ entry ∈ begun, body.Leads entry.2 before (c :: span) after ∧ goes entry.1) ∨
        ∃ round ∈ starts, body.Spans before (c :: span) after ∧ goes round := by
  refine Iff.trans ?_ (@Marks.exists_alongside_iff starts begun
    (fun round marks => body.Leads marks before (c :: span) after ∧ goes round)
    (fun round => body.Spans before (c :: span) after ∧ goes round)
    fun _ h => not_leads_none body h.1)
  constructor
  · rintro ⟨round, marks, hmem, hleads, hgoes⟩
    obtain ⟨entry, hentry, heq⟩ := List.mem_map.mp (List.mem_filter.mp hmem).1
    cases heq
    refine ⟨entry, hentry, ?_⟩
    rcases (hbody _ _).mp hleads with h | ⟨henters, h⟩
    · exact .inl ⟨h, hgoes⟩
    · exact .inr ⟨henters, h, hgoes⟩
  · rintro ⟨entry, hentry, h⟩
    have hleads :
        body.Leads (body.advance ⟨before, some c⟩ entry.2.1 entry.2.2) (some c) span after :=
      (hbody _ _).mpr (h.imp And.left fun h => ⟨h.1, h.2.1⟩)
    have hsome : (!(body.advance ⟨before, some c⟩ entry.2.1 entry.2.2).isNone) = true := by
      rw [Bool.not_eq_true']
      refine Bool.eq_false_iff.mpr fun hnone => ?_
      cases hadvance : body.advance ⟨before, some c⟩ entry.2.1 entry.2.2 <;>
        rw [hadvance] at hleads hnone
      · exact not_leads_none body hleads
      all_goals cases hnone
    exact ⟨entry.1, _, List.mem_filter.mpr ⟨List.mem_map.mpr ⟨entry, hentry, rfl⟩, hsome⟩, hleads,
      h.elim And.right fun h => h.2.2⟩

/-- Reading a character from moved marks on is reading it first from the marks as they were, or from
a beginning at the place. -/
theorem leads_advance_iff {e : Expr} (h : e.IsOrdered) {marks : Marks} {enters : Bool} {c : Char} :
    e.Leads (e.advance ⟨before, some c⟩ enters marks) (some c) span after ↔
      e.Leads marks before (c :: span) after ∨
        enters = true ∧ e.Spans before (c :: span) after := by
  induction e generalizing before span after marks enters with
  | empty =>
    simp only [advance, ite_self]
    simp [Leads, Spans]
  | condition condition =>
    simp only [advance, ite_self]
    simp [Leads, Spans]
  | chars set =>
    by_cases hidle : (!enters && marks.isNone) = true
    · exact leads_advance_of_idle hidle
    rw [advance, if_neg hidle, Option.any_some]
    have hspan : (∃ d, c :: span = [d] ∧ set.has d = true) ↔ span = [] ∧ set.has c = true := by
      simp [and_assoc]
    simp only [Leads, Spans, reduceCtorEq, and_false, false_or, hspan]
    cases enters <;> cases set.has c <;> simp [Marks.isRead]
  | seq first second ihfirst ihsecond =>
    by_cases hidle : (!enters && marks.isNone) = true
    · exact leads_advance_of_idle hidle
    rw [advance, if_neg hidle]
    have hfinishes : first.finishes ⟨before, some c⟩ marks.first = true ↔
        first.Leads marks.first before [] (c :: span ++ after) :=
      finishes_iff h.1 before (c :: span ++ after)
    have hpasses : first.passes ⟨before, some c⟩ = true ↔
        first.Spans before [] (c :: span ++ after) :=
      passes_iff h.1 before (c :: span ++ after)
    simp only [Leads, Spans, Marks.first_pair, Marks.second_pair, ihfirst h.1, ihsecond h.2,
      exists_cons_eq_append_iff, Bool.or_eq_true, Bool.and_eq_true, hfinishes, hpasses,
      lastOf_nil, lastOf_cons]
    constructor
    · rintro (⟨s, t, rfl, hs | ⟨henters, hs⟩, ht⟩ | ht | ⟨hs | ⟨henters, hs⟩, ht⟩)
      · exact .inl (.inl (.inr ⟨s, t, rfl, hs, ht⟩))
      · exact .inr ⟨henters, .inr ⟨s, t, rfl, hs, ht⟩⟩
      · exact .inl (.inr ht)
      · exact .inl (.inl (.inl ⟨hs, ht⟩))
      · exact .inr ⟨henters, .inl ⟨hs, ht⟩⟩
    · rintro (((⟨hs, ht⟩ | ⟨s, t, rfl, hs, ht⟩) | ht) | ⟨henters, ⟨hs, ht⟩ | ⟨s, t, rfl, hs, ht⟩⟩)
      · exact .inr (.inr ⟨.inl hs, ht⟩)
      · exact .inl ⟨s, t, rfl, .inl hs, ht⟩
      · exact .inr (.inl ht)
      · exact .inr (.inr ⟨.inr ⟨henters, hs⟩, ht⟩)
      · exact .inl ⟨s, t, rfl, .inr ⟨henters, hs⟩, ht⟩
  | alt left right ihleft ihright =>
    by_cases hidle : (!enters && marks.isNone) = true
    · exact leads_advance_of_idle hidle
    rw [advance, if_neg hidle]
    simp only [Leads, Spans, Marks.first_pair, Marks.second_pair, ihleft h.1, ihright h.2]
    rw [and_or_left, or_or_or_comm]
  | group body ih =>
    by_cases hidle : (!enters && marks.isNone) = true
    · exact leads_advance_of_idle hidle
    rw [advance, if_neg hidle]
    exact ih h
  | rounds body least most greedy ih =>
    by_cases hidle : (!enters && marks.isNone) = true
    · exact leads_advance_of_idle hidle
    rw [advance, if_neg hidle]
    have hfinishes (begun : Marks) : body.finishes ⟨before, some c⟩ begun = true ↔
        body.Leads begun before [] (c :: span ++ after) :=
      finishes_iff h.1 before (c :: span ++ after)
    have hpasses : body.passes ⟨before, some c⟩ = true ↔
        body.Spans before [] (c :: span ++ after) :=
      passes_iff h.1 before (c :: span ++ after)
    -- a round goes on with a round that begins here, in which the character is read
    have hgoesOn (round : Round) :
        GoesOn body.Spans least most round before (c :: span) after ↔
          ∃ following, Round.after? round.number
              (round.enough || body.passes ⟨before, some c⟩) least most = some following ∧
            ∃ s t, span = s ++ t ∧ body.Spans before (c :: s) (t ++ after) ∧
              GoesOn body.Spans least most following (lastOf (some c) s) t after :=
      goesOn_cons_iff hpasses
    have hended (round : Round) :
        round ∈ (marks.begun.filter fun x => body.finishes ⟨before, some c⟩ x.2).map Prod.fst ↔
          ∃ begun, (round, begun) ∈ marks.begun ∧
            body.Leads begun before [] (c :: span ++ after) := by
      simp [hfinishes]
    rw [Leads, Leads, spans_rounds_iff h.2, exists_cons_eq_append_iff, hgoesOn]
    simp only [lastOf_nil, lastOf_cons, Marks.begun_ofRounds, hgoesOn,
      exists_moved_iff fun _ _ => ih h.1, mem_starts_iff, hended]
    constructor
    · rintro ⟨s, t, rfl, ⟨entry, hentry, hleads, hgoes⟩ |
        ⟨round, ⟨henters, hround⟩ | ⟨begun, ⟨marks', hmem, hends⟩, hround⟩, hspans, hgoes⟩⟩
      · exact .inl (.inr ⟨s, t, rfl, entry.1, entry.2, hentry, hleads, hgoes⟩)
      · exact .inr ⟨henters, round, hround, s, t, rfl, hspans, hgoes⟩
      · exact .inl (.inl ⟨begun, marks', hmem, hends, round, hround, s, t, rfl, hspans, hgoes⟩)
    · rintro ((⟨begun, marks', hmem, hends, round, hround, s, t, rfl, hspans, hgoes⟩ |
        ⟨s, t, rfl, round, begun, hmem, hleads, hgoes⟩) |
        ⟨henters, round, hround, s, t, rfl, hspans, hgoes⟩)
      · exact ⟨s, t, rfl, .inr ⟨round, .inr ⟨begun, ⟨marks', hmem, hends⟩, hround⟩, hspans, hgoes⟩⟩
      · exact ⟨s, t, rfl, .inl ⟨(round, begun), hmem, hleads, hgoes⟩⟩
      · exact ⟨s, t, rfl, .inr ⟨round, .inl ⟨henters, hround⟩, hspans, hgoes⟩⟩

/-- A match is found if one that is under way can be completed, or if one begins further on. -/
theorem isFound_iff {e : Expr} (h : e.IsOrdered) {marks : Marks} {cs : List Char} :
    e.isFound before marks cs = true ↔
      (∃ span after, cs = span ++ after ∧ e.Leads marks before span after) ∨
        ∃ passed rest, cs = passed ++ rest ∧ ∃ span after, rest = span ++ after ∧
          e.Spans (lastOf before passed) span after := by
  induction cs generalizing before marks with
  | nil =>
    have hpasses : e.passes ⟨before, none⟩ = true ↔ e.Spans before [] [] := passes_iff h before []
    have hfinishes : e.finishes ⟨before, none⟩ marks = true ↔ e.Leads marks before [] [] :=
      finishes_iff h before []
    rw [isFound, Bool.or_eq_true, hpasses, hfinishes]
    simp [and_assoc, or_comm]
  | cons c cs ih =>
    have hpasses : e.passes ⟨before, some c⟩ = true ↔ e.Spans before [] (c :: cs) :=
      passes_iff h before (c :: cs)
    have hfinishes : e.finishes ⟨before, some c⟩ marks = true ↔ e.Leads marks before [] (c :: cs) :=
      finishes_iff h before (c :: cs)
    simp only [isFound, Bool.or_eq_true, hpasses, hfinishes, ih, leads_advance_iff h,
      exists_cons_eq_append_iff, lastOf_nil, lastOf_cons, true_and, and_or_left, exists_or]
    exact Iff.of_eq (by ac_rfl)

/-- Some span of the text matches where it stands. -/
theorem matchesIn_iff {e : Expr} (h : e.IsOrdered) {text : String} :
    e.matchesIn text = true ↔ ∃ passed span after, text.toList = passed ++ (span ++ after) ∧
      e.Spans (lastOf none passed) span after := by
  rw [matchesIn, isFound_iff h]
  constructor
  · rintro (⟨_, _, _, hleads⟩ | ⟨passed, _, heq, span, after, rfl, hspans⟩)
    · exact absurd hleads (not_leads_none e)
    · exact ⟨passed, span, after, heq, hspans⟩
  · rintro ⟨passed, span, after, heq, hspans⟩
    exact .inr ⟨passed, _, heq, span, after, rfl, hspans⟩

end Expr

end EncodingPlan.Pattern
