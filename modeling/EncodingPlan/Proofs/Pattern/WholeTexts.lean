import EncodingPlan.Pattern.Whole
import EncodingPlan.Proofs.Pattern.Reading.Sequences
import EncodingPlan.Proofs.Pattern.Search

/-! Patterns for whole texts. The text of a pattern is put in a group between anchors before it is
read. For a pattern that can be read by itself this does what it is to do, as long as it does not
end in a comment, which would take in the end of the group. A pattern that cannot be read by itself
can be read in the group if a parenthesis in it closes the group. -/

namespace EncodingPlan.Pattern

/-- The syntax that a text has by itself, however deep it is nested. -/
def syntax? (cs : List Char) : Option Syntax :=
  match sequence (cs.length + 1) false [] [] [] cs with
  | some (syn, _, []) => some syn
  | _ => none

/-- The text ends in a comment, as `(?x)a#c` does: it can be read with a closing parenthesis at its
end that nothing opens. -/
def EndsInComment (cs : List Char) : Prop := (syntax? (cs ++ [')', '$'])).isSome = true

instance (cs : List Char) : Decidable (EndsInComment cs) := inferInstanceAs (Decidable (_ = true))

/-- The expression between the start and the end of a text. -/
def Expr.between (e : Expr) : Expr := .ofParts [.condition .textStart, e, .condition .textEnd]

/-- What becomes of a pattern for whole texts. -/
structure MatchesWholes (pattern : String) : Prop where
  /-- A pattern that can be read by itself is accepted, but for comments and limits. -/
  accepted_iff {syn : Syntax} {e : Expr} {flags : Flags}
    (hsyn : syntax? pattern.toList = some syn) (he : syn.meaning {} = some (e, flags)) :
    (∃ compiled, whole pattern = .ok compiled) ↔
      ¬ EndsInComment pattern.toList ∧ syn.depth + 2 ≤ maxDepth ∧ e.between.fits = true
  /-- If it is accepted, it matches the texts that it spans from start to end. -/
  isMatch_iff {syn : Syntax} {e : Expr} {flags : Flags} {compiled : Pattern}
    (hsyn : syntax? pattern.toList = some syn) (he : syn.meaning {} = some (e, flags))
    (h : whole pattern = .ok compiled) (text : String) :
    compiled.isMatch text = true ↔ e.Spans none text.toList []
  /-- Another pattern is accepted only if it goes on after a parenthesis that closes the group. -/
  closesGroup {compiled : Pattern}
    (hsyn : ∀ syn, syntax? pattern.toList = some syn → syn.meaning {} = none)
    (h : whole pattern = .ok compiled) :
    ∃ front back : List Char, pattern.toList = front ++ ')' :: back ∧ (syntax? front).isSome = true

theorem Expr.matchesIn_between {e : Expr} (h : e.IsOrdered) (text : String) :
    e.between.matchesIn text = true ↔ e.Spans none text.toList [] := by
  have hordered : e.between.IsOrdered := by
    rw [between, isOrdered_ofParts]
    simp [IsOrdered, h]
  rw [matchesIn_iff hordered]
  have hspans (before : Option Char) (span after : List Char) :
      e.between.Spans before span after ↔
        before = none ∧ after = [] ∧ e.Spans before span after := by
    simp only [between, spans_ofParts_cons, spans_ofParts_nil]
    constructor
    · rintro ⟨_, _, rfl, ⟨rfl, hstart⟩, s, _, rfl, he, _, _, rfl, ⟨rfl, hend⟩, rfl⟩
      simp_all [Condition.holds]
    · rintro ⟨rfl, rfl, he⟩
      exact ⟨[], span, rfl, ⟨rfl, rfl⟩, span, [], by simp, by simpa using he, [], [], rfl,
        ⟨rfl, rfl⟩, rfl⟩
  simp only [hspans, lastOf_none_eq_none_iff]
  constructor
  · rintro ⟨_, span, _, htext, rfl, rfl, he⟩
    rw [htext]
    simpa using he
  · intro he
    exact ⟨[], text.toList, [], by simp, rfl, rfl, he⟩

namespace ReadState

/-- Nothing has been read. -/
def start : ReadState := ⟨false, [], [], []⟩

theorem isOrdered_start : start.IsOrdered := ⟨nofun, nofun⟩

/-- After the opening of the group, the pattern is read as by itself. -/
theorem read_anchored (fuel : Nat) (cs : List Char) :
    start.read (fuel + 3) ('^' :: '(' :: '?' :: ':' :: cs) =
      (start.read (fuel + 1) cs).bind fun ((body, names), rest) =>
        (start.withPart (.anchor .lineStart)).leave (fuel + 1) (.group [] body) names rest := by
  have hanchor : start.read (fuel + 3) ('^' :: '(' :: '?' :: ':' :: cs) =
      (start.withPart (.anchor .lineStart)).read (fuel + 2) ('(' :: '?' :: ':' :: cs) := rfl
  rw [hanchor, read_open]
  rfl

theorem leave_end (fuel : Nat) (body : Syntax) (names : List (List Char)) :
    (start.withPart (.anchor .lineStart)).leave (fuel + 2) (.group [] body) names [')', '$'] =
      some ((.concat [.anchor .lineStart, .group [] body, .anchor .lineEnd], names), []) := by
  rfl

theorem syntax?_eq_some_iff {cs : List Char} {syn : Syntax} :
    syntax? cs = some syn ↔ ∃ names, start.read (cs.length + 1) cs = some ((syn, names), []) := by
  rw [syntax?, read, start]
  cases sequence (cs.length + 1) false [] [] [] cs with
  | none => simp
  | some found =>
    obtain ⟨syn', names, rest⟩ := found
    cases rest <;> simp

theorem endsInComment_iff {cs : List Char} :
    EndsInComment cs ↔
      ∃ found, start.read (cs.length + 5) (cs ++ [')', '$']) = some (found, []) := by
  rw [EndsInComment, Option.isSome_iff_exists]
  simp only [syntax?_eq_some_iff, Prod.exists]
  rw [read_eq_read (Nat.lt_succ_self _) (by simp : _ < cs.length + 5)]

end ReadState

open ReadState

theorem toList_anchored (pattern : String) :
    (anchored pattern).toList = '^' :: '(' :: '?' :: ':' :: (pattern.toList ++ [')', '$']) := by
  simp [anchored]

/-- What the pattern in its group is read as. -/
theorem read_toList_anchored (pattern : String) :
    start.read ((anchored pattern).toList.length + 1) (anchored pattern).toList =
      (start.read (pattern.toList.length + 5) (pattern.toList ++ [')', '$'])).bind
        fun ((body, names), rest) => (start.withPart (.anchor .lineStart)).leave
          (pattern.toList.length + 5) (.group [] body) names rest := by
  have hlength : (anchored pattern).toList.length + 1 = pattern.toList.length + 4 + 3 := by
    rw [toList_anchored]
    simp
  rw [hlength, toList_anchored, read_anchored]

theorem parse?_eq_some_iff {cs : List Char} {syn : Syntax} :
    parse? cs = some syn ↔ syntax? cs = some syn ∧ syn.depth ≤ maxDepth := by
  rw [parse?, syntax?]
  cases sequence (cs.length + 1) false [] [] [] cs with
  | none => simp
  | some found =>
    obtain ⟨syn', names, rest⟩ := found
    cases rest with
    | nil =>
      dsimp only
      rw [Option.ite_none_right_eq_some, and_comm, Option.some.injEq]
      exact and_congr_right fun heq => by rw [heq]
    | cons c rest => simp

theorem whole_eq_ok_iff {pattern : String} {compiled : Pattern} :
    whole pattern = .ok compiled ↔ ∃ syn flags, syntax? (anchored pattern).toList = some syn ∧
      syn.depth ≤ maxDepth ∧ syn.meaning {} = some (compiled.expr, flags) ∧
      compiled.expr.fits = true := by
  have hok : whole pattern = .ok compiled ↔ ofText? (anchored pattern) = some compiled := by
    rw [whole]
    cases ofText? (anchored pattern) <;> simp
  simp only [hok, ofText?, Option.bind_eq_bind, Option.bind_eq_some_iff, parse?_eq_some_iff,
    Option.ite_none_right_eq_some, Option.some.injEq, Prod.exists]
  constructor
  · rintro ⟨syn, ⟨hsyn, hdepth⟩, e, flags, hmeaning, hfits, rfl⟩
    exact ⟨syn, flags, hsyn, hdepth, hmeaning, hfits⟩
  · rintro ⟨syn, flags, hsyn, hdepth, hmeaning, hfits⟩
    exact ⟨syn, ⟨hsyn, hdepth⟩, compiled.expr, flags, hmeaning, hfits, rfl⟩

/-- The syntax of a pattern in its group, between the anchors. -/
def Syntax.anchored (syn : Syntax) : Syntax :=
  .concat [.anchor .lineStart, .group [] syn, .anchor .lineEnd]

theorem Syntax.depth_anchored (syn : Syntax) : syn.anchored.depth = syn.depth + 2 := by
  simp [anchored, depth, depthOfAll]

theorem Syntax.meaning_anchored (syn : Syntax) :
    syn.anchored.meaning {} = (syn.meaning {}).map fun (e, _) => (e.between, {}) := by
  have hflags : Flags.edit {} [] = {} := rfl
  simp only [anchored, meaning, meaningOfAll, Option.bind_eq_bind, Option.bind_some, hflags]
  cases syn.meaning {} <;> rfl

/-- A pattern that can be read by itself is read in the group as by itself, if it does not end in a
comment. -/
theorem syntax?_anchored_eq_some_iff {pattern : String} {syn outer : Syntax}
    (h : syntax? pattern.toList = some syn) :
    syntax? (anchored pattern).toList = some outer ↔
      ¬ EndsInComment pattern.toList ∧ outer = syn.anchored := by
  obtain ⟨names, hread⟩ := syntax?_eq_some_iff.mp h
  have hfollows := (@continues_read (some ['$']) start (pattern.toList.length + 1)
    (pattern.toList.length + 5)).follows pattern.toList (Nat.lt_succ_self _) (by simp [tailOf])
  rw [hread, tailOf] at hfollows
  rw [syntax?_eq_some_iff, endsInComment_iff, read_toList_anchored]
  rcases hfollows with ⟨x, rest, halone, hfollowed⟩ | ⟨x, -, halone, hfollowed⟩ | ⟨halone, -⟩
  · cases halone
    rw [hfollowed, List.nil_append, Option.bind_some]
    dsimp only
    rw [leave_end]
    constructor
    · rintro ⟨_, heq⟩
      cases heq
      exact ⟨by simp, rfl⟩
    · rintro ⟨-, rfl⟩
      exact ⟨names, rfl⟩
  · cases halone
    rw [hfollowed, Option.bind_some]
    refine iff_of_false ?_ fun h => h.1 ⟨_, rfl⟩
    rintro ⟨_, heq⟩
    cases heq
  · simp at halone

/-- The group is closed behind a pattern that can be read by itself: the whole text in it, or what
stands before a parenthesis of the text. -/
theorem exists_of_syntax?_anchored {pattern : String} {outer : Syntax}
    (h : syntax? (anchored pattern).toList = some outer) :
    ∃ front rest body, pattern.toList ++ [')', '$'] = front ++ ')' :: rest ∧
      syntax? front = some body := by
  obtain ⟨_, hread⟩ := syntax?_eq_some_iff.mp h
  rw [read_toList_anchored] at hread
  obtain ⟨⟨⟨body, names⟩, rest⟩, hbody, hleave⟩ := Option.bind_eq_some_iff.mp hread
  dsimp only at hleave
  rw [leave.eq_def] at hleave
  split at hleave
  · rename_i rest
    have hlength : (pattern.toList ++ [')', '$']).length < pattern.toList.length + 5 := by simp
    obtain ⟨front, hfront⟩ :=
      (@continues_read none start (pattern.toList.length + 5) 0).front hlength hbody
    refine ⟨front, rest, body, hfront.symm, ?_⟩
    rw [← hfront] at hbody hlength
    have hfollows := (@continues_read (some rest) start (front.length + 1)
      (pattern.toList.length + 5)).follows front (Nat.lt_succ_self _) hlength
    rw [tailOf, hbody] at hfollows
    rcases hfollows with ⟨x, rest', halone, hfollowed⟩ | ⟨x, -, -, hfollowed⟩ | ⟨-, hfollowed⟩
    · obtain ⟨rfl, hrest⟩ := Prod.mk.inj (Option.some.inj hfollowed)
      rw [List.self_eq_append_left] at hrest
      exact syntax?_eq_some_iff.mpr ⟨names, by rw [halone, hrest]⟩
    · cases hfollowed
    · exact absurd rfl (hfollowed (body, names) [])
  · cases hleave

theorem syntax?_isOrdered {cs : List Char} {syn : Syntax} (h : syntax? cs = some syn) :
    syn.IsOrdered := by
  obtain ⟨_, hread⟩ := syntax?_eq_some_iff.mp h
  exact isOrdered_of_read isOrdered_start hread

theorem whole_matchesWholes (pattern : String) : MatchesWholes pattern where
  accepted_iff {syn e flags} hsyn he := by
    simp only [whole_eq_ok_iff, syntax?_anchored_eq_some_iff hsyn]
    constructor
    · rintro ⟨compiled, _, _, ⟨hcomment, rfl⟩, hdepth, hmeaning, hfits⟩
      rw [Syntax.meaning_anchored, he, Option.map_some] at hmeaning
      obtain ⟨heq, -⟩ := Prod.mk.inj (Option.some.inj hmeaning)
      rw [Syntax.depth_anchored] at hdepth
      exact ⟨hcomment, hdepth, heq ▸ hfits⟩
    · rintro ⟨hcomment, hdepth, hfits⟩
      refine ⟨⟨e.between⟩, syn.anchored, {}, ⟨hcomment, rfl⟩, ?_, ?_, hfits⟩
      · rwa [Syntax.depth_anchored]
      · rw [Syntax.meaning_anchored, he, Option.map_some]
  isMatch_iff {syn e flags compiled} hsyn he h text := by
    obtain ⟨_, _, houter, -, hmeaning, -⟩ := whole_eq_ok_iff.mp h
    obtain ⟨-, rfl⟩ := (syntax?_anchored_eq_some_iff hsyn).mp houter
    rw [Syntax.meaning_anchored, he, Option.map_some] at hmeaning
    obtain ⟨heq, -⟩ := Prod.mk.inj (Option.some.inj hmeaning)
    have hordered : e.IsOrdered := Syntax.isOrdered_of_meaning (syntax?_isOrdered hsyn) he
    rw [isMatch, ← heq, Expr.matchesIn_between hordered]
  closesGroup {compiled} hsyn h := by
    obtain ⟨outer, _, houter, -, hmeaning, -⟩ := whole_eq_ok_iff.mp h
    obtain ⟨front, rest, body, heq, hbody⟩ := exists_of_syntax?_anchored houter
    -- a pattern that can be read by itself means nothing in the group either
    have hwhole : front ≠ pattern.toList := by
      rintro rfl
      obtain ⟨-, rfl⟩ := (syntax?_anchored_eq_some_iff hbody).mp houter
      rw [Syntax.meaning_anchored, hsyn body hbody] at hmeaning
      cases hmeaning
    have hfront : (syntax? front).isSome = true := by rw [hbody, Option.isSome_some]
    rcases List.append_eq_append_iff.mp heq with ⟨back, hback, htail⟩ | ⟨back, hback, htail⟩
    · match back, htail with
      | [], _ => exact absurd (hback.trans (List.append_nil _)) hwhole
      | [_], htail => cases htail
      | _ :: _ :: _, htail => simp at htail
    · match back, htail with
      | [], _ => exact absurd (hback.trans (List.append_nil _)).symm hwhole
      | _ :: back, htail =>
        cases (List.cons.inj htail).1
        exact ⟨front, back, hback, hfront⟩

/-- Both branches have to match the whole text. -/
theorem whole_matchesWholes_of_branches : ∃ compiled, whole "a|bc" = .ok compiled ∧
    ∀ text : String, compiled.isMatch text = true ↔ text = "a" ∨ text = "bc" := by
  have hwholes := whole_matchesWholes "a|bc"
  have hsyn : syntax? "a|bc".toList = some (.alternation [.literal ⟨'a', false⟩,
    .concat [.literal ⟨'b', false⟩, .literal ⟨'c', false⟩]]) := rfl
  have hmeaning : (Syntax.alternation [.literal ⟨'a', false⟩,
      .concat [.literal ⟨'b', false⟩, .literal ⟨'c', false⟩]]).meaning {} = some
    (.alt (.chars (.single 'a')) (.seq (.chars (.single 'b')) (.chars (.single 'c'))), {}) := rfl
  have hcomment : ¬ EndsInComment "a|bc".toList := by decide
  obtain ⟨compiled, hwhole⟩ := (hwholes.accepted_iff hsyn hmeaning).mpr
    ⟨hcomment, by decide, by decide +kernel⟩
  refine ⟨compiled, hwhole, fun text => ?_⟩
  have hsingle (c d : Char) : (CharSet.single c).has d = true ↔ d = c := by
    rw [← Char.toNat_inj]
    simp [CharSet.single, CharSet.range, CharSet.table, CharSet.has, Text.CodeTable.has]
    omega
  rw [hwholes.isMatch_iff hsyn hmeaning hwhole, ← String.toList_inj, ← String.toList_inj]
  simp [Expr.Spans, hsingle]

/-- A pattern that is none by itself, and that matches a text of which it leaves a part over. -/
theorem isMatch_of_closed_group : ofText? "a)|(?:b" = none ∧
    ∃ compiled, whole "a)|(?:b" = .ok compiled ∧ compiled.isMatch "ax" = true := by
  have hmatch : (whole "a)|(?:b").toOption.any (·.isMatch "ax") = true := by decide +kernel
  refine ⟨by decide +kernel, ?_⟩
  cases hwhole : whole "a)|(?:b" with
  | ok compiled =>
    rw [hwhole] at hmatch
    exact ⟨compiled, rfl, hmatch⟩
  | error problem =>
    rw [hwhole] at hmatch
    cases hmatch

end EncodingPlan.Pattern
