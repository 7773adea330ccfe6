import EncodingPlan.Proofs.Settings.Separators
import EncodingPlan.Proofs.Text.NormalForm

/-! The pieces of a list of class stereotypes. The list is cut at every comma, and each piece is
stripped of what stands outside words at the sides where it was cut. A run that separates may have
several commas, and then there are more pieces than between the runs; but the ones between two of its
commas are empty, and the pieces that name a stereotype are the same. -/

namespace EncodingPlan

theorem Text.cut_eq_splitOnP (p : Char → Bool) (cs : List Char) : cut p cs = cs.splitOnP p := by
  induction cs with
  | nil => rfl
  | cons c cs ih =>
    rw [cut, List.splitOnP_cons_eq_if_modifyHead, ih]
    split
    · rfl
    · obtain ⟨piece, pieces, h⟩ := List.exists_cons_of_ne_nil (List.splitOnP_ne_nil p cs)
      rw [h]
      rfl

namespace ClassTypes

variable {cs before left right after : List Char} {c : Char}

/-! ## Dropping what stands outside words -/

theorem stripStart_append (h : Wordless left) (cs : List Char) :
    stripStart (left ++ cs) = stripStart cs :=
  List.dropWhile_append_of_pos fun c hc => by rw [h c hc, Bool.not_false]

theorem stripStart_cons (h : isWord c = false) (cs : List Char) :
    stripStart (c :: cs) = stripStart cs :=
  stripStart_append (List.forall_mem_singleton.mpr h) cs

theorem stripStart_eq_self (h : ∀ c ∈ cs.head?, isWord c = true) : stripStart cs = cs :=
  Text.dropWhile_eq_self fun c hc => by rw [h c hc, Bool.not_true]

theorem stripEnd_append (h : Wordless right) (hword : ∀ c ∈ cs.getLast?, isWord c = true) :
    stripEnd (cs ++ right) = cs := by
  have hright : ∀ c ∈ right.reverse, (!isWord c) = true := fun c hc => by
    rw [h c (List.mem_reverse.mp hc), Bool.not_false]
  have hlast : ∀ c, cs.reverse.head? = some c → (!isWord c) = false := fun c hc => by
    rw [List.head?_reverse] at hc
    rw [hword c hc, Bool.not_true]
  rw [stripEnd, Text.dropEndWhile, List.reverse_append, List.dropWhile_append_of_pos hright,
    Text.dropWhile_eq_self hlast, List.reverse_reverse]

/-! ## The listed pieces -/

/-- The pieces that name a stereotype. -/
def listed (cs : List Char) : List (List Char) := (pieces cs).filter (!·.isEmpty)

theorem cut_of_not_mem (h : ',' ∉ cs) : Text.cut (· == ',') cs = [cs] := by
  rw [Text.cut_eq_splitOnP, List.splitOnP_eq_singleton]
  intro c hc
  exact beq_eq_false_iff_ne.mpr fun heq => h (heq ▸ hc)

theorem cut_append_comma (h : ',' ∉ before) (after : List Char) :
    Text.cut (· == ',') (before ++ ',' :: after) = before :: Text.cut (· == ',') after := by
  rw [Text.cut_eq_splitOnP,
    List.splitOnP_append_cons (p := (· == ',')) before after (beq_self_eq_true ','),
    ← Text.cut_eq_splitOnP, cut_of_not_mem h, List.singleton_append, Text.cut_eq_splitOnP]

theorem cut_ne_nil (cs : List Char) : Text.cut (· == ',') cs ≠ [] := by
  rw [Text.cut_eq_splitOnP]
  exact List.splitOnP_ne_nil _ cs

theorem pieces_of_not_mem (h : ',' ∉ cs) : pieces cs = [cs] := by
  rw [pieces, cut_of_not_mem h]

theorem pieces_append_comma (h : ',' ∉ before) (after : List Char) :
    pieces (before ++ ',' :: after) =
      stripEnd before :: stripFollowing (Text.cut (· == ',') after) := by
  rw [pieces, cut_append_comma h]
  split
  · next heq => cases heq
  · next heq => exact absurd (List.cons.inj heq).2 (cut_ne_nil after)
  · next heq =>
    obtain ⟨rfl, rfl⟩ := List.cons.inj heq
    rfl

/-- Behind a comma, what is listed is listed in the text from the next word on. -/
theorem filter_stripFollowing (cs : List Char) :
    (stripFollowing (Text.cut (· == ',') cs)).filter (!·.isEmpty) = listed (stripStart cs) := by
  induction cs with
  | nil => rfl
  | cons c cs ih =>
    obtain ⟨piece, others, hcut⟩ := List.exists_cons_of_ne_nil (cut_ne_nil cs)
    by_cases hcomma : c = ','
    · subst hcomma
      rw [stripStart_cons isWord_comma, ← ih, hcut, ← List.nil_append (',' :: cs),
        cut_append_comma List.not_mem_nil, hcut]
      rfl
    · have hcons : Text.cut (· == ',') (c :: cs) = (c :: piece) :: others := by
        rw [Text.cut, if_neg (by simpa using hcomma), hcut]
      cases hword : isWord c with
      | false =>
        rw [stripStart_cons hword, ← ih, hcons, hcut]
        cases others <;> simp only [stripFollowing, stripStart_cons hword]
      | true =>
        have hstrip : ∀ ds, stripStart (c :: ds) = c :: ds := fun ds =>
          stripStart_eq_self (by simp [hword])
        rw [hstrip, listed, pieces, hcons]
        cases others <;> simp only [stripFollowing, hstrip]

theorem listed_append_comma (h : ',' ∉ before) (after : List Char) :
    listed (before ++ ',' :: after) =
      [stripEnd before].filter (!·.isEmpty) ++ listed (stripStart after) := by
  rw [listed, pieces_append_comma h, List.filter_cons, filter_stripFollowing, List.filter_cons]
  split <;> rfl

theorem listed_append_run (hbefore : ',' ∉ before) (hword : ∀ c ∈ before.getLast?, isWord c = true)
    {run : List Char} (hrun : Wordless run) (hcomma : ',' ∈ run) (after : List Char) :
    listed (before ++ run ++ after) =
      [before].filter (!·.isEmpty) ++ listed (stripStart after) := by
  obtain ⟨left, right, rfl, hleft⟩ := List.eq_append_cons_of_mem hcomma
  obtain ⟨hwordlessLeft, hright⟩ := List.forall_mem_append.mp hrun
  have hwordlessRight : Wordless right := (List.forall_mem_cons.mp hright).2
  have hmem : ',' ∉ before ++ left := fun h => (List.mem_append.mp h).elim hbefore hleft
  have htext : before ++ (left ++ ',' :: right) ++ after =
      (before ++ left) ++ ',' :: (right ++ after) := by simp
  rw [htext, listed_append_comma hmem, stripEnd_append hwordlessLeft hword,
    stripStart_append hwordlessRight]

theorem SplitsAtMatches.listed_eq {pieces : List (List Char)} (h : SplitsAtMatches cs pieces) :
    listed cs = pieces.filter (!·.isEmpty) := by
  induction h with
  | whole hnone => rw [listed, pieces_of_not_mem (not_mem_iff.mpr hnone)]
  | cut hnext _ ih =>
    have hrun := hnext.splitsOff
    rw [hnext.text, listed_append_run hrun.first hrun.wordBefore hrun.wordless hrun.comma,
      stripStart_eq_self hrun.wordAfter, ih, ← List.filter_append, List.singleton_append]

theorem listed_eq (cs : List Char) : listed cs = (piecesBetween cs).filter (!·.isEmpty) :=
  (splitsAtMatches_piecesBetween cs).listed_eq

example : listed " a !,, b; c!".toList = [" a".toList, "b; c!".toList] := by decide +kernel

end ClassTypes

end EncodingPlan
