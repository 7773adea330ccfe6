import EncodingPlan.Proofs.Text.LowerCase

/-! The start of a normal form is the lower-case image of the first character of the text, unless
this is a blank, which is trimmed away, or a capital sigma, whose image depends on what follows. The
texts in normal form are the trimmed ones with nothing to lower: lower-casing neither makes a blank at
an end nor takes one away, and leaves nothing to lower. -/

namespace EncodingPlan.Text

variable {c : Char} {cs before : List Char}

theorem dropEndWhile_cons {p : Char → Bool} (h : p c = false) :
    dropEndWhile p (c :: cs) = c :: dropEndWhile p cs := by
  have hlast : [c].dropWhile p = [c] := List.dropWhile_cons_of_neg (by simp [h])
  rw [dropEndWhile, dropEndWhile, List.reverse_cons, List.dropWhile_append, hlast]
  split
  · next hempty => rw [List.isEmpty_iff.mp hempty]; rfl
  · rw [List.reverse_append, List.reverse_singleton, List.singleton_append]

theorem trimChars_cons (h : isBlank c = false) :
    trimChars (c :: cs) = c :: dropEndWhile isBlank cs := by
  rw [trimChars, List.dropWhile_cons_of_neg (by simp [h]), dropEndWhile_cons h]

theorem isPrefix_normalForm (hblank : isBlank c = false) (hsigma : c ≠ '\u03A3') :
    lowerChar c <+: (normalForm (String.ofList (c :: cs))).toList := by
  rw [normalForm, trim, String.toList_ofList, trimChars_cons hblank, lowerCase,
    String.toList_ofList, String.toList_ofList, lowerChars, lowerAfter, if_neg hsigma]
  exact List.prefix_append ..

/-! ## Trimmed texts -/

/-- No blank is first or last. -/
def Trimmed (cs : List Char) : Prop :=
  ∀ c, cs.head? = some c ∨ cs.getLast? = some c → isBlank c = false

theorem dropWhile_eq_self {p : Char → Bool} (h : ∀ c, cs.head? = some c → p c = false) :
    cs.dropWhile p = cs := by
  cases cs with
  | nil => rfl
  | cons c cs => rw [List.dropWhile_cons_of_neg (by simp [h c rfl])]

theorem eq_false_of_head?_dropWhile {p : Char → Bool} (h : (cs.dropWhile p).head? = some c) :
    p c = false := by
  have hnot := List.head?_dropWhile_not p cs
  rwa [h] at hnot

theorem Trimmed.trimChars_eq (h : Trimmed cs) : trimChars cs = cs := by
  rw [trimChars, dropWhile_eq_self fun c hc => h c (.inl hc), dropEndWhile, dropWhile_eq_self,
    List.reverse_reverse]
  intro c hc
  exact h c (.inr (by rwa [List.head?_reverse] at hc))

theorem trimmed_trimChars (cs : List Char) : Trimmed (trimChars cs) := by
  rintro c (hfirst | hlast)
  · -- what is dropped from the end leaves the start as it is
    obtain ⟨dropped, hdropped⟩ : trimChars cs <+: cs.dropWhile isBlank :=
      List.reverse_suffix.mp (by
        rw [trimChars, dropEndWhile, List.reverse_reverse]
        exact List.dropWhile_suffix isBlank)
    have hhead : (cs.dropWhile isBlank).head? = some c := by
      rw [← hdropped, List.head?_append, hfirst]
      rfl
    exact eq_false_of_head?_dropWhile hhead
  · rw [trimChars, dropEndWhile, List.getLast?_reverse] at hlast
    exact eq_false_of_head?_dropWhile hlast

theorem trimmed_trim (s : String) : Trimmed (trim s).toList := by
  rw [trim, String.toList_ofList]
  exact trimmed_trimChars s.toList

theorem head?_lowerAfter (h : ∀ c, cs.head? = some c → isBlank c = false)
    (hc : (lowerAfter before cs).head? = some c) : isBlank c = false := by
  cases cs with
  | nil => cases hc
  | cons first rest =>
    obtain ⟨image, heq, hne, himage⟩ := lowerAfter_cons before first rest
    obtain ⟨d, ds, rfl⟩ := List.exists_cons_of_ne_nil hne
    rw [heq, List.cons_append, List.head?_cons, Option.some.injEq] at hc
    exact hc ▸ (himage d List.mem_cons_self).isBlank_eq_false (h first rfl)

theorem getLast?_lowerAfter (h : ∀ c, cs.getLast? = some c → isBlank c = false)
    (hc : (lowerAfter before cs).getLast? = some c) : isBlank c = false := by
  induction cs generalizing before with
  | nil => cases hc
  | cons first rest ih =>
    obtain ⟨image, heq, -, himage⟩ := lowerAfter_cons before first rest
    rw [heq] at hc
    by_cases hrest : rest = []
    · subst hrest
      rw [lowerAfter, List.append_nil] at hc
      exact (himage c (List.mem_of_getLast? hc)).isBlank_eq_false (h first rfl)
    · have hrestLast : (lowerAfter (first :: before) rest).getLast? = some c := by
        rw [List.getLast?_append] at hc
        cases hlast : (lowerAfter (first :: before) rest).getLast? with
        | none => exact absurd (List.getLast?_eq_none_iff.mp hlast) (lowerAfter_ne_nil hrest)
        | some last => rwa [hlast] at hc
      refine ih (fun c hlast => h c ?_) hrestLast
      rw [List.getLast?_cons, hlast]
      rfl

theorem Trimmed.lowerChars (h : Trimmed cs) : Trimmed (lowerChars cs) := by
  rintro c (hfirst | hlast)
  · exact head?_lowerAfter (fun c hc => h c (.inl hc)) hfirst
  · exact getLast?_lowerAfter (fun c hc => h c (.inr hc)) hlast

theorem Trimmed.trim_eq {s : String} (h : Trimmed s.toList) : trim s = s := by
  rw [trim, h.trimChars_eq, String.ofList_toList]

/-! ## Blanks in lower-case forms -/

/-- What stands at the end of a text comes at the end of its lower-case form. -/
theorem exists_lowerAfter_append (before cs ds : List Char) :
    ∃ front, lowerAfter before (cs ++ ds) = front ++ lowerAfter (cs.reverse ++ before) ds := by
  induction cs generalizing before with
  | nil => exact ⟨[], rfl⟩
  | cons c cs ih =>
    obtain ⟨front, hfront⟩ := ih (c :: before)
    rw [List.cons_append, lowerAfter, hfront, List.reverse_cons, List.append_assoc,
      List.singleton_append, ← List.append_assoc]
    exact ⟨_, rfl⟩

theorem lowerAfter_cons_of_isBlank (h : isBlank c = true) :
    lowerAfter before (c :: cs) = c :: lowerAfter (c :: before) cs := by
  have hc := lowerChar_of_isBlank h
  rw [lowerAfter, if_neg (ne_capitalSigma hc), hc, List.singleton_append]

/-- Lower-casing keeps blanks, so it trims nothing. -/
theorem trimmed_lowerChars_iff : Trimmed (lowerChars cs) ↔ Trimmed cs := by
  refine ⟨fun h c hc => Bool.eq_false_iff.mpr fun hblank => ?_, Trimmed.lowerChars⟩
  refine Bool.eq_false_iff.mp (h c ?_) hblank
  rcases hc with hfirst | hlast
  · obtain ⟨rest, rfl⟩ := List.head?_eq_some_iff.mp hfirst
    exact .inl (by rw [lowerChars, lowerAfter_cons_of_isBlank hblank, List.head?_cons])
  · obtain ⟨init, rfl⟩ := List.getLast?_eq_some_iff.mp hlast
    obtain ⟨front, hfront⟩ := exists_lowerAfter_append [] init [c]
    refine .inr ?_
    rw [lowerChars, hfront, lowerAfter_cons_of_isBlank hblank, lowerAfter, List.getLast?_concat]

/-! ## Normal forms -/

variable {s t : String}

theorem trimmed_normalForm (s : String) : Trimmed (normalForm s).toList := by
  rw [normalForm, lowerCase, trim, String.toList_ofList, String.toList_ofList]
  exact (trimmed_trimChars s.toList).lowerChars

theorem lowerChar_of_mem_normalForm (h : c ∈ (normalForm s).toList) : lowerChar c = [c] := by
  rw [normalForm, lowerCase, String.toList_ofList] at h
  exact lowerChar_of_mem_lowerAfter h

theorem normalForm_eq_self_iff :
    normalForm s = s ↔ Trimmed s.toList ∧ ∀ c ∈ s.toList, lowerChar c = [c] := by
  constructor
  · intro h
    rw [← h]
    exact ⟨trimmed_normalForm s, fun _ => lowerChar_of_mem_normalForm⟩
  · rintro ⟨htrimmed, hlowered⟩
    rw [normalForm, htrimmed.trim_eq, lowerCase, lowerChars, lowerAfter_eq_self hlowered,
      String.ofList_toList]

theorem normalForm_normalForm (s : String) : normalForm (normalForm s) = normalForm s :=
  normalForm_eq_self_iff.mpr ⟨trimmed_normalForm s, fun _ => lowerChar_of_mem_normalForm⟩

/-- A text that is lower-cased but not trimmed comes to a normal form only if there is nothing to
trim. -/
theorem lowerCase_eq_normalForm_iff :
    lowerCase s = normalForm t ↔ Trimmed s.toList ∧ normalForm s = normalForm t := by
  constructor
  · intro h
    have htrimmed : Trimmed s.toList := by
      have hlowered := trimmed_normalForm t
      rwa [← h, lowerCase, String.toList_ofList, trimmed_lowerChars_iff] at hlowered
    exact ⟨htrimmed, by rw [normalForm, htrimmed.trim_eq, h]⟩
  · rintro ⟨htrimmed, h⟩
    rw [← h, normalForm, htrimmed.trim_eq]

end EncodingPlan.Text
