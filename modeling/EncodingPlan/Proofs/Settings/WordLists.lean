import EncodingPlan.Proofs.Settings.ClassTypes

/-! Stereotypes of word characters in a list with commas. What stands around a comma outside words is
part of the separator, and so the pieces of the list are the stereotypes that were put in. If the
first or the last one is empty, the list has a separator there; trimming drops blanks of it, but no
comma is a blank, and so it still separates. -/

namespace EncodingPlan.ClassTypes

variable {cs left right name : List Char} {names : List (List Char)} {c : Char}

/-- Names with a comma between any two that follow one another, and around each comma any characters
outside words. -/
inductive Joins : List (List Char) → List Char → Prop where
  | single (name : List Char) : Joins [name] name
  | cons {left right cs : List Char} {names : List (List Char)} (name : List Char) :
    Wordless left → Wordless right → Joins names cs →
    Joins (name :: names) (name ++ (left ++ ',' :: right) ++ cs)

/-- No name has a character outside words. -/
def AreWords (names : List (List Char)) : Prop := ∀ name ∈ names, ∀ c ∈ name, isWord c = true

theorem comma_not_mem (h : ∀ c ∈ name, isWord c = true) : ',' ∉ name := fun hmem =>
  absurd (h ',' hmem) (Bool.eq_false_iff.mp isWord_comma)

theorem listed_name (h : ∀ c ∈ name, isWord c = true) :
    listed name = [name].filter (!·.isEmpty) := by
  rw [listed, pieces_of_not_mem (comma_not_mem h)]

theorem listed_name_append (h : ∀ c ∈ name, isWord c = true) (hleft : Wordless left)
    (hright : Wordless right) (cs : List Char) :
    listed (name ++ (left ++ ',' :: right) ++ cs) =
      [name].filter (!·.isEmpty) ++ listed (stripStart cs) :=
  listed_append_run (comma_not_mem h) (fun c hc => h c (List.mem_of_mem_getLast? hc))
    (wordless_separator hleft hright) (by simp) cs

theorem Joins.listed_stripStart (h : Joins names cs) (hwords : AreWords names) :
    listed (stripStart cs) = names.filter (!·.isEmpty) := by
  induction h with
  | single name =>
    have hname := List.forall_mem_singleton.mp hwords
    rw [stripStart_eq_self fun c hc => hname c (List.mem_of_mem_head? hc), listed_name hname]
  | cons name hleft hright _ ih =>
    obtain ⟨hname, hnames⟩ := List.forall_mem_cons.mp hwords
    cases name with
    | nil =>
      rw [List.nil_append, stripStart_append (wordless_separator hleft hright), ih hnames]
      rfl
    | cons c name =>
      have hfirst := hname c List.mem_cons_self
      rw [stripStart_eq_self (by simpa using hfirst), listed_name_append hname hleft hright,
        ih hnames, ← List.filter_append, List.singleton_append]

theorem Joins.listed_eq (h : Joins names cs) (hwords : AreWords names) :
    listed cs = names.filter (!·.isEmpty) := by
  cases h with
  | single name => exact listed_name (List.forall_mem_singleton.mp hwords)
  | cons name hleft hright hrest =>
    obtain ⟨hname, hnames⟩ := List.forall_mem_cons.mp hwords
    rw [listed_name_append hname hleft hright, hrest.listed_stripStart hnames,
      ← List.filter_append, List.singleton_append]

/-! ## Trimming -/

/-- No range of blanks meets one of word characters. -/
theorem blankRanges_apart : (CharSet.word.ranges.all fun word => Text.blankTable.all fun blank =>
    decide (word.2 < blank.1) || decide (blank.2 < word.1)) = true := by
  decide +kernel

theorem isWord_eq_false_of_isBlank (h : Text.isBlank c = true) : isWord c = false := by
  rw [Text.isBlank, Text.CodeTable.has, List.any_eq_true] at h
  obtain ⟨blank, hblank, hin⟩ := h
  refine List.any_eq_false.mpr fun word hword hboth => ?_
  have hapart := List.all_eq_true.mp blankRanges_apart word hword
  have hranges := List.all_eq_true.mp hapart blank hblank
  simp only [Bool.and_eq_true, Bool.or_eq_true, decide_eq_true_eq] at hin hboth hranges
  omega

theorem ne_comma_of_isBlank (h : Text.isBlank c = true) : c ≠ ',' := by
  rintro rfl
  exact absurd h (by decide)

theorem Joins.of_cons (h : Joins names (c :: cs)) (hwords : AreWords names)
    (hblank : Text.isBlank c = true) : Joins names cs := by
  have hc := isWord_eq_false_of_isBlank hblank
  generalize htext : c :: cs = text at h
  cases h with
  | single =>
    have hword := hwords _ List.mem_cons_self c (htext ▸ List.mem_cons_self)
    exact absurd hword (Bool.eq_false_iff.mp hc)
  | @cons left right rest names name hleft hright hrest =>
    -- the blank belongs to the characters before the first comma
    cases name with
    | cons d name =>
      obtain ⟨rfl, -⟩ := List.cons.inj htext
      have hword := hwords _ List.mem_cons_self c List.mem_cons_self
      exact absurd hword (Bool.eq_false_iff.mp hc)
    | nil =>
      cases left with
      | nil => exact absurd (List.cons.inj htext).1 (ne_comma_of_isBlank hblank)
      | cons d left =>
        obtain ⟨-, rfl⟩ := List.cons.inj htext
        exact .cons [] (List.forall_mem_cons.mp hleft).2 hright hrest

theorem Joins.of_concat (h : Joins names (cs ++ [c])) (hwords : AreWords names)
    (hblank : Text.isBlank c = true) : Joins names cs := by
  have hc := isWord_eq_false_of_isBlank hblank
  generalize htext : cs ++ [c] = text at h
  induction h generalizing cs with
  | single name =>
    have hword := hwords name List.mem_cons_self c (htext ▸ by simp)
    exact absurd hword (Bool.eq_false_iff.mp hc)
  | @cons left right rest names name hleft hright hrest ih =>
    rcases rest.eq_nil_or_concat' with rfl | ⟨earlier, d, rfl⟩
    · -- nothing follows, so the blank belongs to the characters after the comma
      rcases right.eq_nil_or_concat' with rfl | ⟨shorter, d, rfl⟩
      · have hlast : cs ++ [c] = (name ++ left) ++ [','] := by rw [htext]; simp
        exact absurd (List.cons.inj (List.append_inj' hlast rfl).2).1 (ne_comma_of_isBlank hblank)
      · have hlast : cs ++ [c] = (name ++ (left ++ ',' :: shorter) ++ []) ++ [d] := by
          rw [htext]; simp
        rw [(List.append_inj' hlast rfl).1]
        exact .cons name hleft (List.forall_mem_append.mp hright).1 hrest
    · rw [← List.append_assoc] at htext
      obtain ⟨rfl, hd⟩ := List.append_inj' htext rfl
      obtain ⟨rfl, -⟩ := List.cons.inj hd
      exact .cons name hleft hright (ih (List.forall_mem_cons.mp hwords).2 rfl)

theorem Joins.dropWhile_isBlank (h : Joins names cs) (hwords : AreWords names) :
    Joins names (cs.dropWhile Text.isBlank) := by
  induction cs with
  | nil => exact h
  | cons c cs ih =>
    rw [List.dropWhile_cons]
    split
    · next hblank => exact ih (h.of_cons hwords hblank)
    · exact h

theorem Joins.dropEndWhile_isBlank (h : Joins names cs) (hwords : AreWords names) :
    Joins names (Text.dropEndWhile Text.isBlank cs) := by
  induction cs using List.reverseRecOn with
  | nil => exact h
  | append_singleton cs c ih =>
    rw [Text.dropEndWhile, List.reverse_append, List.reverse_singleton, List.singleton_append,
      List.dropWhile_cons]
    split
    · next hblank => exact ih (h.of_concat hwords hblank)
    · rwa [List.reverse_cons, List.reverse_reverse]

theorem Joins.trimChars (h : Joins names cs) (hwords : AreWords names) :
    Joins names (Text.trimChars cs) :=
  (h.dropWhile_isBlank hwords).dropEndWhile_isBlank hwords

theorem Joins.ne_nil (h : Joins names cs) (hnames : names ≠ [[]]) : cs ≠ [] := by
  rintro rfl
  generalize htext : [] = text at h
  cases h with
  | single => exact hnames (by rw [← htext])
  | cons => simp at htext

end EncodingPlan.ClassTypes
