import EncodingPlan.Proofs.Pattern.Reading.Tails

/-! Escapes in a text that goes on. Only one of them looks past what it reads: after a word boundary
there may be a brace, and whether it belongs to the boundary is decided by what stands in it. -/

namespace EncodingPlan.Pattern

open Text

variable {t : Option (List Char)} {bound bound' : Nat} {verbose : Bool}

/-! ## Braces and digits -/

theorem continues_braced (inComment : Bool) :
    Continues t bound bound' (braced verbose inComment) (braced verbose inComment) := by
  refine Continues.induction (fun _ => braced verbose) (fun bound bound' ih inComment => ?_)
    bound bound' inComment
  refine .of_cons_of_none rfl rfl fun c => ?_
  simp only [braced]
  split
  · exact ih _
  · split
    · exact ih _
    · split
      · exact ih _
      · split
        · exact .pure []
        · exact (ih false).map fun _ => ⟨_, fun _ => rfl⟩

/-- Where everything up to the end is passed, no brace closes. -/
theorem braced_eq_none_of_pass {cs : List Char} (h : pass verbose cs = []) :
    braced verbose false cs = none := by
  have hblanks (inComment : Bool) (cs : List Char) (h : passBlanks inComment cs = []) :
      braced true inComment cs = none := by
    induction cs generalizing inComment with
    | nil => rfl
    | cons c cs ih =>
      rw [passBlanks] at h
      rw [braced]
      split at h
      · rename_i hcomment
        rw [if_pos hcomment]
        exact ih _ h
      · rename_i hcomment
        rw [if_neg hcomment]
        split at h
        · rename_i hblank
          rw [if_pos (by simpa using hblank)]
          exact ih _ h
        · rename_i hblank
          rw [if_neg (by simpa using hblank)]
          split at h
          · rename_i hsign
            rw [if_pos (by simpa using hsign)]
            exact ih _ h
          · cases h
  cases verbose with
  | true => exact hblanks false cs h
  | false =>
    rw [show cs = [] from h]
    rfl

theorem continues_hexDigits (count value : Nat) :
    Continues t bound bound' (hexDigits verbose count value) (hexDigits verbose count value) := by
  induction count generalizing value bound bound' with
  | zero => exact .pure value
  | succ count ih =>
    refine .of_cons_of_none rfl rfl fun c => ?_
    simp only [hexDigits]
    cases hexValue? c with
    | none => exact .none
    | some digit => exact .after_pass (ih _)

theorem continues_hexChar (count : Nat) :
    Continues t bound bound' (hexChar verbose (count + 1)) (hexChar verbose (count + 1)) := by
  have hread (cs : List Char) :
      hexChar verbose (count + 1) (pass verbose cs) = hexChar verbose (count + 1) cs := by
    rw [hexChar, hexChar, pass_pass]
  have hnil : hexChar verbose (count + 1) [] = none := by cases verbose <;> rfl
  refine .of_pass_of_none hread hread hnil hnil fun c hcounts => ?_
  by_cases hc : c = '\x7b'
  · subst hc
    simp only [hexChar, pass_cons hcounts]
    refine (continues_braced false).bind fun inside => ?_
    dsimp only
    split
    · exact .none
    · cases inside.mapM hexValue? with
      | none => exact .none
      | some digits =>
        dsimp only [Option.bind_eq_bind, Option.bind_some]
        cases charOfCode? _ with
        | none => exact .none
        | some char => exact .pure _
  · have hdigits (cs : List Char) : hexChar verbose (count + 1) (c :: cs) =
        (hexDigits verbose (count + 1) 0 (c :: cs)).bind fun found =>
          (charOfCode? found.1).map fun char => (⟨char, count + 1 == 2⟩, found.2) := by
      rw [hexChar, pass_cons hcounts]
      split
      · rename_i heq
        cases heq
        exact absurd rfl hc
      · simp only [Option.map_eq_bind]
        rfl
    simp only [hdigits, hexDigits]
    cases hexValue? c with
    | none => exact .none
    | some digit =>
      refine .bind (.after_pass (continues_hexDigits count _)) fun code => ?_
      dsimp only
      cases charOfCode? code with
      | none => exact .none
      | some char => exact .pure _

theorem continues_property : Continues t bound bound' (property verbose) (property verbose) := by
  have hread (cs : List Char) : property verbose (pass verbose cs) = property verbose cs := by
    rw [property, property, pass_pass]
  have hnil : property verbose [] = none := by cases verbose <;> rfl
  refine .of_pass_of_none hread hread hnil hnil fun c hcounts => ?_
  by_cases hbrace : c = '\x7b'
  · subst hbrace
    simp only [property, pass_cons hcounts]
    exact (continues_braced false).map fun _ => ⟨_, fun _ => rfl⟩
  · by_cases hslash : c = '\\'
    · subst hslash
      simp only [property, pass_cons hcounts]
      exact .none
    · have hname (cs : List Char) : property verbose (c :: cs) = some (.byName [c], cs) := by
        rw [property, pass_cons hcounts]
        split <;> simp_all
      simp only [hname]
      exact .pure _

/-! ## Word boundaries -/

/-- The special kind of a word boundary, after its brace. -/
def specialBoundary (verbose : Bool) (cs : List Char) : Option (Anchor × List Char) :=
  (braced verbose false cs).bind fun (inside, rest) =>
    (specialBoundaries.find? fun (name, _) => name.toList == inside).map fun (_, anchor) =>
      (anchor, rest)

theorem continues_specialBoundary :
    Continues t bound bound' (specialBoundary verbose) (specialBoundary verbose) := by
  refine (continues_braced false).bind fun inside => ?_
  dsimp only
  cases specialBoundaries.find? _ with
  | none => exact .none
  | some found => exact .pure found.2

theorem wordBoundary_brace (cs : List Char) :
    wordBoundary verbose ('\x7b' :: cs) = (pass verbose cs).head?.bind fun c =>
      if c.isAlpha || c == '-' then specialBoundary verbose cs
      else some (.wordBoundary, '\x7b' :: cs) := by
  simp only [wordBoundary]
  cases pass verbose cs with
  | nil => rfl
  | cons c rest =>
    simp only [List.head?_cons, Option.bind_some, specialBoundary, Option.map_eq_bind]
    rfl

theorem wordBoundary_of_ne {cs : List Char} (h : cs.head? ≠ some '\x7b') :
    wordBoundary verbose cs = some (.wordBoundary, cs) := by
  rw [wordBoundary.eq_def]
  split
  · exact absurd rfl h
  · rfl

theorem takesFront_wordBoundary : TakesFront bound (wordBoundary verbose) := by
  intro cs a rest _ h
  by_cases hbrace : cs.head? = some '\x7b'
  · obtain ⟨cs, rfl⟩ := List.head?_eq_some_iff.mp hbrace
    rw [wordBoundary_brace] at h
    obtain ⟨c, -, h⟩ := Option.bind_eq_some_iff.mp h
    split at h
    · have hspecial := (@continues_specialBoundary none (cs.length + 1) 0 verbose).front
        (Nat.lt_succ_self _) h
      exact hspecial.trans (List.suffix_cons _ cs)
    · cases h
      exact List.suffix_refl _
  · cases (wordBoundary_of_ne hbrace).symm.trans h
    exact List.suffix_refl _

variable {β : Type} {next next' : Anchor × List Char → Option (β × List Char)}

/-- A word boundary and what is read after it. Where only blanks and comments stand behind a brace,
the brace is left when the tail follows, and then it must not be read. -/
theorem continues_wordBoundary
    (hnext : ∀ a, Continues t bound bound' (fun rest => next (a, rest)) fun rest => next' (a, rest))
    (hbrace : ∀ rest, pass verbose rest = [] → next (.wordBoundary, '\x7b' :: rest) = none) :
    Continues t bound bound' (fun cs => (wordBoundary verbose cs).bind next)
      fun cs => (wordBoundary verbose cs).bind next' where
  front := Continues.front_bind takesFront_wordBoundary fun a => (hnext a).front
  front' := Continues.front_bind takesFront_wordBoundary fun a => (hnext a).front'
  nil := (hnext .wordBoundary).nil
  follows cs hcs hcs' := by
    have hleft := (hnext .wordBoundary).follows cs hcs hcs'
    cases cs with
    | nil => cases t <;> exact hleft
    | cons c cs =>
      by_cases hc : c = '\x7b'
      · subst hc
        have hspecial : Follows (tailOf t) ((specialBoundary verbose cs).bind next)
            ((specialBoundary verbose (cs ++ tailOf t)).bind next') :=
          (continues_specialBoundary.bind hnext).follows cs (Nat.lt_of_succ_lt hcs)
            (Nat.lt_of_succ_lt hcs')
        rw [List.cons_append, wordBoundary_brace, wordBoundary_brace]
        cases hpass : pass verbose cs with
        | nil =>
          rw [hbrace cs hpass] at hleft
          rw [specialBoundary, braced_eq_none_of_pass hpass] at hspecial
          cases pass verbose (cs ++ tailOf t) with
          | nil => exact .none_none
          | cons d rest =>
            rw [List.head?_cons, Option.bind_some]
            split
            · exact hspecial
            · exact hleft
        | cons d rest =>
          rw [pass_append (by simp [hpass]), hpass, List.cons_append, List.head?_cons,
            List.head?_cons, Option.bind_some, Option.bind_some]
          split
          · exact hspecial
          · exact hleft
      · rw [wordBoundary_of_ne (by simpa using hc), List.cons_append,
          wordBoundary_of_ne (by simpa using hc)]
        exact hleft

/-! ## Escapes -/

/-- An escape takes one more character, or is read on by a reader of its own. -/
theorem escape_cons (verbose : Bool) (c : Char) :
    (∃ count, ∀ cs, escape verbose (c :: cs) =
      (hexChar verbose (count + 1) cs).map fun (l, rest) => (.literal l, rest)) ∨
    (∃ negated, ∀ cs, escape verbose (c :: cs) =
      (property verbose cs).map fun (q, rest) => (.property q negated, rest)) ∨
    (∀ cs, escape verbose (c :: cs) =
      (wordBoundary verbose cs).map fun (a, rest) => (.anchor a, rest)) ∨
    ∃ found : Option Syntax, ∀ cs, escape verbose (c :: cs) = found.map fun syn => (syn, cs) := by
  by_cases hx : c = 'x'
  · exact .inl ⟨1, fun cs => by rw [hx]; rfl⟩
  by_cases hu : c = 'u'
  · exact .inl ⟨3, fun cs => by rw [hu]; rfl⟩
  by_cases hU : c = 'U'
  · exact .inl ⟨7, fun cs => by rw [hU]; rfl⟩
  by_cases hp : c = 'p'
  · exact .inr (.inl ⟨false, fun cs => by rw [hp]; rfl⟩)
  by_cases hP : c = 'P'
  · exact .inr (.inl ⟨true, fun cs => by rw [hP]; rfl⟩)
  by_cases hb : c = 'b'
  · exact .inr (.inr (.inl fun cs => by rw [hb]; rfl))
  refine .inr (.inr (.inr ⟨(escape verbose [c]).map Prod.fst, fun cs => ?_⟩))
  simp only [escape]
  split
  all_goals first | contradiction | rfl | skip
  split <;> rfl

variable {next next' : Syntax × List Char → Option (β × List Char)}

/-- An escape and what is read after it. -/
theorem continues_escape
    (hnext : ∀ syn,
      Continues t bound bound' (fun rest => next (syn, rest)) fun rest => next' (syn, rest))
    (hbrace : ∀ rest, pass verbose rest = [] →
      next (.anchor .wordBoundary, '\x7b' :: rest) = none) :
    Continues t bound bound' (fun cs => (escape verbose cs).bind next)
      fun cs => (escape verbose cs).bind next' := by
  refine .of_cons_of_none rfl rfl fun c => ?_
  have hshorter (syn : Syntax) :=
    (hnext syn).mono (Nat.sub_le bound 1) (Nat.sub_le bound' 1)
  rcases escape_cons verbose c with ⟨count, h⟩ | ⟨negated, h⟩ | h | ⟨found, h⟩
  · simp only [h]
    exact ((continues_hexChar count).map fun l => ⟨.literal l, fun _ => rfl⟩).bind hshorter
  · simp only [h]
    exact (continues_property.map fun q => ⟨.property q negated, fun _ => rfl⟩).bind hshorter
  · simp only [h, Option.bind_map]
    exact continues_wordBoundary (fun a => hshorter (.anchor a)) hbrace
  · simp only [h]
    cases found with
    | none => exact .none
    | some syn => exact hshorter syn

end EncodingPlan.Pattern
