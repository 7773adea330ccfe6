import EncodingPlan.Proofs.Pattern.Reading.Classes

/-! Counts and the openings of groups in a text that goes on. -/

namespace EncodingPlan.Pattern

open Text

variable {t : Option (List Char)} {bound bound' : Nat} {verbose : Bool}

/-! ## Counts -/

/-- What comes after blanks is read. -/
theorem Continues.after_blanks {α : Type} {read read' : Reader α}
    (h : Continues t bound bound' read read') :
    Continues t bound bound' (fun cs => read (cs.dropWhile isBlank))
      fun cs => read' (cs.dropWhile isBlank) := by
  have hblanks : Continues t bound bound' (fun cs => some ((), cs.dropWhile isBlank))
      fun cs => some ((), cs.dropWhile isBlank) := by
    refine .of_append (fun cs _ _ heq => ?_) fun u _ cs => ?_
    · cases heq
      exact List.dropWhile_suffix _
    · rw [dropWhile_isBlank_append]
      rfl
  show Continues t bound bound'
    (fun cs => (some ((), cs.dropWhile isBlank)).bind fun dropped => read dropped.2)
    fun cs => (some ((), cs.dropWhile isBlank)).bind fun dropped => read' dropped.2
  exact hblanks.bind fun _ => h

theorem decimalDigits_of_line {value : Option Nat} {cs : List Char} (h : '\n' ∉ cs) :
    decimalDigits verbose true value cs = (value, []) := by
  induction cs with
  | nil => rfl
  | cons c cs ih =>
    obtain ⟨hc, hcs⟩ := not_or.mp (mt List.mem_cons.mpr h)
    rw [decimalDigits, if_pos rfl, bne_iff_ne.mpr (Ne.symm hc)]
    exact ih hcs

theorem continues_decimalDigits (inComment : Bool) (value : Option Nat) :
    Continues t bound bound' (fun cs => some (decimalDigits verbose inComment value cs))
      fun cs => some (decimalDigits verbose inComment value cs) := by
  refine Continues.induction
    (fun _ (state : Bool × Option Nat) cs => some (decimalDigits verbose state.1 state.2 cs))
    (fun bound bound' ih => ?_) bound bound' (inComment, value)
  rintro ⟨inComment, value⟩
  refine .of_cons (fun _ _ h => ?_) rfl (fun u _ hlength => ?_) fun c => ?_
  · cases h
    rfl
  · cases inComment with
    | false =>
      refine .kept value [] rfl ?_
      simp [decimalDigits, show isBlank ')' = false by decide]
    | true =>
      refine .in_comment (fun _ _ heq => (ih (true, value)).front' hlength heq) fun hline => ?_
      have hpassed : decimalDigits verbose true value u = (value, []) := decimalDigits_of_line hline
      exact congrArg some hpassed
  · simp only [decimalDigits]
    split
    · exact .takes (ih (_, _))
    · split
      · exact .takes (ih (_, _))
      · split
        · exact .takes (ih (_, _))
        · split
          · exact .takes (ih (_, _))
          · exact .leaves value (fun _ => rfl) fun _ => rfl

theorem continues_decimal : Continues t bound bound' (decimal verbose) (decimal verbose) := by
  have hdecimal (cs : List Char) : decimal verbose cs =
      (some (decimalDigits verbose false none (cs.dropWhile isBlank))).bind fun (value, rest) =>
        value.bind fun value =>
          if value < countLimit then some (value, pass verbose (rest.dropWhile isBlank))
          else none := by
    rw [decimal]
    obtain ⟨_ | value, rest⟩ := decimalDigits verbose false none (cs.dropWhile isBlank) <;> rfl
  rw [funext hdecimal]
  refine .bind (.after_blanks (continues_decimalDigits false none)) fun value => ?_
  cases value with
  | none => exact .none
  | some value =>
    simp only [Option.bind_some]
    split
    · exact @Continues.after_blanks t bound bound' Nat (fun rest => some (value, pass verbose rest))
        (fun rest => some (value, pass verbose rest)) (.pure_pass value)
    · exact .none

/-- The closing brace of a repetition. -/
def closingBrace {α : Type} (x : Option α) : List Char → Option (α × List Char)
  | '\x7d' :: rest => x.map fun x => (x, rest)
  | _ => none

theorem continues_closingBrace {α : Type} (x : Option α) :
    Continues t bound bound' (closingBrace x) (closingBrace x) := by
  refine .of_cons_of_none rfl rfl fun c => ?_
  by_cases hc : c = '\x7d'
  · subst hc
    cases x with
    | none => exact .none
    | some x => exact .pure x
  · have hnone (cs : List Char) : closingBrace x (c :: cs) = none := by
      rw [closingBrace.eq_def]
      split <;> simp_all
    simp only [hnone]
    exact .none

/-- What follows the comma of a repetition, without blanks before it. -/
def upperBound (verbose : Bool) (least : Nat) (cs : List Char) :
    Option ((Nat × Option Nat) × List Char) :=
  if cs.head? == some '\x7d' then cs.head?.bind fun _ => some ((least, none), cs.tail)
  else (decimal verbose cs).bind fun (most, rest) =>
    closingBrace (if least ≤ most then some (least, some most) else none) rest

theorem continues_upperBound (least : Nat) :
    Continues t bound bound' (upperBound verbose least) (upperBound verbose least) := by
  refine .ite (fun u _ cs => ?_) (.after_first (.pure _)) (continues_decimal.bind fun most => ?_)
  · cases cs <;> rfl
  · exact continues_closingBrace _

/-- What follows the first number of a repetition. -/
def afterLeast (verbose : Bool) (least : Nat) : List Char → Option ((Nat × Option Nat) × List Char)
  | '\x7d' :: rest => some ((least, some least), rest)
  | ',' :: rest => upperBound verbose least (pass verbose rest)
  | _ => none

theorem bounds_eq (cs : List Char) :
    (bounds verbose cs).map (fun (least, most, rest) => ((least, most), rest)) =
      (decimal verbose (pass verbose cs)).bind fun (least, rest) =>
        afterLeast verbose least rest := by
  rw [bounds]
  cases decimal verbose (pass verbose cs) with
  | none => rfl
  | some found =>
    obtain ⟨least, rest⟩ := found
    simp only [Option.bind_eq_bind, Option.bind_some]
    split
    · rfl
    · rename_i rest
      rw [afterLeast, upperBound]
      split
      · rename_i heq
        rw [heq]
        rfl
      · rename_i hne
        rw [if_neg]
        · cases decimal verbose (pass verbose rest) with
          | none => rfl
          | some found =>
            obtain ⟨most, rest⟩ := found
            simp only [Option.bind_some]
            split
            · rw [closingBrace]
              split <;> rfl
            · rename_i hne
              rw [closingBrace.eq_def]
              split
              · exact absurd rfl (hne _)
              · rfl
        · intro hhead
          obtain ⟨rest', heq⟩ := List.head?_eq_some_iff.mp (eq_of_beq hhead)
          exact hne rest' heq
    · rename_i hbrace hcomma
      rw [afterLeast.eq_def]
      split
      · exact absurd rfl (hbrace _)
      · exact absurd rfl (hcomma _)
      · rfl

theorem continues_bounds :
    Continues t bound bound'
      (fun cs => (bounds verbose cs).map fun (least, most, rest) => ((least, most), rest))
      fun cs => (bounds verbose cs).map fun (least, most, rest) => ((least, most), rest) := by
  simp only [bounds_eq]
  refine .bind (.after_pass continues_decimal) fun least => .of_cons_of_none rfl rfl fun c => ?_
  dsimp only
  by_cases hbrace : c = '\x7d'
  · subst hbrace
    exact .pure _
  · by_cases hcomma : c = ','
    · subst hcomma
      exact .after_pass (continues_upperBound least)
    · have hnone (cs : List Char) : afterLeast verbose least (c :: cs) = none := by
        rw [afterLeast.eq_def]
        split <;> simp_all
      simp only [hnone]
      exact .none

/-! ## Flags -/

/-- The answer of the reader of flags, with what it has read in one. -/
def flagsAndSign (on : Bool) (edits : FlagEdits) (cs : List Char) :
    Option ((FlagEdits × Char) × List Char) :=
  (flagEdits on edits cs).map fun (edits, sign, rest) => ((edits, sign), rest)

theorem flagsAndSign_of_ne {c : Char} (h : c ≠ '-') (on : Bool) (edits : FlagEdits)
    (cs : List Char) : flagsAndSign on edits (c :: cs) =
      if c = ':' ∨ c = ')' then some ((edits.reverse, c), cs)
      else (flag? c).bind fun flag =>
        if edits.any fun (known, _) => known == flag then none
        else flagsAndSign on ((flag, on) :: edits) cs := by
  rw [flagsAndSign, flagEdits.eq_def]
  split
  · rename_i heq
    cases heq
  · rename_i heq
    cases heq
    exact absurd rfl h
  · rename_i heq
    cases heq
    split
    · rfl
    · cases flag? c with
      | none => rfl
      | some flag =>
        simp only [Option.bind_some]
        split <;> rfl

theorem continues_flagsAndSign_cons (on : Bool) (edits : FlagEdits) (c : Char) :
    Continues t bound bound' (fun cs => flagsAndSign on edits (c :: cs))
      fun cs => flagsAndSign on edits (c :: cs) := by
  refine Continues.induction
    (fun _ (state : Bool × FlagEdits × Char) cs => flagsAndSign state.1 state.2.1 (state.2.2 :: cs))
    (fun bound bound' ih => ?_) bound bound' (on, edits, c)
  rintro ⟨on, edits, c⟩
  have hflags (on : Bool) (edits : FlagEdits) : Continues t (bound + 1) (bound' + 1)
      (flagsAndSign on edits) (flagsAndSign on edits) :=
    .of_cons_of_none rfl rfl fun c => ih (on, edits, c)
  by_cases hhyphen : c = '-'
  · subst hhyphen
    cases on with
    | false => exact .none
    | true =>
      refine .of_cons_of_none rfl rfl fun d => ?_
      by_cases hsign : d = ':' ∨ d = ')'
      · have hnone (cs : List Char) : flagsAndSign true edits ('-' :: d :: cs) = none := by
          rcases hsign with rfl | rfl <;> rfl
        simp only [hnone]
        exact .none
      · have hoff (cs : List Char) :
            flagsAndSign true edits ('-' :: d :: cs) = flagsAndSign false edits (d :: cs) := by
          rw [flagsAndSign, flagsAndSign, flagEdits.eq_def]
          simp only [Bool.not_true, Bool.false_eq_true, if_false]
          split <;> simp_all
        simp only [hoff]
        exact ih (false, edits, d)
  · simp only [flagsAndSign_of_ne hhyphen]
    split
    · exact .pure _
    · cases flag? c with
      | none => exact .none
      | some flag =>
        simp only [Option.bind_some]
        split
        · exact .none
        · exact hflags _ _

/-! ## Openings -/

theorem dropWhile_of_groupName {cs name rest : List Char} (h : groupName cs = some (name, rest)) :
    cs.dropWhile (· != '>') = '>' :: rest := by
  rw [groupName] at h
  split at h
  · rename_i heq
    split at h
    · cases h
      exact heq
    · cases h
  · cases h

theorem continues_groupName : Continues t bound bound' groupName groupName := by
  have hsuffix {cs name rest : List Char} (h : groupName cs = some (name, rest)) :
      rest <:+ cs.dropWhile (· != '>') := by
    rw [dropWhile_of_groupName h]
    exact List.suffix_cons _ rest
  have hfront {bound : Nat} : TakesFront bound groupName :=
    fun _ _ _ _ h => (hsuffix h).trans (List.dropWhile_suffix _)
  refine ⟨hfront, hfront, fun _ _ => rfl, fun cs _ _ => ?_⟩
  cases hrest : cs.dropWhile (· != '>') with
  | nil =>
    have hnone : groupName cs = none := by
      rw [groupName, hrest]
      cases cs.takeWhile (· != '>') <;> rfl
    cases t with
    | none =>
      rw [tailOf, List.append_nil]
      exact .refl _
    | some u =>
      rw [hnone]
      refine .none_of_front fun name rest h => (hsuffix h).trans ?_
      rw [tailOf, List.dropWhile_append, hrest, List.isEmpty_nil, if_pos rfl,
        List.dropWhile_cons_of_pos (by decide)]
      exact List.dropWhile_suffix _
  | cons c rest =>
    obtain ⟨rfl, htake, hdrop⟩ := dropWhile_ne_append hrest (tailOf t)
    rw [groupName, groupName, hdrop, htake, hrest]
    cases cs.takeWhile (· != '>') with
    | nil => exact .none_none
    | cons first others =>
      simp only [List.cons_append]
      split
      · exact .kept _ rest rfl rfl
      · exact .none_none

/-- What flags open, by the sign that ends them. -/
def openedByFlags (edits : FlagEdits) (sign : Char) : Option Opening :=
  if sign ≠ ')' then some (.plain edits) else if edits.isEmpty then none else some (.flags edits)

theorem opening_angle (cs : List Char) : opening ('?' :: '<' :: cs) =
    if cs.head? == some '=' || cs.head? == some '!' then none
    else (groupName cs).map fun (name, rest) => (.capture (some name), rest) := by
  cases cs with
  | nil => rfl
  | cons c cs => by_cases h : c = '=' <;> by_cases h' : c = '!' <;> simp [opening, h, h']

theorem opening_flags {c : Char} (hahead : ¬ (c = '=' ∨ c = '!')) (hangle : c ≠ '<') (hp : c ≠ 'P')
    (cs : List Char) : opening ('?' :: c :: cs) =
      (flagsAndSign true [] (c :: cs)).bind fun ((edits, sign), rest) =>
        (openedByFlags edits sign).map fun opened => (opened, rest) := by
  rw [opening.eq_def, flagsAndSign]
  split
  · simp_all
  · simp_all
  · simp_all
  · simp_all
  · simp_all
  · simp_all
  · rename_i heq
    cases heq
    cases flagEdits true [] (c :: cs) with
    | none => rfl
    | some read =>
      obtain ⟨edits, sign, rest⟩ := read
      by_cases hsign : sign = ')'
      · subst hsign
        cases edits <;> rfl
      · simp [openedByFlags, hsign]
  · rename_i hne
    exact absurd rfl (hne _)

theorem continues_opening : Continues t bound bound' opening opening := by
  refine .of_cons_of_leaves (.capture none) rfl rfl (fun _ => rfl) fun c => ?_
  by_cases hmark : c = '?'
  · subst hmark
    refine .takes (.of_cons_of_none rfl rfl fun d => ?_)
    by_cases hahead : d = '=' ∨ d = '!'
    · have hnone (cs : List Char) : opening ('?' :: d :: cs) = none := by
        rcases hahead with rfl | rfl <;> rfl
      simp only [hnone]
      exact .none
    by_cases hangle : d = '<'
    · subst hangle
      simp only [opening_angle]
      refine .ite (fun u _ cs => ?_) .none
        (continues_groupName.map fun name => ⟨.capture (some name), fun _ => rfl⟩)
      cases cs <;> rfl
    by_cases hp : d = 'P'
    · subst hp
      refine .of_cons_of_none rfl rfl fun e => ?_
      by_cases hangle : e = '<'
      · subst hangle
        exact continues_groupName.map fun name => ⟨.capture (some name), fun _ => rfl⟩
      · have hnone (cs : List Char) : opening ('?' :: 'P' :: e :: cs) = none := by
          have hflags : flagEdits true [] ('P' :: e :: cs) = none := rfl
          simp [opening, hangle, hflags]
        simp only [hnone]
        exact .none
    simp only [opening_flags hahead hangle hp]
    exact (continues_flagsAndSign_cons true [] d).bind fun read =>
      .of_found (openedByFlags read.1 read.2)
  · have hcapture (cs : List Char) : opening (c :: cs) = some (.capture none, c :: cs) := by
      rw [opening.eq_def]
      split <;> simp_all
    exact .leaves _ hcapture hcapture

end EncodingPlan.Pattern
