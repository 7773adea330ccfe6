import EncodingPlan.Proofs.Pattern.Reading.Escapes
import Mathlib.Data.List.TakeWhile

/-! Bracketed classes in a text that goes on. No class opens or closes with a parenthesis, so the
tail cannot complete one. -/

namespace EncodingPlan.Pattern

open Text

variable {t : Option (List Char)} {u : List Char} {bound bound' : Nat} {verbose : Bool}

/-! ## Named classes -/

/-- The name of a class and its end, after the opening. -/
def namedClass (negated : Bool) (cs : List Char) : Option (ClassSyntax × List Char) :=
  match cs.dropWhile (· != ':') with
  | ':' :: ']' :: rest =>
    (posixClasses.find? fun (known, _) => known.toList == cs.takeWhile (· != ':')).map fun (_, p) =>
      (.posix p negated, rest)
  | _ => none

theorem posixClass_eq (cs : List Char) : posixClass cs =
    match cs with
    | '[' :: ':' :: '^' :: rest => namedClass true rest
    | '[' :: ':' :: rest => namedClass false rest
    | _ => none := by
  simp only [posixClass, namedClass, Option.map_eq_bind]
  rfl

theorem namedClass_of_parenthesis {negated : Bool} {cs : List Char}
    (h : ')' ∈ cs.takeWhile (· != ':')) : namedClass negated cs = none := by
  have hnames : ∀ named ∈ posixClasses, ')' ∉ named.1.toList := by decide
  rw [namedClass]
  split
  · rw [List.find?_eq_none.mpr, Option.map_none]
    intro named hmem heq
    rw [beq_iff_eq] at heq
    exact hnames named hmem (heq ▸ h)
  · rfl

/-- A mark that is found in a text is found at the same place if the text goes on. -/
theorem dropWhile_ne_append {mark c : Char} {cs rest : List Char}
    (h : cs.dropWhile (· != mark) = c :: rest) (ds : List Char) :
    c = mark ∧ (cs ++ ds).takeWhile (· != mark) = cs.takeWhile (· != mark) ∧
      (cs ++ ds).dropWhile (· != mark) = c :: rest ++ ds := by
  have hmark : c = mark := by
    have := List.head?_dropWhile_not (· != mark) cs
    rw [h] at this
    simpa using this
  have hbefore : ∀ d ∈ cs.takeWhile (· != mark), (d != mark) = true :=
    fun _ => List.mem_takeWhile_imp
  have hcs : cs.takeWhile (· != mark) ++ c :: rest = cs := h ▸ List.takeWhile_append_dropWhile
  refine ⟨hmark, ?_, by rw [List.dropWhile_append, h]; rfl⟩
  rw [← hcs, List.append_assoc, List.takeWhile_append_of_pos hbefore,
    List.takeWhile_append_of_pos hbefore]
  simp [hmark]

theorem namedClass_append (negated : Bool) (cs : List Char) :
    namedClass negated (cs ++ ')' :: u) =
      (namedClass negated cs).map fun (item, rest) => (item, rest ++ ')' :: u) := by
  cases hrest : cs.dropWhile (· != ':') with
  | nil =>
    rw [show namedClass negated cs = none by rw [namedClass, hrest], Option.map_none]
    refine namedClass_of_parenthesis ?_
    rw [List.takeWhile_append_of_pos (List.dropWhile_eq_nil_iff.mp hrest)]
    simp
  | cons c rest =>
    obtain ⟨rfl, htake, hdrop⟩ := dropWhile_ne_append hrest (')' :: u)
    rw [namedClass, namedClass, hdrop, htake, hrest]
    cases rest with
    | nil => rfl
    | cons d rest =>
      by_cases hd : d = ']'
      · subst hd
        simp [Option.map_map, Function.comp_def]
      · simp [hd]

theorem namedClass_suffix {negated : Bool} {cs rest : List Char} {item : ClassSyntax}
    (h : namedClass negated cs = some (item, rest)) : rest <:+ cs := by
  rw [namedClass] at h
  split at h
  · rename_i heq
    obtain ⟨_, -, hrest⟩ := Option.map_eq_some_iff.mp h
    cases hrest
    exact .trans ⟨[':', ']'], heq.symm⟩ (List.dropWhile_suffix _)
  · cases h

theorem posixClass_append (cs : List Char) :
    posixClass (cs ++ ')' :: u) =
      (posixClass cs).map fun (item, rest) => (item, rest ++ ')' :: u) := by
  rw [posixClass_eq, posixClass_eq]
  match cs with
  | [] => rfl
  | [c] => by_cases hc : c = '[' <;> simp [hc]
  | [c, d] =>
    by_cases hc : c = '['
    · by_cases hd : d = ':'
      · rw [hc, hd]
        exact namedClass_append false []
      · simp [hd]
    · simp [hc]
  | c :: d :: e :: cs =>
    by_cases hc : c = '['
    · by_cases hd : d = ':'
      · by_cases he : e = '^'
        · rw [hc, hd, he]
          exact namedClass_append true cs
        · simpa [hc, hd, he] using namedClass_append false (e :: cs)
      · simp [hd]
    · simp [hc]

theorem posixClass_suffix {cs rest : List Char} {item : ClassSyntax}
    (h : posixClass cs = some (item, rest)) : rest <:+ cs.tail := by
  rw [posixClass_eq] at h
  split at h
  · exact (namedClass_suffix h).trans ⟨[':', '^'], rfl⟩
  · exact (namedClass_suffix h).trans ⟨[':'], rfl⟩
  · cases h

/-! ## Items and ranges -/

theorem continues_classItem_cons (c : Char) :
    Continues t bound bound' (fun cs => classItem verbose (c :: cs))
      fun cs => classItem verbose (c :: cs) := by
  by_cases hc : c = '\\'
  · subst hc
    refine continues_escape (fun syn => ?_) fun _ _ => rfl
    cases syn with
    | literal l => exact .pure _
    | shorthand s negated => exact .pure _
    | property q negated => exact .pure _
    | _ => exact .none
  · have hliteral (cs : List Char) :
        classItem verbose (c :: cs) = some (.literal ⟨c, false⟩, cs) := by
      rw [classItem.eq_def]
      split <;> simp_all
    simp only [hliteral]
    exact .pure _

theorem continues_classItem : Continues t bound bound' (classItem verbose) (classItem verbose) :=
  .of_cons_of_none rfl rfl continues_classItem_cons

theorem dropWhile_isBlank_append (cs : List Char) :
    (cs ++ ')' :: u).dropWhile isBlank = cs.dropWhile isBlank ++ ')' :: u := by
  have hparenthesis : isBlank ')' = false := by decide
  rw [List.dropWhile_append]
  split
  · rename_i h
    rw [List.isEmpty_iff.mp h, List.dropWhile_cons_of_neg (by simp [hparenthesis]), List.nil_append]
  · rfl

theorem afterHyphen_append (cs : List Char) :
    afterHyphen verbose (cs ++ ')' :: u) = (afterHyphen verbose cs).or (some ')') := by
  have hhead (cs : List Char) : (cs ++ ')' :: u).head? = cs.head?.or (some ')') := by
    cases cs <;> rfl
  rw [afterHyphen, afterHyphen]
  split
  · exact hhead cs
  · rw [dropWhile_isBlank_append]
    cases cs.dropWhile isBlank with
    | nil => rfl
    | cons c rest =>
      by_cases hc : c = '#'
      · subst hc
        simp only [List.cons_append, dropWhile_isBlank_append]
        exact hhead _
      · simp [hc]

/-- The text begins with a hyphen that belongs to what comes after it. -/
def leavesHyphen (verbose : Bool) : List Char → Bool
  | '-' :: rest => afterHyphen verbose rest == some ']' || afterHyphen verbose rest == some '-'
  | _ => false

/-- The end of a range that has begun with an item, or nothing if that is all. -/
def rangeEnd (verbose : Bool) (first : ClassSyntax) : List Char → Option (ClassSyntax × List Char)
  | '-' :: rest => do
    let (last, rest) ← classItem verbose (pass verbose rest)
    match first, last with
    | .literal a, .literal b => if a.char ≤ b.char then pure (.range a b, rest) else none
    | _, _ => none
  | rest => some (first, rest)

theorem classRange_eq (cs : List Char) : classRange verbose cs =
    (classItem verbose cs).bind fun (first, rest) =>
      if leavesHyphen verbose (pass verbose rest) then some (first, pass verbose rest)
      else rangeEnd verbose first (pass verbose rest) := by
  rw [classRange]
  cases classItem verbose cs with
  | none => rfl
  | some found =>
    obtain ⟨first, rest⟩ := found
    simp only [Option.bind_eq_bind, Option.bind_some]
    generalize pass verbose rest = rest
    split
    · rename_i rest
      simp only [leavesHyphen, rangeEnd]
      split
      · simp [*]
      · simp [*]
      · rw [if_neg (by simp_all)]
        rfl
    · rename_i hne
      rw [leavesHyphen.eq_def, rangeEnd.eq_def]
      split
      · exact absurd rfl (hne _)
      · rfl

theorem leavesHyphen_append (cs : List Char) :
    leavesHyphen verbose (cs ++ ')' :: u) = leavesHyphen verbose cs := by
  match cs with
  | [] => rfl
  | c :: cs =>
    by_cases hc : c = '-'
    · subst hc
      simp only [leavesHyphen, List.cons_append, afterHyphen_append]
      cases afterHyphen verbose cs with
      | none => rfl
      | some d => rfl
    · simp [leavesHyphen, hc]

theorem continues_rangeEnd (first : ClassSyntax) :
    Continues t bound bound' (rangeEnd verbose first) (rangeEnd verbose first) := by
  refine .of_cons_of_leaves first rfl rfl (fun _ => rfl) fun c => ?_
  by_cases hc : c = '-'
  · subst hc
    refine .takes (.bind (.after_pass continues_classItem) fun last => ?_)
    dsimp only
    split
    · split
      · exact .pure _
      · exact .none
    · exact .none
  · have hleaves (cs : List Char) : rangeEnd verbose first (c :: cs) = some (first, c :: cs) := by
      rw [rangeEnd.eq_def]
      split <;> simp_all
    exact .leaves first hleaves hleaves

theorem continues_classRange_cons (c : Char) :
    Continues t bound bound' (fun cs => classRange verbose (c :: cs))
      fun cs => classRange verbose (c :: cs) := by
  simp only [classRange_eq]
  refine (continues_classItem_cons c).bind fun first => ?_
  exact .after_pass (.ite (fun _ _ => leavesHyphen_append) (.pure first) (continues_rangeEnd first))

/-! ## Openings -/

theorem leadingHyphens_hyphen (fuel : Nat) (cs : List Char) :
    some (leadingHyphens verbose (fuel + 1) ('-' :: cs)) =
      (some (leadingHyphens verbose fuel (pass verbose cs))).map fun (items, rest) =>
        (.literal ⟨'-', false⟩ :: items, rest) :=
  rfl

theorem continues_leadingHyphens (fuel fuel' : Nat) :
    Continues t fuel fuel' (fun cs => some (leadingHyphens verbose fuel cs))
      fun cs => some (leadingHyphens verbose fuel' cs) := by
  refine Continues.induction (fun fuel (_ : Unit) cs => some (leadingHyphens verbose fuel cs))
    (fun fuel fuel' ih _ => ?_) fuel fuel' ()
  refine .of_cons_of_leaves [] rfl rfl (fun _ => rfl) fun c => ?_
  by_cases hc : c = '-'
  · subst hc
    simp only [leadingHyphens_hyphen]
    exact .takes ((Continues.after_pass (ih ())).map fun items =>
      ⟨.literal ⟨'-', false⟩ :: items, fun _ => rfl⟩)
  · have hleaves (fuel : Nat) (cs : List Char) :
        some (leadingHyphens verbose fuel (c :: cs)) = some ([], c :: cs) := by
      rw [leadingHyphens.eq_def]
      split <;> simp_all
    exact .leaves [] (hleaves _) (hleaves _)

/-- The sign of negation. -/
def negation (verbose : Bool) : List Char → Bool × List Char
  | '^' :: rest => (true, pass verbose rest)
  | cs => (false, cs)

/-- The literals at the start of a class; a closing bracket can be the only one. -/
def firstLiterals (verbose : Bool) (items : List ClassSyntax) :
    List Char → List ClassSyntax × List Char
  | ']' :: rest =>
    if items.isEmpty then ([.literal ⟨']', false⟩], pass verbose rest) else (items, ']' :: rest)
  | cs => (items, cs)

theorem firstLiterals_eq (negated : Bool) (hyphens : List ClassSyntax × List Char) :
    (match hyphens with
      | ([], ']' :: rest) => (negated, [.literal ⟨']', false⟩], pass verbose rest)
      | (items, rest) => (negated, items, rest)) =
      (negated, firstLiterals verbose hyphens.1 hyphens.2) := by
  obtain ⟨items, rest⟩ := hyphens
  cases items with
  | nil =>
    dsimp only
    split
    · rename_i heq
      cases heq
      rfl
    · rename_i hne heq
      cases heq
      rw [firstLiterals.eq_def]
      split
      · exact absurd rfl (hne _ rfl)
      · rfl
  | cons item items =>
    dsimp only
    rw [firstLiterals.eq_def]
    split <;> rfl

theorem classOpening_eq (fuel : Nat) (cs : List Char) :
    some (((classOpening verbose fuel cs).1, (classOpening verbose fuel cs).2.1),
      (classOpening verbose fuel cs).2.2) =
    (some (negation verbose (pass verbose cs))).bind fun (negated, rest) =>
      (some (leadingHyphens verbose fuel rest)).bind fun (items, rest) =>
        (some (firstLiterals verbose items rest)).map fun (items, rest) =>
          ((negated, items), rest) := by
  have hopening : classOpening verbose fuel cs = ((negation verbose (pass verbose cs)).1,
      firstLiterals verbose (leadingHyphens verbose fuel (negation verbose (pass verbose cs)).2).1
        (leadingHyphens verbose fuel (negation verbose (pass verbose cs)).2).2) :=
    firstLiterals_eq ..
  rw [hopening]
  rfl

theorem continues_negation :
    Continues t bound bound' (fun cs => some (negation verbose cs))
      fun cs => some (negation verbose cs) := by
  refine .of_cons_of_leaves false rfl rfl (fun _ => rfl) fun c => ?_
  by_cases hc : c = '^'
  · subst hc
    exact .takes (.pure_pass true)
  · have hleaves (cs : List Char) : some (negation verbose (c :: cs)) = some (false, c :: cs) := by
      rw [negation.eq_def]
      split <;> simp_all
    exact .leaves false hleaves hleaves

theorem continues_firstLiterals (items : List ClassSyntax) :
    Continues t bound bound' (fun cs => some (firstLiterals verbose items cs))
      fun cs => some (firstLiterals verbose items cs) := by
  refine .of_cons_of_leaves items rfl rfl (fun _ => rfl) fun c => ?_
  by_cases htakes : c = ']' ∧ items = []
  · obtain ⟨rfl, rfl⟩ := htakes
    exact .takes (.pure_pass [ClassSyntax.literal ⟨']', false⟩])
  · have hleaves (cs : List Char) :
        some (firstLiterals verbose items (c :: cs)) = some (items, c :: cs) := by
      rw [firstLiterals.eq_def]
      split
      · simp_all
      · rfl
    exact .leaves items hleaves hleaves

theorem continues_classOpening (fuel fuel' : Nat) :
    Continues t fuel fuel'
      (fun cs => some (((classOpening verbose fuel cs).1, (classOpening verbose fuel cs).2.1),
        (classOpening verbose fuel cs).2.2))
      fun cs => some (((classOpening verbose fuel' cs).1, (classOpening verbose fuel' cs).2.1),
        (classOpening verbose fuel' cs).2.2) := by
  simp only [classOpening_eq]
  refine .bind (.after_pass continues_negation) fun negated => ?_
  dsimp only
  refine (continues_leadingHyphens fuel fuel').bind fun items => ?_
  exact (continues_firstLiterals items).map fun items => ⟨(negated, items), fun _ => rfl⟩

/-! ## Bodies -/

/-- A class in a class, after its opening bracket. -/
def nestedClass (verbose : Bool) (fuel : Nat) (cs : List Char) : Option (ClassSyntax × List Char) :=
  (some (((classOpening verbose fuel cs).1, (classOpening verbose fuel cs).2.1),
    (classOpening verbose fuel cs).2.2)).bind fun ((negated, first), rest) =>
      (classBody verbose fuel none first.reverse rest).map fun (body, rest) =>
        (.bracketed body negated, rest)

theorem classBody_bracket {waiting : Option (SetOperation × ClassSyntax)}
    {items : List ClassSyntax} {fuel : Nat} (cs : List Char) :
    classBody verbose (fuel + 1) waiting items ('[' :: cs) =
      ((posixClass ('[' :: cs)).or (nestedClass verbose fuel cs)).bind fun (item, rest) =>
        classBody verbose fuel waiting (item :: items) rest := by
  rw [classBody, pass_cons fun _ => by decide]
  simp only [nestedClass]
  cases posixClass ('[' :: cs) with
  | some found => rfl
  | none =>
    simp only [Option.none_or, Option.bind_some, Option.bind_map]
    rfl

/-- The operation that a character stands for if it is doubled. -/
def doubled? : Char → Option SetOperation
  | '&' => some .intersection
  | '-' => some .difference
  | '~' => some .symmetricDifference
  | _ => none

theorem classBody_of_ne {waiting : Option (SetOperation × ClassSyntax)}
    {items : List ClassSyntax} {fuel : Nat} {c : Char} (hcounts : Counts verbose c)
    (hclose : c ≠ ']') (hopen : c ≠ '[') (cs : List Char) :
    classBody verbose (fuel + 1) waiting items (c :: cs) =
      match doubled? c with
      | some op =>
        if cs.head? == some c then
          cs.head?.bind fun _ =>
            classBody verbose fuel (some (op, closeOperation waiting items)) [] cs.tail
        else (classRange verbose (c :: cs)).bind fun (item, rest) =>
          classBody verbose fuel waiting (item :: items) rest
      | none => (classRange verbose (c :: cs)).bind fun (item, rest) =>
        classBody verbose fuel waiting (item :: items) rest := by
  rw [classBody, pass_cons hcounts]
  split
  · simp_all
  · simp_all
  · simp_all
  · rename_i heq
    cases heq
    rfl
  · rename_i heq
    cases heq
    rfl
  · rename_i heq
    cases heq
    rfl
  · rename_i hand hhyphen htilde
    split
    · rename_i op hop
      rw [if_neg]
      · rfl
      · intro hhead
        obtain ⟨rest, rfl⟩ := List.head?_eq_some_iff.mp (eq_of_beq hhead)
        rw [doubled?.eq_def] at hop
        split at hop
        · exact hand rest rfl
        · exact hhyphen rest rfl
        · exact htilde rest rfl
        · cases hop
    · rfl

theorem continues_classBody (fuel fuel' : Nat) (waiting : Option (SetOperation × ClassSyntax))
    (items : List ClassSyntax) :
    Continues t fuel fuel' (classBody verbose fuel waiting items)
      (classBody verbose fuel' waiting items) := by
  refine Continues.induction
    (fun fuel (state : Option (SetOperation × ClassSyntax) × List ClassSyntax) =>
      classBody verbose fuel state.1 state.2)
    (fun fuel fuel' ih => ?_) fuel fuel' (waiting, items)
  rintro ⟨waiting, items⟩
  have hnil (fuel : Nat) : classBody verbose (fuel + 1) waiting items [] = none := by
    cases verbose <;> rfl
  have hread (fuel : Nat) (cs : List Char) : classBody verbose (fuel + 1) waiting items
      (pass verbose cs) = classBody verbose (fuel + 1) waiting items cs := by
    rw [classBody, classBody, pass_pass]
  refine .of_pass_of_none (hread fuel) (hread fuel') (hnil fuel) (hnil fuel') fun c hcounts => ?_
  by_cases hclose : c = ']'
  · subst hclose
    simp only [classBody, pass_cons hcounts]
    exact .pure _
  by_cases hopen : c = '['
  · subst hopen
    simp only [classBody_bracket]
    have hnested : Continues t fuel fuel' (nestedClass verbose fuel) (nestedClass verbose fuel') :=
      (continues_classOpening fuel fuel').bind fun opened =>
        (ih (none, opened.2.reverse)).map fun body => ⟨.bracketed body opened.1, fun _ => rfl⟩
    refine .bind (.or (fun cs _ _ h => ?_) (fun _ _ cs => ?_) hnested)
      fun item => ih (waiting, item :: items)
    · exact posixClass_suffix h
    · exact posixClass_append ('[' :: cs)
  · simp only [classBody_of_ne hcounts hclose hopen]
    have hitem : Continues t fuel fuel'
        (fun cs => (classRange verbose (c :: cs)).bind fun (item, rest) =>
          classBody verbose fuel waiting (item :: items) rest)
        fun cs => (classRange verbose (c :: cs)).bind fun (item, rest) =>
          classBody verbose fuel' waiting (item :: items) rest :=
      (continues_classRange_cons c).bind fun item => ih (waiting, item :: items)
    cases hop : doubled? c with
    | none => exact hitem
    | some op =>
      refine .ite (fun u _ cs => ?_) (.after_first ?_) hitem
      · cases cs with
        | nil =>
          have hc : ')' ≠ c := by
            rintro rfl
            cases hop
          simpa using hc
        | cons d cs => rfl
      · exact (ih (_, [])).mono (Nat.sub_le fuel 1) (Nat.sub_le fuel' 1)

theorem continues_bracketed (fuel fuel' : Nat) :
    Continues t fuel fuel' (bracketed verbose fuel) (bracketed verbose fuel') := by
  have hbracketed (fuel : Nat) (cs : List Char) : bracketed verbose fuel cs =
      (some (((classOpening verbose fuel cs).1, (classOpening verbose fuel cs).2.1),
        (classOpening verbose fuel cs).2.2)).bind fun ((negated, first), rest) =>
          (classBody verbose fuel none first.reverse rest).map fun (body, rest) =>
            (.bracketed body negated, rest) := by
    simp only [bracketed, Option.map_eq_bind]
    rfl
  rw [funext (hbracketed fuel), funext (hbracketed fuel')]
  refine (continues_classOpening fuel fuel').bind fun opened => ?_
  exact (continues_classBody fuel fuel' none _).map fun body =>
    ⟨.bracketed body opened.1, fun _ => rfl⟩

end EncodingPlan.Pattern
