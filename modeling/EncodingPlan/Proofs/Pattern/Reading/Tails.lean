import EncodingPlan.Pattern.Parser

/-! Reading a text that goes on. A tail that opens with a closing parenthesis is put after a text,
and what a reader answers is compared with what it answers for the text alone. Usually the tail is
just left. It can also be passed, when the text ends in a comment and the comment goes on to the end
of the tail. In all other cases reading ends within the tail, or fails. Without a tail, readers that
are given enough fuel answer the same. -/

namespace EncodingPlan.Pattern

open Text

variable {α β : Type}

/-- A reader of the front of a text. -/
abbrev Reader (α : Type) := List Char → Option (α × List Char)

/-- What is left is the rest of the text, for texts shorter than the bound. -/
def TakesFront (bound : Nat) (read : Reader α) : Prop :=
  ∀ ⦃cs x rest⦄, cs.length < bound → read cs = some (x, rest) → rest <:+ cs

/-- How the answer for a text with the tail, `followed`, compares with the one for the text
`alone`. -/
inductive Follows (tail : List Char) (alone followed : Option (α × List Char)) : Prop where
  | kept (x : α) (rest : List Char) (halone : alone = some (x, rest))
      (hfollowed : followed = some (x, rest ++ tail))
  | lost (x : α) (hline : '\n' ∉ tail) (halone : alone = some (x, []))
      (hfollowed : followed = some (x, []))
  | within (halone : '\n' ∈ tail ∨ alone = none)
      (hfollowed : ∀ x rest, followed ≠ some (x, rest ++ tail))

namespace Follows

variable {tail : List Char} {alone followed : Option (α × List Char)}

theorem none_none : Follows tail (none : Option (α × List Char)) none :=
  .within (.inr rfl) nofun

theorem refl (answer : Option (α × List Char)) : Follows [] answer answer := by
  cases answer with
  | none => exact .none_none
  | some read => exact .kept read.1 read.2 rfl (by rw [List.append_nil])

theorem eq_of_nil (h : Follows [] alone followed) : alone = followed := by
  rcases h with ⟨x, rest, rfl, rfl⟩ | ⟨x, -, rfl, rfl⟩ | ⟨halone, hfollowed⟩
  · rw [List.append_nil]
  · rfl
  · rw [halone.resolve_left List.not_mem_nil]
    refine (Option.eq_none_iff_forall_ne_some.mpr fun found => ?_).symm
    have hne := hfollowed found.1 found.2
    rwa [List.append_nil] at hne

/-- Who takes the first character of the tail does not leave the tail. -/
theorem ne_of_front {c : Char} {u : List Char}
    (h : ∀ x rest, followed = some (x, rest) → rest <:+ u) (x : α) (rest : List Char) :
    followed ≠ some (x, rest ++ c :: u) := by
  intro heq
  have := (h x _ heq).length_le
  rw [List.length_append, List.length_cons] at this
  omega

theorem none_of_front {c : Char} {u : List Char}
    (h : ∀ x rest, followed = some (x, rest) → rest <:+ u) : Follows (c :: u) none followed :=
  .within (.inr rfl) (ne_of_front h)

/-- A comment at the end of the text goes on to the end of its line. -/
theorem in_comment {u : List Char} {x : α}
    (h : ∀ x rest, followed = some (x, rest) → rest <:+ u)
    (hline : '\n' ∉ u → followed = some (x, [])) : Follows (')' :: u) (some (x, [])) followed := by
  by_cases hu : '\n' ∈ u
  · exact .within (.inl (List.mem_cons_of_mem _ hu)) (ne_of_front h)
  · exact .lost x (by simpa using hu) rfl (hline hu)

theorem bind {next next' : α × List Char → Option (β × List Char)}
    (h : Follows tail alone followed)
    (hnext : ∀ x rest, alone = some (x, rest) →
      Follows tail (next (x, rest)) (next' (x, rest ++ tail)))
    (hnil : ∀ x, followed = some (x, []) → next' (x, []) = next (x, []))
    (hfront : ∀ x rest, followed = some (x, rest) →
      ∀ y rest', next' (x, rest) = some (y, rest') → rest' <:+ rest) :
    Follows tail (alone.bind next) (followed.bind next') := by
  rcases h with ⟨x, rest, rfl, rfl⟩ | ⟨x, hline, rfl, rfl⟩ | ⟨halone, hfollowed⟩
  · exact hnext x rest rfl
  · rw [Option.bind_some, Option.bind_some, hnil x rfl]
    cases hread : next (x, []) with
    | none => exact .none_none
    | some read =>
      have hrest : read.2 = [] :=
        List.suffix_nil.mp (hfront x [] rfl read.1 read.2 ((hnil x rfl).trans hread))
      exact .lost read.1 hline (by rw [← hrest]) (by rw [← hrest])
  · refine .within (halone.imp id fun h => by rw [h]; rfl) fun y rest heq => ?_
    obtain ⟨⟨x, between⟩, hread, heq⟩ := Option.bind_eq_some_iff.mp heq
    obtain ⟨passed, rfl⟩ := hfront x between hread y _ heq
    exact hfollowed x (passed ++ rest) (by rw [hread, List.append_assoc])

end Follows

/-- Nothing, or a closing parenthesis and what comes after it. -/
def tailOf : Option (List Char) → List Char
  | none => []
  | some t => ')' :: t

/-- The readers `read` and `read'` answer alike, the latter for texts with the tail. Each is judged
for texts shorter than its bound. -/
structure Continues (t : Option (List Char)) (bound bound' : Nat) (read read' : Reader α) :
    Prop where
  front : TakesFront bound read
  front' : TakesFront bound' read'
  nil (h : 0 < bound) (h' : 0 < bound') : read' [] = read []
  follows (cs : List Char) (h : cs.length < bound) (h' : (cs ++ tailOf t).length < bound') :
    Follows (tailOf t) (read cs) (read' (cs ++ tailOf t))

namespace Continues

variable {t : Option (List Char)} {bound bound' : Nat} {read read' : Reader α}

/-- Readers that take one character more call on readers for shorter texts. -/
theorem induction {ι : Type} (read : Nat → ι → Reader α)
    (hstep : ∀ fuel fuel', (∀ i, Continues t fuel fuel' (read fuel i) (read fuel' i)) →
      ∀ i, Continues t (fuel + 1) (fuel' + 1) (read (fuel + 1) i) (read (fuel' + 1) i))
    (fuel fuel' : Nat) (i : ι) : Continues t fuel fuel' (read fuel i) (read fuel' i) := by
  have hsame (fuel : Nat) (i : ι) : Continues t fuel fuel (read fuel i) (read fuel i) := by
    induction fuel generalizing i with
    | zero => exact ⟨nofun, nofun, nofun, nofun⟩
    | succ fuel ih => exact hstep fuel fuel ih i
  induction fuel generalizing fuel' i with
  | zero => exact ⟨nofun, (hsame fuel' i).front, nofun, nofun⟩
  | succ fuel ih =>
    cases fuel' with
    | zero => exact ⟨(hsame (fuel + 1) i).front, nofun, nofun, nofun⟩
    | succ fuel' => exact hstep fuel fuel' (ih fuel') i

theorem mono {smaller smaller' : Nat} (h : Continues t bound bound' read read')
    (hle : smaller ≤ bound) (hle' : smaller' ≤ bound') :
    Continues t smaller smaller' read read' where
  front _ _ _ hcs := h.front (Nat.lt_of_lt_of_le hcs hle)
  front' _ _ _ hcs := h.front' (Nat.lt_of_lt_of_le hcs hle')
  nil hpos hpos' := h.nil (Nat.lt_of_lt_of_le hpos hle) (Nat.lt_of_lt_of_le hpos' hle')
  follows cs hcs hcs' :=
    h.follows cs (Nat.lt_of_lt_of_le hcs hle) (Nat.lt_of_lt_of_le hcs' hle')

theorem none :
    Continues t bound bound' (fun _ => (none : Option (α × List Char))) fun _ => .none where
  front := nofun
  front' := nofun
  nil _ _ := rfl
  follows _ _ _ := .none_none

theorem pure (x : α) :
    Continues t bound bound' (fun cs => some (x, cs)) fun cs => some (x, cs) where
  front := by rintro cs _ _ - ⟨⟩; exact List.suffix_refl cs
  front' := by rintro cs _ _ - ⟨⟩; exact List.suffix_refl cs
  nil _ _ := rfl
  follows cs _ _ := .kept x cs rfl rfl

theorem of_found (found : Option α) :
    Continues t bound bound' (fun cs => found.map fun x => (x, cs))
      fun cs => found.map fun x => (x, cs) := by
  cases found with
  | none => exact .none
  | some x => exact .pure x

theorem front_bind {next : α × List Char → Option (β × List Char)} (h : TakesFront bound read)
    (hnext : ∀ x, TakesFront bound fun rest => next (x, rest)) :
    TakesFront bound fun cs => (read cs).bind next := by
  intro cs y rest hcs heq
  obtain ⟨⟨x, between⟩, hread, heq⟩ := Option.bind_eq_some_iff.mp heq
  have hbetween := h hcs hread
  exact (hnext x (Nat.lt_of_le_of_lt hbetween.length_le hcs) heq).trans hbetween

/-- One reader after the other. -/
theorem bind {next next' : α × List Char → Option (β × List Char)}
    (h : Continues t bound bound' read read')
    (hnext : ∀ x,
      Continues t bound bound' (fun rest => next (x, rest)) fun rest => next' (x, rest)) :
    Continues t bound bound' (fun cs => (read cs).bind next) fun cs => (read' cs).bind next' where
  front := front_bind h.front fun x => (hnext x).front
  front' := front_bind h.front' fun x => (hnext x).front'
  nil hbound hbound' := by
    rw [h.nil hbound hbound']
    cases hread : read [] with
    | none => rfl
    | some found =>
      obtain ⟨x, rest⟩ := found
      obtain rfl : rest = [] := List.suffix_nil.mp (h.front hbound hread)
      exact (hnext x).nil hbound hbound'
  follows cs hcs hcs' := by
    refine (h.follows cs hcs hcs').bind (fun x rest hread => ?_) (fun x _ => ?_)
      fun x rest hread => ?_
    · have hle := (h.front hcs hread).length_le
      rw [List.length_append] at hcs'
      refine (hnext x).follows rest (by omega) ?_
      rw [List.length_append]
      omega
    · exact (hnext x).nil (Nat.zero_lt_of_lt hcs) (Nat.zero_lt_of_lt hcs')
    · exact fun y rest' heq =>
        (hnext x).front' (Nat.lt_of_le_of_lt (h.front' hcs' hread).length_le hcs') heq

theorem map {f : α × List Char → β × List Char} (h : Continues t bound bound' read read')
    (hf : ∀ x, ∃ y, ∀ rest, f (x, rest) = (y, rest)) :
    Continues t bound bound' (fun cs => (read cs).map f) fun cs => (read' cs).map f := by
  simp only [Option.map_eq_bind]
  refine h.bind fun x => ?_
  obtain ⟨y, hy⟩ := hf x
  simp only [Function.comp_apply, hy]
  exact .pure y

/-- What two readers do with a first character: they take it, or they are done and leave it. -/
inductive TakesOrLeaves (t : Option (List Char)) (bound bound' : Nat) (c : Char)
    (next next' : Reader α) : Prop where
  | takes (h : Continues t bound bound' next next')
  | leaves (x : α) (h : ∀ cs, next cs = some (x, c :: cs))
      (h' : ∀ cs, next' cs = some (x, c :: cs))

/-- A reader looks at the first character and takes it or leaves it. -/
theorem of_cons (hnil : ∀ x rest, read [] = some (x, rest) → rest = []) (hnil' : read' [] = read [])
    (htail : ∀ u ∈ t, u.length < bound' - 1 → Follows (')' :: u) (read []) (read' (')' :: u)))
    (hcons : ∀ c, TakesOrLeaves t (bound - 1) (bound' - 1) c
      (fun cs => read (c :: cs)) fun cs => read' (c :: cs)) :
    Continues t bound bound' read read' := by
  constructor
  case front =>
    rintro (_ | ⟨c, cs⟩) x rest hcs h
    · exact hnil x rest h ▸ List.suffix_refl []
    · rw [List.length_cons] at hcs
      rcases hcons c with htakes | ⟨x, hleaves, -⟩
      · exact (htakes.front (by omega) h).trans (List.suffix_cons c cs)
      · cases (hleaves cs).symm.trans h
        exact List.suffix_refl _
  case front' =>
    rintro (_ | ⟨c, cs⟩) x rest hcs h
    · exact hnil x rest (hnil' ▸ h) ▸ List.suffix_refl []
    · rw [List.length_cons] at hcs
      rcases hcons c with htakes | ⟨x, -, hleaves⟩
      · exact (htakes.front' (by omega) h).trans (List.suffix_cons c cs)
      · cases (hleaves cs).symm.trans h
        exact List.suffix_refl _
  case nil => exact fun _ _ => hnil'
  case follows =>
    rintro (_ | ⟨c, cs⟩) hcs hcs'
    · cases t with
      | none =>
        rw [show read' ([] ++ tailOf .none) = read [] from hnil']
        exact .refl _
      | some u =>
        rw [List.nil_append, tailOf, List.length_cons] at hcs'
        exact htail u rfl (by omega)
    · rw [List.length_cons] at hcs
      rw [List.cons_append, List.length_cons] at hcs'
      rcases hcons c with htakes | ⟨x, hleaves, hleaves'⟩
      · exact htakes.follows cs (by omega) (by omega)
      · exact .kept x (c :: cs) (hleaves cs) (hleaves' _)

/-- A reader looks at the first character, and leaves the tail. -/
theorem of_cons_of_leaves (x : α) (hnil : read [] = some (x, [])) (hnil' : read' [] = some (x, []))
    (htail : ∀ u, read' (')' :: u) = some (x, ')' :: u))
    (hcons : ∀ c, TakesOrLeaves t (bound - 1) (bound' - 1) c
      (fun cs => read (c :: cs)) fun cs => read' (c :: cs)) :
    Continues t bound bound' read read' := by
  refine .of_cons (fun y rest h => ?_) (hnil'.trans hnil.symm)
    (fun u _ _ => .kept x [] hnil (htail u)) hcons
  rw [hnil] at h
  cases h
  rfl

/-- A reader looks at the first character, and there has to be one. -/
theorem of_cons_of_none (hnil : read [] = .none) (hnil' : read' [] = .none)
    (hcons : ∀ c,
      Continues t (bound - 1) (bound' - 1) (fun cs => read (c :: cs)) fun cs => read' (c :: cs)) :
    Continues t bound bound' read read' := by
  refine .of_cons (fun x rest h => ?_) (hnil'.trans hnil.symm) (fun u _ hlength => ?_)
    fun c => .takes (hcons c)
  · rw [hnil] at h
    cases h
  · rw [hnil]
    exact .none_of_front fun x rest h => (hcons ')').front' hlength h

/-- A reader takes any character first. -/
theorem after_first (h : Continues t (bound - 1) (bound' - 1) read read') :
    Continues t bound bound' (fun cs => cs.head?.bind fun _ => read cs.tail)
      fun cs => cs.head?.bind fun _ => read' cs.tail :=
  .of_cons_of_none rfl rfl fun _ => h

/-- A reader that the tail does not matter to. -/
theorem of_append (hfront : ∀ cs x rest, read cs = some (x, rest) → rest <:+ cs)
    (happend : ∀ u ∈ t, ∀ cs,
      read (cs ++ ')' :: u) = (read cs).map fun (x, rest) => (x, rest ++ ')' :: u)) :
    Continues t bound bound' read read where
  front cs x rest _ := hfront cs x rest
  front' cs x rest _ := hfront cs x rest
  nil _ _ := rfl
  follows cs _ _ := by
    cases t with
    | none =>
      rw [tailOf, List.append_nil]
      exact .refl _
    | some u =>
      rw [tailOf, happend u rfl]
      cases read cs with
      | none => exact .none_none
      | some found => exact .kept found.1 found.2 rfl rfl

/-- A reader that reads on only if another one, which the tail does not matter to, fails. -/
theorem or {exact : Reader α} (hfront : ∀ cs x rest, exact cs = some (x, rest) → rest <:+ cs)
    (happend : ∀ u ∈ t, ∀ cs,
      exact (cs ++ ')' :: u) = (exact cs).map fun (x, rest) => (x, rest ++ ')' :: u))
    (h : Continues t bound bound' read read') :
    Continues t bound bound' (fun cs => (exact cs).or (read cs))
      fun cs => (exact cs).or (read' cs) := by
  constructor
  case front =>
    intro cs x rest hcs heq
    rcases Option.or_eq_some_iff.mp heq with heq | ⟨-, heq⟩
    · exact hfront cs x rest heq
    · exact h.front hcs heq
  case front' =>
    intro cs x rest hcs heq
    rcases Option.or_eq_some_iff.mp heq with heq | ⟨-, heq⟩
    · exact hfront cs x rest heq
    · exact h.front' hcs heq
  case nil =>
    intro hbound hbound'
    rw [h.nil hbound hbound']
  case follows =>
    intro cs hcs hcs'
    have hexact : exact (cs ++ tailOf t) =
        (exact cs).map fun (x, rest) => (x, rest ++ tailOf t) := by
      cases t with
      | none => simp [tailOf]
      | some u => exact happend u rfl cs
    rw [hexact]
    cases exact cs with
    | none => exact h.follows cs hcs hcs'
    | some found => exact .kept found.1 found.2 rfl rfl

/-- Which of two readers reads is the same whether or not the tail follows. -/
theorem ite {p : List Char → Bool} (hp : ∀ u ∈ t, ∀ cs, p (cs ++ ')' :: u) = p cs)
    (h : Continues t bound bound' read read') {other other' : Reader α}
    (hother : Continues t bound bound' other other') :
    Continues t bound bound' (fun cs => if p cs then read cs else other cs)
      fun cs => if p cs then read' cs else other' cs := by
  constructor
  case front =>
    intro cs x rest hcs heq
    dsimp only at heq
    split at heq
    · exact h.front hcs heq
    · exact hother.front hcs heq
  case front' =>
    intro cs x rest hcs heq
    dsimp only at heq
    split at heq
    · exact h.front' hcs heq
    · exact hother.front' hcs heq
  case nil =>
    intro hbound hbound'
    rw [h.nil hbound hbound', hother.nil hbound hbound']
  case follows =>
    intro cs hcs hcs'
    have hkind : p (cs ++ tailOf t) = p cs := by
      cases t with
      | none => rw [tailOf, List.append_nil]
      | some u => exact hp u rfl cs
    rw [hkind]
    split
    · exact h.follows cs hcs hcs'
    · exact hother.follows cs hcs hcs'

end Continues

/-! ## Blanks and comments -/

theorem passBlanks_suffix (inComment : Bool) (cs : List Char) : passBlanks inComment cs <:+ cs := by
  induction cs generalizing inComment with
  | nil => exact List.suffix_refl []
  | cons c cs ih =>
    rw [passBlanks]
    split
    · exact (ih _).trans (List.suffix_cons c cs)
    · split
      · exact (ih _).trans (List.suffix_cons c cs)
      · split
        · exact (ih _).trans (List.suffix_cons c cs)
        · exact List.suffix_refl _

theorem passBlanks_of_line {cs : List Char} (h : '\n' ∉ cs) : passBlanks true cs = [] := by
  induction cs with
  | nil => rfl
  | cons c cs ih =>
    obtain ⟨hc, hcs⟩ := not_or.mp (mt List.mem_cons.mpr h)
    rw [passBlanks, if_pos rfl, bne_iff_ne.mpr (Ne.symm hc)]
    exact ih hcs

variable {t : Option (List Char)} {bound bound' : Nat}

theorem continues_passBlanks (inComment : Bool) :
    Continues t bound bound' (fun cs => some ((), passBlanks inComment cs))
      fun cs => some ((), passBlanks inComment cs) := by
  refine Continues.induction (fun _ inComment cs => some ((), passBlanks inComment cs))
    (fun bound bound' ih inComment => ?_) bound bound' inComment
  refine .of_cons (fun _ _ h => ?_) rfl (fun u _ _ => ?_) fun c => ?_
  · cases h
    rfl
  · cases inComment with
    | false => exact .kept () [] rfl rfl
    | true =>
      refine .in_comment (fun _ rest heq => ?_) fun hline => ?_
      · rw [← (Prod.mk.inj (Option.some.inj heq)).2]
        exact passBlanks_suffix true u
      · have hpassed : passBlanks true u = [] := passBlanks_of_line hline
        exact congrArg (fun rest => some ((), rest)) hpassed
  · simp only [passBlanks]
    split
    · exact .takes (ih _)
    · split
      · exact .takes (ih _)
      · split
        · exact .takes (ih _)
        · exact .leaves () (fun _ => rfl) fun _ => rfl

theorem continues_pass (verbose : Bool) :
    Continues t bound bound' (fun cs => some ((), pass verbose cs))
      fun cs => some ((), pass verbose cs) := by
  cases verbose with
  | true => exact continues_passBlanks false
  | false => exact .pure ()

/-- The character is neither a blank nor the sign of a comment. -/
def Counts (verbose : Bool) (c : Char) : Prop := verbose = true → isBlank c = false ∧ c ≠ '#'

theorem pass_cons {verbose : Bool} {c : Char} (h : Counts verbose c) (cs : List Char) :
    pass verbose (c :: cs) = c :: cs := by
  cases verbose with
  | false => rfl
  | true =>
    obtain ⟨hblank, hsign⟩ := h rfl
    rw [pass, if_pos rfl, passBlanks, if_neg Bool.false_ne_true, if_neg (by simp [hblank]),
      if_neg hsign]

/-- What is passed ends at the end of the text or before a character that counts. -/
theorem pass_eq_nil_or (verbose : Bool) (cs : List Char) :
    pass verbose cs = [] ∨ ∃ c rest, pass verbose cs = c :: rest ∧ Counts verbose c := by
  have hblanks (inComment : Bool) (cs : List Char) :
      passBlanks inComment cs = [] ∨
        ∃ c rest, passBlanks inComment cs = c :: rest ∧ Counts true c := by
    induction cs generalizing inComment with
    | nil => exact .inl rfl
    | cons c cs ih =>
      rw [passBlanks]
      split
      · exact ih _
      · split
        · exact ih _
        · split
          · exact ih _
          · exact .inr ⟨c, cs, rfl, fun _ => ⟨Bool.eq_false_iff.mpr ‹_›, ‹_›⟩⟩
  cases verbose with
  | true => exact hblanks false cs
  | false =>
    cases cs with
    | nil => exact .inl rfl
    | cons c cs => exact .inr ⟨c, cs, rfl, nofun⟩

theorem pass_append {verbose : Bool} {cs : List Char} (h : pass verbose cs ≠ []) (ds : List Char) :
    pass verbose (cs ++ ds) = pass verbose cs ++ ds := by
  have hblanks (inComment : Bool) (cs : List Char) (h : passBlanks inComment cs ≠ []) :
      passBlanks inComment (cs ++ ds) = passBlanks inComment cs ++ ds := by
    induction cs generalizing inComment with
    | nil => exact absurd rfl h
    | cons c cs ih =>
      rw [passBlanks] at h
      rw [List.cons_append, passBlanks, passBlanks]
      split at h
      · simp only [*, if_true]
        exact ih _ h
      · split at h
        · simp only [*, if_true]
          exact ih _ h
        · split at h
          · simp only [*, if_true]
            exact ih _ h
          · simp only [*]
            rfl
  cases verbose with
  | true => exact hblanks false cs h
  | false => rfl

theorem pass_pass (verbose : Bool) (cs : List Char) :
    pass verbose (pass verbose cs) = pass verbose cs := by
  rcases pass_eq_nil_or verbose cs with hnil | ⟨c, rest, hpass, hcounts⟩
  · rw [hnil]
    cases verbose <;> rfl
  · rw [hpass, pass_cons hcounts]

namespace Continues

variable {verbose : Bool} {read read' : Reader α}

/-- What comes after blanks and comments is read. -/
theorem after_pass (h : Continues t bound bound' read read') :
    Continues t bound bound' (fun cs => read (pass verbose cs))
      fun cs => read' (pass verbose cs) := by
  show Continues t bound bound'
    (fun cs => (some ((), pass verbose cs)).bind fun passed => read passed.2)
    fun cs => (some ((), pass verbose cs)).bind fun passed => read' passed.2
  exact (continues_pass verbose).bind fun _ => h

theorem pure_pass (x : α) :
    Continues t bound bound' (fun cs => some (x, pass verbose cs))
      fun cs => some (x, pass verbose cs) :=
  .after_pass (.pure x)

/-- A reader that passes blanks and comments looks at the first character that counts. -/
theorem of_pass (hread : ∀ cs, read (pass verbose cs) = read cs)
    (hread' : ∀ cs, read' (pass verbose cs) = read' cs)
    (hnil : ∀ x rest, read [] = some (x, rest) → rest = []) (hnil' : read' [] = read [])
    (htail : ∀ u ∈ t, u.length < bound' - 1 → Follows (')' :: u) (read []) (read' (')' :: u)))
    (hcons : ∀ c, Counts verbose c → TakesOrLeaves t (bound - 1) (bound' - 1) c
      (fun cs => read (c :: cs)) fun cs => read' (c :: cs)) :
    Continues t bound bound' read read' := by
  classical
  -- the reader made to fail where the first character does not count
  let counting (read : Reader α) : Reader α := fun cs =>
    if ∀ c ∈ cs.head?, Counts verbose c then read cs else .none
  have heq {read : Reader α} (hread : ∀ cs, read (pass verbose cs) = read cs) :
      read = fun cs => counting read (pass verbose cs) := by
    funext cs
    refine (hread cs).symm.trans (if_pos fun c hc => ?_).symm
    rcases pass_eq_nil_or verbose cs with hnil | ⟨_, _, hpass, hcounts⟩
    · rw [hnil] at hc
      cases hc
    · rw [hpass] at hc
      cases hc
      exact hcounts
  have hend (read : Reader α) : counting read [] = read [] := if_pos nofun
  have hparenthesis : Counts verbose ')' := fun _ => by decide
  have hcounting (read : Reader α) {c : Char} (h : Counts verbose c) (cs : List Char) :
      counting read (c :: cs) = read (c :: cs) := if_pos (by rintro _ ⟨⟩; exact h)
  rw [heq hread, heq hread']
  refine .after_pass (.of_cons ?_ ?_ ?_ fun c => ?_)
  · rwa [hend]
  · rw [hend, hend, hnil']
  · simpa only [hend, hcounting _ hparenthesis] using htail
  · by_cases h : Counts verbose c
    · simp only [hcounting _ h]
      exact hcons c h
    · have hnone (read : Reader α) (cs : List Char) : counting read (c :: cs) = .none :=
        if_neg fun hall => h (hall c rfl)
      simp only [hnone]
      exact .takes .none

/-- A reader that passes blanks and comments looks at the first character that counts, and there has
to be one. -/
theorem of_pass_of_none (hread : ∀ cs, read (pass verbose cs) = read cs)
    (hread' : ∀ cs, read' (pass verbose cs) = read' cs)
    (hnil : read [] = .none) (hnil' : read' [] = .none)
    (hcons : ∀ c, Counts verbose c →
      Continues t (bound - 1) (bound' - 1) (fun cs => read (c :: cs)) fun cs => read' (c :: cs)) :
    Continues t bound bound' read read' := by
  refine .of_pass hread hread' (fun x rest h => ?_) (hnil'.trans hnil.symm)
    (fun u _ hlength => ?_)
    fun c hc => .takes (hcons c hc)
  · rw [hnil] at h
    cases h
  · rw [hnil]
    exact .none_of_front fun x rest h => (hcons ')' fun _ => by decide).front' hlength h

end Continues

end EncodingPlan.Pattern
