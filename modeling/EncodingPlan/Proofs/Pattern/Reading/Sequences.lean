import EncodingPlan.Proofs.Pattern.Counts
import EncodingPlan.Proofs.Pattern.Reading.Groups

/-! Whole sequences in a text that goes on. The first character that counts says what is read next;
a closing parenthesis that no group has opened is left. -/

namespace EncodingPlan.Pattern

/-- What has been read of a group: the names taken, the branches and the parts of the last one, the
last ones first, and whether blanks and comments are passed. -/
structure ReadState where
  verbose : Bool
  names : List (List Char)
  branches : List Syntax
  parts : List Syntax

namespace ReadState

variable {t : Option (List Char)} {fuel fuel' : Nat}

/-- Reads on to the end of the group, with the pattern and the names taken in one. -/
def read (s : ReadState) (fuel : Nat) (cs : List Char) :
    Option ((Syntax × List (List Char)) × List Char) :=
  (sequence fuel s.verbose s.names s.branches s.parts cs).map fun (syn, names, rest) =>
    ((syn, names), rest)

def withPart (s : ReadState) (part : Syntax) : ReadState := { s with parts := part :: s.parts }

/-- The closing parenthesis of a group with its body, and what follows. -/
def leave (s : ReadState) (fuel : Nat) (part : Syntax) (names : List (List Char)) :
    List Char → Option ((Syntax × List (List Char)) × List Char)
  | ')' :: rest => ({ s with names }.withPart part).read fuel rest
  | _ => none

/-- The body of a group and what follows. -/
def enter (s : ReadState) (fuel : Nat) (around : Syntax → Syntax) (verbose : Bool)
    (names : List (List Char)) (cs : List Char) :
    Option ((Syntax × List (List Char)) × List Char) :=
  (ReadState.read ⟨verbose, names, [], []⟩ fuel cs).bind fun ((body, names), rest) =>
    s.leave fuel (around body) names rest

/-- What follows an opening. -/
def afterOpening (s : ReadState) (fuel : Nat) : Opening → List Char →
    Option ((Syntax × List (List Char)) × List Char)
  | .flags edits =>
    ({ s with verbose := edits.setting .verbose s.verbose }.withPart (.flags edits)).read fuel
  | .plain edits => s.enter fuel (.group edits) (edits.setting .verbose s.verbose) s.names
  | .capture none => s.enter fuel .capture s.verbose s.names
  | .capture (some name) => fun cs =>
    if s.names.contains name then none
    else s.enter fuel .capture s.verbose (name :: s.names) cs

/-- What follows the bounds of a repetition. -/
def afterBounds (s : ReadState) (fuel least : Nat) (most : Option Nat) (cs : List Char) :
    Option ((Syntax × List (List Char)) × List Char) :=
  (some (passMark cs)).bind fun (marked, rest) =>
    (repeatLast least most marked s.parts).bind fun parts => { s with parts }.read fuel rest

section Steps

variable {s : ReadState}

theorem enter_eq (around : Syntax → Syntax) (verbose : Bool) (names : List (List Char))
    (cs : List Char) :
    (match sequence fuel verbose names [] [] cs with
      | some (body, names, ')' :: rest) =>
        sequence fuel s.verbose names s.branches (around body :: s.parts) rest
      | _ => none).map (fun (syn, names, rest) => ((syn, names), rest)) =
      s.enter fuel around verbose names cs := by
  rw [enter, read]
  cases sequence fuel verbose names [] [] cs with
  | none => rfl
  | some found =>
    obtain ⟨body, names, rest⟩ := found
    cases rest with
    | nil => rfl
    | cons c rest =>
      by_cases hc : c = ')'
      · subst hc
        rfl
      · simp [leave, hc]

theorem afterBounds_eq (least : Nat) (most : Option Nat) (cs : List Char) :
    (do
      let (marked, rest) := passMark cs
      sequence fuel s.verbose s.names s.branches (← repeatLast least most marked s.parts)
        rest).map (fun (syn, names, rest) => ((syn, names), rest)) =
      s.afterBounds fuel least most cs := by
  rw [afterBounds, Option.bind_some]
  simp only [Option.bind_eq_bind, Option.map_bind]
  rfl

theorem read_nil : s.read (fuel + 1) [] = some ((close s.branches s.parts, s.names), []) := by
  cases hverbose : s.verbose <;> simp [read, sequence, pass, passBlanks, hverbose]

theorem read_pass (cs : List Char) :
    s.read (fuel + 1) (pass s.verbose cs) = s.read (fuel + 1) cs := by
  rw [read, read, sequence, sequence, pass_pass]

theorem read_close (cs : List Char) : s.read (fuel + 1) (')' :: cs) =
    some ((close s.branches s.parts, s.names), ')' :: cs) := by
  have hcounts : Counts s.verbose ')' := fun _ => by decide
  simp only [read, sequence, pass_cons hcounts, Option.map_some]

theorem read_open (cs : List Char) : s.read (fuel + 1) ('(' :: cs) =
    (opening (pass s.verbose cs)).bind fun (opened, rest) => s.afterOpening fuel opened rest := by
  have hcounts : Counts s.verbose '(' := fun _ => by decide
  simp only [read, sequence, pass_cons hcounts]
  cases opening (pass s.verbose cs) with
  | none => rfl
  | some found =>
    obtain ⟨opened, rest⟩ := found
    rcases opened with ⟨_ | name⟩ | edits | edits
    · exact enter_eq ..
    · simp only [Option.bind_some, afterOpening]
      split
      · rfl
      · exact enter_eq ..
    · exact enter_eq ..
    · rfl

theorem read_brace (cs : List Char) :
    s.read (fuel + 1) ('\x7b' :: cs) =
      ((bounds s.verbose cs).map fun (least, most, rest) => ((least, most), rest)).bind
        fun ((least, most), rest) => s.afterBounds fuel least most (pass s.verbose rest) := by
  have hcounts : Counts s.verbose '\x7b' := fun _ => by decide
  simp only [read, sequence, pass_cons hcounts]
  cases bounds s.verbose cs with
  | none => rfl
  | some found => exact afterBounds_eq ..

end Steps

/-- What is read when the next character that counts has been seen. -/
inductive Step (s : ReadState) :
    Char → (Nat → List Char → Option ((Syntax × List (List Char)) × List Char)) → Prop where
  | close : Step s ')' fun _ cs => some ((close s.branches s.parts, s.names), ')' :: cs)
  | bar {c : Char} : Step s c fun fuel =>
      { s with branches := .ofParts s.parts.reverse :: s.branches, parts := [] }.read fuel
  | opening {c : Char} : Step s c fun fuel cs =>
      (opening (pass s.verbose cs)).bind fun (opened, rest) => s.afterOpening fuel opened rest
  | repeated {c : Char} (least : Nat) (most : Option Nat) (h : ∀ bound ∈ most, least ≤ bound) :
      Step s c fun fuel => s.afterBounds fuel least most
  | counted {c : Char} : Step s c fun fuel cs =>
      ((bounds s.verbose cs).map fun (least, most, rest) => ((least, most), rest)).bind
        fun ((least, most), rest) => s.afterBounds fuel least most (pass s.verbose rest)
  | bracketed {c : Char} : Step s c fun fuel cs =>
      (bracketed s.verbose (fuel + 1) cs).bind fun (item, rest) => (s.withPart item).read fuel rest
  | escape {c : Char} : Step s c fun fuel cs =>
      (escape s.verbose cs).bind fun (item, rest) => (s.withPart item).read fuel rest
  | part {c : Char} (part : Syntax) (h : part.IsOrdered) :
      Step s c fun fuel => (s.withPart part).read fuel

/-- The next character that counts decides what is read. -/
theorem exists_step {s : ReadState} {c : Char} (hcounts : Counts s.verbose c) :
    ∃ next, Step s c next ∧ ∀ fuel cs, s.read (fuel + 1) (c :: cs) = next fuel cs := by
  by_cases hclose : c = ')'
  · subst hclose
    exact ⟨_, .close, fun _ => read_close⟩
  by_cases hbar : c = '|'
  · subst hbar
    refine ⟨_, .bar, fun fuel cs => ?_⟩
    rw [read, sequence, pass_cons hcounts]
    rfl
  by_cases hopen : c = '('
  · subst hopen
    exact ⟨_, .opening, fun _ => read_open⟩
  by_cases hstar : c = '*'
  · subst hstar
    refine ⟨_, .repeated 0 none nofun, fun fuel cs => ?_⟩
    rw [← afterBounds_eq]
    simp only [read, sequence, pass_cons hcounts]
  by_cases hplus : c = '+'
  · subst hplus
    refine ⟨_, .repeated 1 none nofun, fun fuel cs => ?_⟩
    rw [← afterBounds_eq]
    simp only [read, sequence, pass_cons hcounts]
  by_cases hmark : c = '?'
  · subst hmark
    refine ⟨_, .repeated 0 (some 1) (fun _ _ => Nat.zero_le _), fun fuel cs => ?_⟩
    rw [← afterBounds_eq]
    simp only [read, sequence, pass_cons hcounts]
  by_cases hbrace : c = '\x7b'
  · subst hbrace
    exact ⟨_, .counted, fun _ => read_brace⟩
  by_cases hbracket : c = '['
  · subst hbracket
    refine ⟨_, .bracketed, fun fuel cs => ?_⟩
    simp only [read, sequence, pass_cons hcounts, Option.bind_eq_bind, Option.map_bind]
    rfl
  by_cases hbackslash : c = '\\'
  · subst hbackslash
    refine ⟨_, .escape, fun fuel cs => ?_⟩
    simp only [read, sequence, pass_cons hcounts, Option.bind_eq_bind, Option.map_bind]
    rfl
  by_cases hdot : c = '.'
  · subst hdot
    refine ⟨_, .part .dot trivial, fun fuel cs => ?_⟩
    rw [read, sequence, pass_cons hcounts]
    rfl
  by_cases hcaret : c = '^'
  · subst hcaret
    refine ⟨_, .part (.anchor .lineStart) trivial, fun fuel cs => ?_⟩
    rw [read, sequence, pass_cons hcounts]
    rfl
  by_cases hdollar : c = '$'
  · subst hdollar
    refine ⟨_, .part (.anchor .lineEnd) trivial, fun fuel cs => ?_⟩
    rw [read, sequence, pass_cons hcounts]
    rfl
  refine ⟨_, .part (.literal ⟨c, false⟩) trivial, fun fuel cs => ?_⟩
  rw [read, sequence, pass_cons hcounts]
  split
  all_goals
    rename_i heq
    cases heq <;> first | contradiction | rfl

/-- A brace in which nothing counts repeats nothing. -/
theorem read_blank_brace (s : ReadState) (fuel : Nat) {cs : List Char}
    (h : pass s.verbose cs = []) : s.read fuel ('\x7b' :: cs) = none := by
  cases fuel with
  | zero => rfl
  | succ fuel =>
    have hbounds : bounds s.verbose cs = none := by
      rw [bounds, h]
      rfl
    rw [read_brace, hbounds]
    rfl

theorem continues_passMark {bound bound' : Nat} :
    Continues t bound bound' (fun cs => some (passMark cs)) fun cs => some (passMark cs) := by
  refine .of_cons_of_leaves false rfl rfl (fun _ => rfl) fun c => ?_
  by_cases hc : c = '?'
  · subst hc
    exact .takes (.pure true)
  · have hleaves (cs : List Char) : some (passMark (c :: cs)) = some (false, c :: cs) := by
      rw [passMark.eq_def]
      split <;> simp_all
    exact .leaves false hleaves hleaves

theorem continues_read (s : ReadState) (fuel fuel' : Nat) :
    Continues t fuel fuel' (s.read fuel) (s.read fuel') := by
  refine Continues.induction (fun fuel s => ReadState.read s fuel) (fun fuel fuel' ih s => ?_)
    fuel fuel' s
  have hleave (part : Syntax) (names : List (List Char)) :
      Continues t fuel fuel' (s.leave fuel part names) (s.leave fuel' part names) := by
    refine .of_cons_of_none rfl rfl fun c => ?_
    by_cases hc : c = ')'
    · subst hc
      exact (ih _).mono (Nat.sub_le fuel 1) (Nat.sub_le fuel' 1)
    · have hnone (fuel : Nat) (cs : List Char) : s.leave fuel part names (c :: cs) = none := by
        rw [leave.eq_def]
        split <;> simp_all
      simp only [hnone]
      exact .none
  have henter (around : Syntax → Syntax) (verbose : Bool) (names : List (List Char)) :
      Continues t fuel fuel' (s.enter fuel around verbose names)
        (s.enter fuel' around verbose names) :=
    (ih ⟨verbose, names, [], []⟩).bind fun found => hleave (around found.1) found.2
  have hopened (opened : Opening) :
      Continues t fuel fuel' (s.afterOpening fuel opened) (s.afterOpening fuel' opened) := by
    rcases opened with ⟨_ | name⟩ | edits | edits
    · exact henter ..
    · simp only [afterOpening]
      split
      · exact .none
      · exact henter ..
    · exact henter ..
    · exact ih _
  have hrepeated (least : Nat) (most : Option Nat) :
      Continues t fuel fuel' (s.afterBounds fuel least most) (s.afterBounds fuel' least most) := by
    refine continues_passMark.bind fun marked => ?_
    dsimp only
    cases repeatLast least most marked s.parts with
    | none => exact .none
    | some parts => exact ih _
  refine .of_pass read_pass read_pass (fun x rest h => ?_) (read_nil.trans read_nil.symm)
    (fun u _ _ => .kept _ [] read_nil (read_close u)) fun c hcounts => ?_
  · cases read_nil.symm.trans h
    rfl
  obtain ⟨next, hstep, hread⟩ := exists_step hcounts
  simp only [hread]
  cases hstep with
  | close => exact .leaves _ (fun _ => rfl) fun _ => rfl
  | bar => exact .takes (ih _)
  | opening => exact .takes (.bind (.after_pass continues_opening) hopened)
  | repeated least most _ => exact .takes (hrepeated least most)
  | counted =>
    exact .takes (continues_bounds.bind fun found => .after_pass (hrepeated found.1 found.2))
  | bracketed =>
    have hbracketed := (@continues_bracketed t s.verbose (fuel + 1) (fuel' + 1)).mono
      (Nat.le_succ fuel) (Nat.le_succ fuel')
    exact .takes (hbracketed.bind fun item => ih (s.withPart item))
  | escape =>
    exact .takes (continues_escape (fun item => ih (s.withPart item)) fun rest h =>
      read_blank_brace _ fuel h)
  | part part _ => exact .takes (ih _)

/-- Fuel for every character, and one more, is enough. -/
theorem read_eq_read {s : ReadState} {cs : List Char} (h : cs.length < fuel)
    (h' : cs.length < fuel') : s.read fuel cs = s.read fuel' cs := by
  have hfollows := (@continues_read none s fuel fuel').follows cs h (by simpa [tailOf] using h')
  rw [tailOf, List.append_nil] at hfollows
  exact hfollows.eq_of_nil

end ReadState

/-! ## Counts in order -/

theorem Syntax.isOrdered_ofParts {parts : List Syntax} (h : ∀ part ∈ parts, part.IsOrdered) :
    (Syntax.ofParts parts).IsOrdered := by
  match parts with
  | [] => trivial
  | [part] => exact h part (List.mem_singleton_self part)
  | _ :: _ :: _ => exact Syntax.areOrdered_iff.mpr h

theorem Syntax.isOrdered_ofBranches {branches : List Syntax}
    (h : ∀ branch ∈ branches, branch.IsOrdered) : (Syntax.ofBranches branches).IsOrdered := by
  match branches with
  | [] => trivial
  | [branch] => exact h branch (List.mem_singleton_self branch)
  | _ :: _ :: _ => exact Syntax.areOrdered_iff.mpr h

theorem le_of_bounds {verbose : Bool} {cs rest : List Char} {least : Nat} {most : Option Nat}
    (h : bounds verbose cs = some (least, most, rest)) : ∀ bound ∈ most, least ≤ bound := by
  have hread := @bounds_eq verbose cs
  rw [h] at hread
  obtain ⟨⟨first, between⟩, -, hread⟩ := Option.bind_eq_some_iff.mp hread.symm
  dsimp only at hread
  rw [afterLeast.eq_def] at hread
  split at hread
  · cases hread
    rintro _ ⟨⟩
    exact Nat.le_refl _
  · rw [upperBound] at hread
    split at hread
    · obtain ⟨_, -, heq⟩ := Option.bind_eq_some_iff.mp hread
      cases heq
      rintro _ ⟨⟩
    · obtain ⟨⟨last, _⟩, -, hread⟩ := Option.bind_eq_some_iff.mp hread
      dsimp only at hread
      rw [closingBrace.eq_def] at hread
      split at hread
      · split at hread
        · cases hread
          rintro _ ⟨⟩
          assumption
        · cases hread
      · cases hread
  · cases hread

theorem isOrdered_of_escape {verbose : Bool} {cs : List Char} {found : Syntax × List Char}
    (h : escape verbose cs = some found) : found.1.IsOrdered := by
  cases cs with
  | nil => cases h
  | cons c cs =>
    simp only [escape] at h
    split at h
    all_goals first
      | (cases h; trivial)
      | (obtain ⟨_, -, heq⟩ := Option.map_eq_some_iff.mp h; cases heq; trivial)
      | (split at h <;> cases h; trivial)

namespace ReadState

/-- No repetition that has been read asks for more rounds than it allows. -/
structure IsOrdered (s : ReadState) : Prop where
  branches : ∀ branch ∈ s.branches, branch.IsOrdered
  parts : ∀ part ∈ s.parts, part.IsOrdered

namespace IsOrdered

variable {s : ReadState}

theorem ofParts (h : s.IsOrdered) : (Syntax.ofParts s.parts.reverse).IsOrdered :=
  Syntax.isOrdered_ofParts fun part hpart => h.parts part (List.mem_reverse.mp hpart)

theorem close (h : s.IsOrdered) : (Pattern.close s.branches s.parts).IsOrdered := by
  refine Syntax.isOrdered_ofBranches fun branch hbranch => ?_
  rcases List.mem_cons.mp (List.mem_reverse.mp hbranch) with rfl | hbranch
  · exact h.ofParts
  · exact h.branches branch hbranch

theorem withPart (h : s.IsOrdered) {part : Syntax} (hpart : part.IsOrdered) :
    (s.withPart part).IsOrdered :=
  ⟨h.branches, List.forall_mem_cons.mpr ⟨hpart, h.parts⟩⟩

theorem repeatLast (h : s.IsOrdered) {least : Nat} {most : Option Nat} {marked : Bool}
    {parts : List Syntax} (hcounts : ∀ bound ∈ most, least ≤ bound)
    (hparts : Pattern.repeatLast least most marked s.parts = some parts) :
    IsOrdered { s with parts } := by
  have hall := h.parts
  rw [Pattern.repeatLast.eq_def] at hparts
  split at hparts
  · cases hparts
  · cases hparts
  · cases hparts
  · rename_i part others _ _ heq
    cases hparts
    rw [heq] at hall
    obtain ⟨hpart, hothers⟩ := List.forall_mem_cons.mp hall
    exact ⟨h.branches, List.forall_mem_cons.mpr ⟨⟨hpart, hcounts⟩, hothers⟩⟩

end IsOrdered

theorem isOrdered_of_read {s : ReadState} (hs : s.IsOrdered) {fuel : Nat} {cs : List Char}
    {found : (Syntax × List (List Char)) × List Char} (h : s.read fuel cs = some found) :
    found.1.1.IsOrdered := by
  induction fuel generalizing s cs found with
  | zero => cases h
  | succ fuel ih =>
    have hempty (verbose : Bool) (names : List (List Char)) :
        IsOrdered ⟨verbose, names, [], []⟩ := ⟨nofun, nofun⟩
    have henter {around : Syntax → Syntax} {verbose : Bool} {names : List (List Char)}
        {cs : List Char} {found : (Syntax × List (List Char)) × List Char}
        (haround : ∀ body : Syntax, body.IsOrdered → (around body).IsOrdered)
        (h : s.enter fuel around verbose names cs = some found) : found.1.1.IsOrdered := by
      obtain ⟨⟨⟨body, names⟩, rest⟩, hbody, h⟩ := Option.bind_eq_some_iff.mp h
      dsimp only at h
      rw [leave.eq_def] at h
      split at h
      · have hordered := ih (hempty _ _) hbody
        have hkept : IsOrdered { s with names } := ⟨hs.branches, hs.parts⟩
        exact ih (hkept.withPart (haround body hordered)) h
      · cases h
    have hrepeated {least : Nat} {most : Option Nat} {cs : List Char}
        {found : (Syntax × List (List Char)) × List Char}
        (hcounts : ∀ bound ∈ most, least ≤ bound)
        (h : s.afterBounds fuel least most cs = some found) : found.1.1.IsOrdered := by
      rw [afterBounds, Option.bind_some] at h
      obtain ⟨parts, hparts, h⟩ := Option.bind_eq_some_iff.mp h
      exact ih (hs.repeatLast hcounts hparts) h
    rw [← read_pass] at h
    rcases pass_eq_nil_or s.verbose cs with hnil | ⟨c, rest, hpass, hcounts⟩
    · rw [hnil, read_nil] at h
      cases h
      exact hs.close
    rw [hpass] at h
    obtain ⟨next, hstep, hread⟩ := exists_step hcounts
    rw [hread] at h
    cases hstep with
    | close =>
      cases h
      exact hs.close
    | bar =>
      refine ih ⟨List.forall_mem_cons.mpr ⟨hs.ofParts, hs.branches⟩, fun part hpart => ?_⟩ h
      cases hpart
    | opening =>
      obtain ⟨⟨opened, _⟩, -, h⟩ := Option.bind_eq_some_iff.mp h
      rcases opened with ⟨_ | name⟩ | edits | edits
      · refine henter ?_ h
        exact fun _ hbody => hbody
      · dsimp only [afterOpening] at h
        split at h
        · cases h
        · refine henter ?_ h
          exact fun _ hbody => hbody
      · refine henter ?_ h
        exact fun _ hbody => hbody
      · refine ih ?_ h
        exact ⟨hs.branches, List.forall_mem_cons.mpr ⟨trivial, hs.parts⟩⟩
    | repeated least most hbounds => exact hrepeated hbounds h
    | counted =>
      obtain ⟨_, hfound, h⟩ := Option.bind_eq_some_iff.mp h
      obtain ⟨⟨least, most, between⟩, hbounds, rfl⟩ := Option.map_eq_some_iff.mp hfound
      exact hrepeated (le_of_bounds hbounds) h
    | bracketed =>
      obtain ⟨⟨item, _⟩, hitem, h⟩ := Option.bind_eq_some_iff.mp h
      obtain ⟨_, -, hitem⟩ := Option.bind_eq_some_iff.mp hitem
      cases hitem
      refine ih (hs.withPart ?_) h
      trivial
    | escape =>
      obtain ⟨⟨item, _⟩, hitem, h⟩ := Option.bind_eq_some_iff.mp h
      exact ih (hs.withPart (isOrdered_of_escape hitem)) h
    | part part hpart => exact ih (hs.withPart hpart) h

end ReadState

end EncodingPlan.Pattern
