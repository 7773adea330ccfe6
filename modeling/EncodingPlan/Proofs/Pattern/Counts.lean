import EncodingPlan.Pattern.Meaning
import EncodingPlan.Proofs.Pattern.Spans
import Mathlib.Data.List.SplitBy

/-! No repetition of a pattern asks for more rounds than it allows. Numbers in braces are compared
when they are read, and nothing that is done to an expression afterwards changes their order. -/

namespace EncodingPlan.Pattern

namespace Expr

theorem isOrdered_andThen {first next : Expr} :
    (first.andThen next).IsOrdered ↔ first.IsOrdered ∧ next.IsOrdered := by
  have hplain (first : Expr) : (if next = empty then first else seq first next).IsOrdered ↔
      first.IsOrdered ∧ next.IsOrdered := by
    split
    · rename_i h
      rw [h]
      exact (and_iff_left trivial).symm
    · rfl
  induction first with
  | empty => exact (and_iff_right trivial).symm
  | seq first second _ ih => exact (and_congr_right' ih).trans and_assoc.symm
  | chars set => exact hplain _
  | condition c => exact hplain _
  | alt left right => exact hplain _
  | group body => exact hplain _
  | rounds body least most greedy => exact hplain _

theorem isOrdered_ofParts {parts : List Expr} :
    (ofParts parts).IsOrdered ↔ ∀ part ∈ parts, part.IsOrdered := by
  induction parts with
  | nil => exact iff_of_true trivial nofun
  | cons part parts ih =>
    rw [List.forall_mem_cons, ← ih]
    exact isOrdered_andThen

theorem isOrdered_iff_parts {e : Expr} : e.IsOrdered ↔ ∀ part ∈ e.parts, part.IsOrdered := by
  induction e with
  | empty => exact iff_of_true trivial nofun
  | seq first second _ ih => rw [parts, List.forall_mem_cons, ← ih, IsOrdered]
  | _ => exact List.forall_mem_singleton.symm

theorem isOrdered_iff_pieces {e : Expr} :
    e.IsOrdered ↔ ∀ piece ∈ e.pieces, ∀ part ∈ piece, part.IsOrdered := by
  rw [isOrdered_iff_parts, ← List.forall_mem_flatten, pieces, List.flatten_splitBy]

theorem isOrdered_iff_branches {e : Expr} :
    e.IsOrdered ↔ ∀ branch ∈ e.branches, branch.IsOrdered := by
  induction e with
  | alt left right _ ih => rw [branches, List.forall_mem_cons, ← ih, IsOrdered]
  | _ => exact List.forall_mem_singleton.symm

theorem isOrdered_ofBranches {branches : List Expr} :
    (ofBranches branches).IsOrdered ↔ ∀ branch ∈ branches, branch.IsOrdered := by
  fun_induction ofBranches branches with
  | case1 => exact iff_of_true trivial nofun
  | case2 branch => exact List.forall_mem_singleton.symm
  | case3 branch others hothers ih => rw [List.forall_mem_cons, ← ih, IsOrdered]

theorem isOrdered_choice {branches : List Expr} (h : ∀ branch ∈ branches, branch.IsOrdered) :
    (choice branches).IsOrdered := by
  have hbranches : (ofBranches (branches.flatMap Expr.branches)).IsOrdered := by
    rw [isOrdered_ofBranches, List.forall_mem_flatMap]
    exact fun branch hbranch => isOrdered_iff_branches.mp (h branch hbranch)
  rw [choice]
  split
  · split
    · trivial
    · exact hbranches
  · exact hbranches

theorem sharedPieces_subset (pieces others : List (List Expr)) :
    sharedPieces pieces others ⊆ pieces := by
  fun_induction sharedPieces pieces others with
  | case1 piece pieces other others h ih => exact List.cons_subset_cons piece ih
  | case2 => exact List.nil_subset _
  | case3 => exact List.nil_subset _

theorem foldl_sharedPieces_subset (first : List (List Expr)) (others : List (List (List Expr))) :
    others.foldl sharedPieces first ⊆ first := by
  induction others generalizing first with
  | nil => exact List.Subset.refl first
  | cons other others ih => exact List.Subset.trans (ih _) (sharedPieces_subset first other)

theorem isOrdered_oneOf {branches : List Expr} (h : ∀ branch ∈ branches, branch.IsOrdered) :
    (oneOf branches).IsOrdered := by
  have hall : ∀ split ∈ (branches.flatMap Expr.branches).map pieces,
      ∀ piece ∈ split, ∀ part ∈ piece, part.IsOrdered := by
    simp only [List.forall_mem_map, List.forall_mem_flatMap, ← isOrdered_iff_pieces,
      ← isOrdered_iff_branches]
    exact h
  rw [oneOf]
  split
  · rename_i first others heq
    rw [heq] at hall
    split
    · rw [isOrdered_ofParts, List.forall_mem_append, List.forall_mem_flatten,
        List.forall_mem_singleton]
      refine ⟨fun piece hpiece => ?_, isOrdered_choice ?_⟩
      · exact hall first (List.mem_cons_self ..) piece
          (foldl_sharedPieces_subset first others hpiece)
      · simp only [heq, List.forall_mem_map, isOrdered_ofParts, List.forall_mem_flatten]
        exact fun split hsplit piece hpiece =>
          hall split hsplit piece (List.mem_of_mem_drop hpiece)
    · refine isOrdered_choice ?_
      simp only [heq, List.forall_mem_map, isOrdered_ofParts, List.forall_mem_flatten]
      exact hall
  · trivial

theorem isOrdered_repeated {body : Expr} (h : body.IsOrdered) {least : Nat} {most : Option Nat}
    (hcounts : ∀ bound ∈ most, least ≤ bound) (greedy : Bool) :
    (body.repeated least most greedy).IsOrdered := by
  have hrounds {least : Nat} {most : Option Nat} (hcounts : ∀ bound ∈ most, least ≤ bound) :
      (if most = some 0 then empty else if least = 1 ∧ most = some 1 then body
        else rounds body least most greedy).IsOrdered := by
    split
    · trivial
    · split
      · exact h
      · exact ⟨h, hcounts⟩
  rw [repeated]
  by_cases hweightless : body.isWeightless = true
  · rw [if_pos hweightless]
    refine hrounds ?_
    rintro _ ⟨⟩
    cases most with
    | none => exact Nat.min_le_right ..
    | some most =>
      have := hcounts most rfl
      rw [Option.getD_some]
      omega
  · rw [if_neg hweightless]
    exact hrounds hcounts

end Expr

mutual

/-- No repetition, as written, asks for more rounds than it allows. -/
def Syntax.IsOrdered : Syntax → Prop
  | .repetition body least most _ => body.IsOrdered ∧ ∀ bound ∈ most, least ≤ bound
  | .group _ body | .capture body => body.IsOrdered
  | .concat parts => Syntax.AreOrdered parts
  | .alternation branches => Syntax.AreOrdered branches
  | _ => True

def Syntax.AreOrdered : List Syntax → Prop
  | [] => True
  | part :: parts => part.IsOrdered ∧ Syntax.AreOrdered parts

end

theorem Syntax.areOrdered_iff {parts : List Syntax} :
    Syntax.AreOrdered parts ↔ ∀ part ∈ parts, part.IsOrdered := by
  induction parts with
  | nil => exact iff_of_true trivial nofun
  | cons part parts ih => rw [List.forall_mem_cons, ← ih, AreOrdered]

mutual

/-- Ordered syntax means an ordered expression. -/
theorem Syntax.isOrdered_of_meaning {flags : Flags} {syn : Syntax} {meant : Expr × Flags}
    (h : syn.IsOrdered) (hmeant : syn.meaning flags = some meant) : meant.1.IsOrdered := by
  cases syn with
  | empty | flags | anchor =>
    cases hmeant
    trivial
  | literal | dot | shorthand | property =>
    rw [Syntax.meaning] at hmeant
    obtain ⟨set, -, heq⟩ := Option.bind_eq_some_iff.mp hmeant
    cases heq
    trivial
  | bracketed body negated =>
    rw [Syntax.meaning] at hmeant
    obtain ⟨set, -, hset⟩ := Option.bind_eq_some_iff.mp hmeant
    obtain ⟨_, -, heq⟩ := Option.bind_eq_some_iff.mp hset
    cases heq
    trivial
  | repetition body least most marked =>
    rw [Syntax.meaning] at hmeant
    obtain ⟨e, hbody, heq⟩ := Option.bind_eq_some_iff.mp hmeant
    cases heq
    exact Expr.isOrdered_repeated (Syntax.isOrdered_of_meaning h.1 hbody) h.2 _
  | group edits body =>
    rw [Syntax.meaning] at hmeant
    obtain ⟨e, hbody, heq⟩ := Option.bind_eq_some_iff.mp hmeant
    cases heq
    rw [Syntax.IsOrdered] at h
    have hordered := Syntax.isOrdered_of_meaning h hbody
    exact hordered
  | capture body =>
    rw [Syntax.meaning] at hmeant
    obtain ⟨e, hbody, heq⟩ := Option.bind_eq_some_iff.mp hmeant
    cases heq
    rw [Syntax.IsOrdered] at h
    have hordered := Syntax.isOrdered_of_meaning h hbody
    exact hordered
  | concat parts =>
    rw [Syntax.meaning] at hmeant
    obtain ⟨es, hparts, heq⟩ := Option.bind_eq_some_iff.mp hmeant
    cases heq
    exact Expr.isOrdered_ofParts.mpr (Syntax.areOrdered_of_meaning h hparts)
  | alternation branches =>
    rw [Syntax.meaning] at hmeant
    obtain ⟨es, hbranches, heq⟩ := Option.bind_eq_some_iff.mp hmeant
    cases heq
    exact Expr.isOrdered_oneOf (Syntax.areOrdered_of_meaning h hbranches)

theorem Syntax.areOrdered_of_meaning {flags : Flags} {parts : List Syntax}
    {meant : List Expr × Flags} (h : Syntax.AreOrdered parts)
    (hmeant : Syntax.meaningOfAll flags parts = some meant) : ∀ e ∈ meant.1, e.IsOrdered := by
  cases parts with
  | nil =>
    cases hmeant
    nofun
  | cons first others =>
    rw [Syntax.meaningOfAll] at hmeant
    obtain ⟨e, hfirst, hmeant⟩ := Option.bind_eq_some_iff.mp hmeant
    obtain ⟨es, hothers, heq⟩ := Option.bind_eq_some_iff.mp hmeant
    cases heq
    exact List.forall_mem_cons.mpr ⟨Syntax.isOrdered_of_meaning h.1 hfirst,
      Syntax.areOrdered_of_meaning h.2 hothers⟩

end

end EncodingPlan.Pattern
