import EncodingPlan.Proofs.RuleSet.History

/-! Loops of parents, and the validation that refuses them. A walk is cyclic exactly if its line
does not end with a set that has no parent, and that is so exactly if going to parents leads onto a
loop. The problem that validation answers is about the first declared set that does. -/

namespace EncodingPlan.Registry

variable {registry : Registry} {name : RuleSetName} {a b : RuleSetName}

/-- Every set reached from a set on a loop leads back to it. -/
theorem leads_back (hloop : Relation.TransGen registry.Extends a a)
    (hreach : Relation.ReflTransGen registry.Extends a b) :
    Relation.TransGen registry.Extends b a := by
  induction hreach with
  | refl => exact hloop
  | tail _ hstep ih =>
    obtain ⟨next, hnext, hrest⟩ := Relation.TransGen.head'_iff.mp ih
    rw [hnext.unique hstep] at hrest
    exact .trans_right hrest hloop

/-- Going to parents from the set comes to a set that it comes back to. -/
def LeadsToLoop (registry : Registry) (name : RuleSetName) : Prop :=
  ∃ looped, Relation.ReflTransGen registry.Extends name looped ∧
    Relation.TransGen registry.Extends looped looped

/-- A set that leads onto a loop reaches no set without a parent. -/
theorem LeadsToLoop.exists_parent (h : registry.LeadsToLoop a)
    (hreach : Relation.ReflTransGen registry.Extends a b) :
    ∃ parent, registry.Extends b parent := by
  obtain ⟨looped, hlooped, hloop⟩ := h
  have hunique : Relator.RightUnique registry.Extends := fun _ _ _ => Extends.unique
  rcases Relation.ReflTransGen.total_of_right_unique hunique hreach hlooped with hto | hfrom
  · obtain ⟨parent, hparent, _⟩ :=
      Relation.TransGen.head'_iff.mp (Relation.TransGen.trans_right hto hloop)
    exact ⟨parent, hparent⟩
  · obtain ⟨parent, hparent, _⟩ := Relation.TransGen.head'_iff.mp (leads_back hloop hfrom)
    exact ⟨parent, hparent⟩

/-- If the last member of a line has a parent, then that is an earlier member, and the rest of the
line from there is a loop. -/
theorem IsLine.leadsToLoop {members : List RuleSetName} (h : registry.IsLine name members)
    {last parent : RuleSetName} (hlast : last ∈ members.getLast?)
    (hparent : registry.Extends last parent) : registry.LeadsToLoop name := by
  have hmem := List.mem_of_getLast? hlast
  have hreach : Relation.ReflTransGen registry.Extends parent last := by
    refine List.IsChain.backwards_induction (Relation.ReflTransGen registry.Extends · last) members
      h.linked (fun _ _ hstep hrest => hrest.head hstep) (fun hne => ?_) parent
      (h.parent_mem hmem hparent)
    rw [List.getLast?_eq_some_getLast hne, Option.mem_some_iff] at hlast
    rw [hlast]
  exact ⟨last, h.mem_iff.mp hmem, Relation.TransGen.head' hparent hreach⟩

/-! ## Cyclic sets -/

namespace Coherent

variable (h : registry.Coherent)
include h

/-- A set is cyclic if its line does not end with a set that has no parent. -/
theorem isCyclic_iff : registry.isCyclic name = true ↔
    ∃ last ∈ (registry.ancestors name).getLast?, registry.parent? last ≠ none := by
  have hwalk := resolve_isWalk registry name
  rw [h.isCyclic_eq, h.ancestors_eq]
  refine ⟨fun hcyclic => ?_, fun ⟨last, hlast, hparent⟩ => ?_⟩
  · obtain ⟨last, hlast, parent, hstep⟩ := hwalk.cyclic hcyclic
    exact ⟨last, hlast, Option.ne_none_iff_exists'.mpr ⟨parent, hstep⟩⟩
  · by_contra hcyclic
    exact hparent (hwalk.acyclic (Bool.not_eq_true _ ▸ hcyclic) last hlast)

theorem isCyclic_iff_leadsToLoop : registry.isCyclic name = true ↔ registry.LeadsToLoop name := by
  have hline := h.isLine_ancestors name
  rw [h.isCyclic_iff]
  refine ⟨fun ⟨last, hlast, hparent⟩ => ?_, fun hleads => ?_⟩
  · obtain ⟨parent, hstep⟩ := Option.ne_none_iff_exists'.mp hparent
    exact hline.leadsToLoop hlast hstep
  · have hne : registry.ancestors name ≠ [] :=
      List.ne_nil_of_mem (List.mem_of_mem_head? hline.head)
    have hlast := List.getLast?_eq_some_getLast hne
    obtain ⟨parent, hstep⟩ :=
      hleads.exists_parent (hline.mem_iff.mp (List.mem_of_getLast? hlast))
    exact ⟨_, hlast, Option.ne_none_iff_exists'.mpr ⟨parent, hstep⟩⟩

/-- The walk from a set on a loop cannot end at a set without a parent. -/
theorem isCyclic_of_loop (hloop : Relation.TransGen registry.Extends a a) :
    registry.isCyclic a = true :=
  h.isCyclic_iff_leadsToLoop.mpr ⟨a, .refl, hloop⟩

end Coherent

/-! ## Validation -/

theorem mem_ruleSetNames : name ∈ registry.ruleSetNames ↔ registry.hasRuleSet name = true :=
  (Dict.contains_iff _ _).symm

theorem validate_eq_ok_iff : (∃ findings, registry.validate = .ok findings) ↔
    ∀ name, registry.hasRuleSet name = true → registry.isCyclic name = false := by
  rw [validate]
  cases hfind : registry.ruleSetNames.find? registry.isCyclic with
  | none => simpa [mem_ruleSetNames] using hfind
  | some cyclic =>
    have hcyclic : registry.isCyclic cyclic = true := List.find?_some hfind
    simp only [reduceCtorEq, exists_false, false_iff, not_forall]
    exact ⟨cyclic, mem_ruleSetNames.mp (List.mem_of_find?_eq_some hfind), by simp [hcyclic]⟩

theorem Coherent.validate_eq_error_iff (h : registry.Coherent) {problem : Problem} :
    registry.validate = .error problem ↔
      ∃ before name after, registry.ruleSetNames = before ++ name :: after ∧
        (∀ earlier ∈ before, ¬ registry.LeadsToLoop earlier) ∧ registry.LeadsToLoop name ∧
        problem = .cyclicInheritance name (registry.ancestors name) := by
  have hfirst (name : RuleSetName) : registry.ruleSetNames.find? registry.isCyclic = some name ↔
      registry.LeadsToLoop name ∧ ∃ before after, registry.ruleSetNames = before ++ name :: after ∧
        ∀ earlier ∈ before, ¬ registry.LeadsToLoop earlier := by
    simp only [List.find?_eq_some_iff_append, ← h.isCyclic_iff_leadsToLoop, Bool.not_eq_true,
      Bool.not_eq_true']
  rw [validate]
  constructor
  · intro herror
    cases hfind : registry.ruleSetNames.find? registry.isCyclic with
    | none => simp [hfind] at herror
    | some name =>
      obtain ⟨hleads, before, after, hnames, hbefore⟩ := (hfirst name).mp hfind
      rw [hfind, Except.error.injEq] at herror
      exact ⟨before, name, after, hnames, hbefore, hleads, herror.symm⟩
  · rintro ⟨before, name, after, hnames, hbefore, hleads, rfl⟩
    rw [(hfirst name).mpr ⟨hleads, before, after, hnames, hbefore⟩]

end EncodingPlan.Registry
