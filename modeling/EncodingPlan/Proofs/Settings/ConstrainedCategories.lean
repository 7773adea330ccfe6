import EncodingPlan.Proofs.Resolution.Checks
import EncodingPlan.Proofs.Settings.WordLists
import EncodingPlan.Settings.Basic

/-! The classes that constraints are created for. They are known by the categories of the
stereotypes that a parameter lists, so that different spellings of a stereotype count as one, and all
stereotypes of no known category as well. Without a parameter, or with a blank one, constraints are
created for every class. -/

namespace EncodingPlan

variable {category : ClassCategory} {raw : String}

theorem ClassCategory.mem_all (category : ClassCategory) : category ∈ ClassCategory.all := by
  cases category <;> decide

namespace ClassTypes

theorem categories_of_blank (h : Text.trim raw = "") : categories raw = none := by
  have hchars : Text.trimChars raw.toList = [] := String.ofList_inj.mp h
  rw [categories, hchars]

theorem exists_categories (h : Text.trim raw ≠ "") : ∃ selected, categories raw = some selected ∧
    ∀ category, category ∈ selected ↔ ∃ piece ∈ listed (Text.trim raw).toList,
      ClassCategory.ofStereotype (String.ofList piece) = category := by
  have hchars : Text.trimChars raw.toList ≠ [] := fun hnil => h (String.ofList_inj.mpr hnil)
  rw [categories, Text.trim, String.toList_ofList]
  split
  · next hnil => exact absurd hnil hchars
  · refine ⟨_, rfl, fun category => ?_⟩
    rw [List.mem_filter, List.contains_iff_mem, List.mem_map, listed]
    exact and_iff_right category.mem_all

theorem exists_mem_filter_iff {p : List Char → Prop} {pieces : List (List Char)} :
    (∃ piece ∈ pieces.filter (!·.isEmpty), p piece) ↔ ∃ piece ∈ pieces, piece ≠ [] ∧ p piece := by
  simp only [List.mem_filter, Bool.not_eq_true', List.isEmpty_eq_false_iff, and_assoc]

end ClassTypes

namespace Settings

open ClassTypes

theorem constrainedCategories_of_derive {α : Type} [ParameterSource α] {parameters : α}
    {language : Option String} {settings : Settings}
    (h : derive parameters language = .ok settings) :
    settings.constrainedCategories =
      (ParameterSource.get? parameters "classTypesToCreateConstraintsFor").bind categories := by
  obtain ⟨version, -, hderived⟩ := bind_eq_ok.mp h
  rw [← Except.ok.inj hderived]

/-- Which classes constraints are created for, by the parameter that lists their stereotypes. -/
structure ConstrainsListed (value : Option String) (settings : Settings) : Prop where
  unrestricted : (∀ raw ∈ value, Text.trim raw = "") →
    ∀ stereotype, settings.constrainsStereotype stereotype = true
  /-- The value is cut at the runs that separate. -/
  listed : ∀ raw ∈ value, Text.trim raw ≠ "" →
    ∀ stereotype, settings.constrainsStereotype stereotype = true ↔
      ∃ piece ∈ piecesBetween (Text.trim raw).toList, piece ≠ [] ∧
        ClassCategory.ofStereotype (String.ofList piece) = .ofStereotype stereotype
  /-- It is the same to split it at the matches of the pattern for separators. -/
  splits : ∀ raw ∈ value, ∀ pieces, SplitsAtMatches (Text.trim raw).toList pieces ↔
    pieces = piecesBetween (Text.trim raw).toList
  /-- Words come out as they were put in. A list of one empty word is blank. -/
  words : ∀ raw ∈ value, ∀ names, Joins names raw.toList → AreWords names → names ≠ [[]] →
    ∀ category, settings.constrains category = true ↔
      ∃ name ∈ names, name ≠ [] ∧ ClassCategory.ofStereotype (String.ofList name) = category

theorem constrains_iff {settings : Settings} {selected : List ClassCategory}
    (h : settings.constrainedCategories = some selected) :
    settings.constrains category = true ↔ category ∈ selected := by
  rw [constrains, h, Option.all_some, List.contains_iff_mem]

theorem constrainsListed_of_derive {α : Type} [ParameterSource α] {parameters : α}
    {language : Option String} {settings : Settings}
    (h : derive parameters language = .ok settings) :
    ConstrainsListed (ParameterSource.get? parameters "classTypesToCreateConstraintsFor")
      settings := by
  have hcategories := constrainedCategories_of_derive h
  generalize ParameterSource.get? parameters _ = value at hcategories ⊢
  have hlisted : ∀ raw ∈ value, Text.trim raw ≠ "" → ∀ category,
      settings.constrains category = true ↔ ∃ piece ∈ ClassTypes.listed (Text.trim raw).toList,
        ClassCategory.ofStereotype (String.ofList piece) = category := by
    intro raw hraw hnonblank category
    obtain ⟨selected, hselected, hmem⟩ := exists_categories hnonblank
    rw [Option.mem_def.mp hraw, Option.bind_some, hselected] at hcategories
    rw [constrains_iff hcategories, hmem]
  refine ⟨fun hblank stereotype => ?_, fun raw hraw hnonblank stereotype => ?_,
    fun raw _ pieces => splitsAtMatches_iff, fun raw hraw names hjoins hwords hnames category => ?_⟩
  · have hnone : settings.constrainedCategories = none := by
      rw [hcategories]
      cases value with
      | none => rfl
      | some raw => exact categories_of_blank (hblank raw rfl)
    rw [constrainsStereotype, constrains, hnone, Option.all_none]
  · rw [constrainsStereotype, hlisted raw hraw hnonblank, listed_eq, exists_mem_filter_iff]
  · have htrimmed := hjoins.trimChars hwords
    have hnonblank : Text.trim raw ≠ "" := fun hblank =>
      htrimmed.ne_nil hnames (String.ofList_inj.mp hblank)
    rw [hlisted raw hraw hnonblank, Text.trim, String.toList_ofList, htrimmed.listed_eq hwords,
      exists_mem_filter_iff]

theorem constrainsListed_of_two_stereotypes :
    let parameters :=
      ((∅ : ParameterStore).setGlobal "classTypesToCreateConstraintsFor" " FeatureType !,, Union").1
    let settings : Settings := { constrainedCategories := some [.feature, .union] }
    derive parameters none = .ok settings ∧
      ConstrainsListed (some " FeatureType !,, Union") settings := by
  intro parameters settings
  have hderived : derive parameters none = .ok settings := by decide +kernel
  have hvalue : ParameterSource.get? parameters "classTypesToCreateConstraintsFor" =
      some " FeatureType !,, Union" := by decide +kernel
  exact ⟨hderived, hvalue ▸ constrainsListed_of_derive hderived⟩

end Settings

end EncodingPlan
