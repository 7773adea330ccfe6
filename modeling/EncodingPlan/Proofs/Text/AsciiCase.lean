import EncodingPlan.Proofs.Text.NormalForm

/-! Lower-casing the letters A to Z and no others. To a text in which these are all there is to lower,
it does what lower-casing does; to any other text it leaves a character that no normal form has. -/

namespace EncodingPlan.Text

variable {c : Char} {s t : String}

/-- The letters A to Z are all that lower-casing changes. -/
def LowersAsciiOnly (s : String) : Prop :=
  ∀ c ∈ s.toList, c.isUpper = true ∨ lowerChar c = [c]

instance : Decidable (LowersAsciiOnly s) :=
  inferInstanceAs (Decidable (∀ c ∈ s.toList, c.isUpper = true ∨ lowerChar c = [c]))

theorem toLower_of_not_isUpper (h : ¬ c.isUpper = true) : c.toLower = c :=
  dif_neg fun hupper => h (decide_eq_true hupper)

theorem lowerChar_of_isUpper (h : c.isUpper = true) : lowerChar c = [c.toLower] := by
  have hascii : ∀ code < 0x80, (Char.ofNat code).isUpper = true →
      lowerChar (Char.ofNat code) = [(Char.ofNat code).toLower] := by
    decide +kernel
  have hcode : c.toNat ≤ 0x5A := (of_decide_eq_true h).2
  rw [← Char.ofNat_toNat c] at h ⊢
  exact hascii c.toNat (by omega) h

theorem LowersAsciiOnly.lowerChar_eq (h : LowersAsciiOnly s) (hc : c ∈ s.toList) :
    lowerChar c = [c.toLower] := by
  by_cases hupper : c.isUpper = true
  · exact lowerChar_of_isUpper hupper
  · rw [toLower_of_not_isUpper hupper]
    exact (h c hc).resolve_left hupper

theorem LowersAsciiOnly.lowerCase_eq (h : LowersAsciiOnly s) : lowerCase s = lowerAscii s := by
  rw [lowerCase, lowerChars, lowerAfter_eq_map fun c hc => ⟨?_, h.lowerChar_eq hc⟩, lowerAscii]
  -- a capital sigma is not among A to Z and has another image
  rintro rfl
  exact absurd (h.lowerChar_eq hc) (by decide +kernel)

theorem toLower_of_lowerChar_eq (h : lowerChar c = [c]) : c.toLower = c := by
  by_cases hupper : c.isUpper = true
  · rw [lowerChar_of_isUpper hupper] at h
    exact List.singleton_inj.mp h
  · exact toLower_of_not_isUpper hupper

/-- There are no letters A to Z in a normal form. -/
theorem lowerAscii_normalForm (s : String) : lowerAscii (normalForm s) = normalForm s := by
  rw [lowerAscii, List.map_congr_left (g := id), List.map_id, String.ofList_toList]
  exact fun c hc => toLower_of_lowerChar_eq (lowerChar_of_mem_normalForm hc)

theorem lowersAsciiOnly_of_lowerAscii_eq (h : lowerAscii t = normalForm s) :
    LowersAsciiOnly t := by
  intro c hc
  by_cases hupper : c.isUpper = true
  · exact .inl hupper
  · have hmem : c ∈ (normalForm s).toList := by
      rw [← h, lowerAscii, String.toList_ofList]
      exact List.mem_map.mpr ⟨c, hc, toLower_of_not_isUpper hupper⟩
    exact .inr (lowerChar_of_mem_normalForm hmem)

theorem normalForm_eq_lowerAscii_iff :
    normalForm s = lowerAscii (trim t) ↔ normalForm s = normalForm t ∧ LowersAsciiOnly (trim t) := by
  constructor
  · intro h
    have honly := lowersAsciiOnly_of_lowerAscii_eq h.symm
    exact ⟨h.trans honly.lowerCase_eq.symm, honly⟩
  · rintro ⟨h, honly⟩
    exact h.trans honly.lowerCase_eq

end EncodingPlan.Text
