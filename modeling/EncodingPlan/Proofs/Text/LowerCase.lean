import EncodingPlan.Text.LowerCase

/-! Lower-casing settles at once: every character of a lower-case form is its own lower-case image,
and none is a blank where the text had none. That no image is mapped on and none is a blank is a
property of the tables, read off sets of code points that are numbers with a bit for each member. -/

namespace EncodingPlan.Text

/-- A set of code points, with a bit for each. -/
def bitSet (codes : List Nat) : Nat := codes.foldr (fun code bits => bits ||| 1 <<< code) 0

theorem testBit_bitSet {codes : List Nat} {code : Nat} :
    (bitSet codes).testBit code = true ↔ code ∈ codes := by
  induction codes with
  | nil => simp [bitSet]
  | cons first rest ih =>
    rw [bitSet, List.foldr_cons, ← bitSet, Nat.testBit_or, Bool.or_eq_true, ih, Nat.one_shiftLeft,
      Nat.testBit_two_pow, decide_eq_true_iff, List.mem_cons, or_comm, eq_comm]

theorem notMem_of_bitSet_and {as bs : List Nat} (h : bitSet as &&& bitSet bs = 0) {code : Nat}
    (ha : code ∈ as) : code ∉ bs := by
  intro hb
  have hbit : (bitSet as &&& bitSet bs).testBit code = true := by
    rw [Nat.testBit_and, testBit_bitSet.mpr ha, testBit_bitSet.mpr hb]
    rfl
  rw [h, Nat.zero_testBit] at hbit
  exact Bool.false_ne_true hbit

namespace CaseRun

variable {run : CaseRun} {code image : Nat}

/-- The code points that a run maps. -/
def codes (run : CaseRun) : List Nat :=
  let (first, last, step, _) := run
  (List.range ((last - first) / step + 1)).map fun n => first + step * n

theorem mem_codes (h : run.image? code = some image) : code ∈ run.codes := by
  obtain ⟨first, last, step, base⟩ := run
  simp only [image?, Option.ite_none_right_eq_some] at h
  obtain ⟨⟨hfirst, hlast, hstep⟩, -⟩ := h
  have hcode : first + step * ((code - first) / step) = code := by
    rw [Nat.mul_div_cancel' (Nat.dvd_of_mod_eq_zero hstep), Nat.add_sub_cancel' hfirst]
  have hcount : (code - first) / step ≤ (last - first) / step :=
    Nat.div_le_div_right (Nat.sub_le_sub_right hlast first)
  exact List.mem_map.mpr ⟨_, List.mem_range.mpr (Nat.lt_succ_of_le hcount), hcode⟩

theorem image?_inverse (h : run.image? code = some image) :
    run.inverse.image? image = some code := by
  obtain ⟨first, last, step, base⟩ := run
  simp only [image?, Option.ite_none_right_eq_some, Option.some.injEq] at h
  obtain ⟨⟨hfirst, hlast, hstep⟩, rfl⟩ := h
  simp only [inverse, image?, Option.ite_none_right_eq_some, Option.some.injEq,
    Nat.add_sub_cancel_left]
  exact ⟨⟨Nat.le_add_right .., Nat.add_le_add_left (Nat.sub_le_sub_right hlast first) _, hstep⟩,
    Nat.add_sub_cancel' hfirst⟩

end CaseRun

/-! ## The tables -/

/-- The code points with a lower-case image of their own. -/
def loweredCodes : List Nat := lowerRuns.flatMap CaseRun.codes

def lowerImages : List Nat := lowerRuns.flatMap fun run => run.inverse.codes

def blankCodes : List Nat :=
  blankTable.flatMap fun (first, last) => CaseRun.codes (first, last, 1, first)

/-- No image is mapped on, by a run or as the capital I with a dot above, and none is a blank. -/
theorem lowerImages_apart :
    bitSet lowerImages &&& bitSet (0x130 :: loweredCodes ++ blankCodes) = 0 := by
  decide +kernel

/-- No blank is mapped. -/
theorem blankCodes_apart : bitSet blankCodes &&& bitSet (0x130 :: loweredCodes) = 0 := by
  decide +kernel

theorem lowerImages_valid : ∀ code ∈ lowerImages, code.isValidChar := by decide +kernel

theorem mem_blankCodes {c : Char} (h : isBlank c = true) : c.toNat ∈ blankCodes := by
  obtain ⟨⟨first, last⟩, hrange, hin⟩ := List.any_eq_true.mp h
  simp only [Bool.and_eq_true, decide_eq_true_eq] at hin
  have hself : CaseRun.image? (first, last, 1, first) c.toNat = some c.toNat := by
    simp [CaseRun.image?, hin, Nat.mod_one, Nat.add_sub_cancel' hin.1]
  exact List.mem_flatMap.mpr ⟨_, hrange, CaseRun.mem_codes hself⟩

theorem lowerCode_eq_self_or_mem (code : Nat) :
    lowerCode code = code ∨ lowerCode code ∈ lowerImages := by
  rw [lowerCode]
  cases hfind : lowerRuns.findSome? fun run => CaseRun.image? run code with
  | none => exact .inl rfl
  | some image =>
    obtain ⟨run, hrun, himage⟩ := List.exists_of_findSome?_eq_some hfind
    exact .inr (List.mem_flatMap.mpr ⟨run, hrun, CaseRun.mem_codes (CaseRun.image?_inverse himage)⟩)

theorem lowerCode_eq_self {code : Nat} (h : code ∉ loweredCodes) : lowerCode code = code := by
  have hnone : (lowerRuns.findSome? fun run => CaseRun.image? run code) = none := by
    refine List.findSome?_eq_none_iff.mpr fun run hrun => ?_
    cases himage : run.image? code with
    | none => rfl
    | some image => exact absurd (List.mem_flatMap.mpr ⟨run, hrun, CaseRun.mem_codes himage⟩) h
  rw [lowerCode, hnone]
  rfl

/-! ## Characters -/

variable {c d : Char}

theorem lowerChar_eq_self (h : c.toNat ∉ 0x130 :: loweredCodes) : lowerChar c = [c] := by
  obtain ⟨hdot, hlowered⟩ := not_or.mp (mt List.mem_cons.mpr h)
  have hne : c ≠ '\u0130' := fun hc => hdot (by rw [hc]; rfl)
  rw [lowerChar, if_neg hne, lowerCode_eq_self hlowered, Char.ofNat_toNat]

theorem ne_capitalSigma (h : lowerChar c = [c]) : c ≠ '\u03A3' := by
  rintro rfl
  exact absurd h (by decide +kernel)

theorem lowerChar_of_isBlank (h : isBlank c = true) : lowerChar c = [c] :=
  lowerChar_eq_self (notMem_of_bitSet_and blankCodes_apart (mem_blankCodes h))

/-- `d` can be in the place of `c` in a lower-case form. -/
structure IsLowered (c d : Char) : Prop where
  lowerChar_eq : lowerChar d = [d]
  isBlank_eq_false : isBlank c = false → isBlank d = false

theorem IsLowered.of_not_blank (h : lowerChar d = [d] ∧ isBlank d = false) : IsLowered c d :=
  ⟨h.1, fun _ => h.2⟩

theorem IsLowered.of_mem_lowerImages (h : d.toNat ∈ lowerImages) : IsLowered c d := by
  have hapart := notMem_of_bitSet_and lowerImages_apart h
  rw [List.mem_append, not_or] at hapart
  obtain ⟨hlowered, hblank⟩ := hapart
  refine .of_not_blank ⟨lowerChar_eq_self hlowered, ?_⟩
  exact Bool.eq_false_iff.mpr fun hd => hblank (mem_blankCodes hd)

theorem IsLowered.of_mem_lowerChar (h : d ∈ lowerChar c) : IsLowered c d := by
  rw [lowerChar] at h
  split at h
  · -- the two characters for the capital I with a dot above
    simp only [List.mem_cons, List.not_mem_nil, or_false] at h
    rcases h with rfl | rfl
    · exact .of_not_blank (by decide +kernel)
    · exact .of_not_blank (by decide +kernel)
  · next hdot =>
    rw [List.mem_singleton] at h
    rcases lowerCode_eq_self_or_mem c.toNat with hself | himage
    · rw [hself, Char.ofNat_toNat] at h
      subst h
      exact ⟨by rw [lowerChar, if_neg hdot, hself, Char.ofNat_toNat], id⟩
    · have hcode : d.toNat = lowerCode c.toNat := by
        rw [h, Char.ofNat, dif_pos (lowerImages_valid _ himage)]
        rfl
      exact .of_mem_lowerImages (hcode ▸ himage)

theorem lowerChar_ne_nil : lowerChar c ≠ [] := by
  rw [lowerChar]
  split <;> exact List.cons_ne_nil _ _

theorem lowerSigma_eq_or (before after : List Char) :
    lowerSigma before after = '\u03C2' ∨ lowerSigma before after = '\u03C3' := by
  rw [lowerSigma]
  split
  · exact .inl rfl
  · exact .inr rfl

/-! ## Texts -/

variable {before cs ds : List Char}

/-- Each character of a text adds a nonempty piece. -/
theorem lowerAfter_cons (before : List Char) (c : Char) (rest : List Char) :
    ∃ image, lowerAfter before (c :: rest) = image ++ lowerAfter (c :: before) rest ∧ image ≠ [] ∧
      ∀ d ∈ image, IsLowered c d := by
  refine ⟨_, rfl, ?_⟩
  split
  · refine ⟨List.cons_ne_nil _ _, fun d hd => ?_⟩
    rw [List.mem_singleton] at hd
    rcases lowerSigma_eq_or before rest with h | h
    · rw [hd, h]
      exact .of_not_blank (by decide +kernel)
    · rw [hd, h]
      exact .of_not_blank (by decide +kernel)
  · exact ⟨lowerChar_ne_nil, fun _ => IsLowered.of_mem_lowerChar⟩

theorem lowerAfter_ne_nil (h : cs ≠ []) : lowerAfter before cs ≠ [] := by
  obtain ⟨c, rest, rfl⟩ := List.exists_cons_of_ne_nil h
  obtain ⟨image, heq, hne, -⟩ := lowerAfter_cons before c rest
  rw [heq]
  exact List.append_ne_nil_of_left_ne_nil hne _

/-- Where every character has one image, and it depends on nothing else, the images are in its
place. -/
theorem lowerAfter_eq_map {f : Char → Char} (h : ∀ c ∈ cs, c ≠ '\u03A3' ∧ lowerChar c = [f c]) :
    lowerAfter before cs = cs.map f := by
  induction cs generalizing before with
  | nil => rfl
  | cons c cs ih =>
    obtain ⟨hsigma, hc⟩ := h c List.mem_cons_self
    rw [lowerAfter, if_neg hsigma, hc, ih fun d hd => h d (List.mem_cons_of_mem _ hd)]
    rfl

theorem lowerAfter_eq_self (h : ∀ d ∈ ds, lowerChar d = [d]) : lowerAfter before ds = ds := by
  rw [lowerAfter_eq_map (f := id) fun d hd => ⟨ne_capitalSigma (h d hd), h d hd⟩, List.map_id]

theorem lowerChar_of_mem_lowerAfter (h : d ∈ lowerAfter before cs) : lowerChar d = [d] := by
  induction cs generalizing before with
  | nil => cases h
  | cons c rest ih =>
    obtain ⟨image, heq, -, himage⟩ := lowerAfter_cons before c rest
    rw [heq, List.mem_append] at h
    rcases h with h | h
    · exact (himage d h).lowerChar_eq
    · exact ih h

end EncodingPlan.Text
