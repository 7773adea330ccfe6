import EncodingPlan.Proofs.Datum.ReadBack
import EncodingPlan.Proofs.Text.AsciiCase

/-! Names and texts. The text of a name is in normal form, so it stands for the same name again
wherever it is looked up or read. A raw text can be compared with a name in two ways, through the name
that it spells or as it stands. The second way knows no lower case but that of the letters A to Z, so
it misses names for which the text has other letters to lower. -/

namespace EncodingPlan.Name

variable {what : Named} {a b : String}

theorem text_injective {name other : Name what} (h : name.text = other.text) : name = other := by
  rw [← name.ofText_text, h, other.ofText_text]

/-- The text of the name stands for this name and for no other. -/
structure IsSettled (name : Name what) : Prop where
  ofText_text : ofText name.text = name
  trimmed : Text.Trimmed name.text.toList
  lowered : ∀ c ∈ name.text.toList, Text.lowerChar c = [c]
  unique : ∀ other : Name what, other.text = name.text → other = name
  found : ∀ {α : Type} (dict : Dict (Name what) α) (value : α),
    dict.get? (ofText name.text) = some value ↔ (name, value) ∈ dict.entries
  listed : ∀ names : List (Name what), names.contains (ofText name.text) = true ↔ name ∈ names
  readBack : read (write name) = some name

/-- Normalizing settles at once, and leaves a text as it is exactly if there is nothing to trim and
nothing to lower. -/
theorem isSettled_ofText (raw : String) :
    (ofText raw : Name what).IsSettled ∧
      ((ofText raw : Name what).text = raw ↔
        Text.Trimmed raw.toList ∧ ∀ c ∈ raw.toList, Text.lowerChar c = [c]) := by
  refine ⟨⟨ofText_text _, Text.trimmed_normalForm raw, fun _ => Text.lowerChar_of_mem_normalForm,
    fun _ => text_injective, fun dict value => ?_, fun names => ?_, read_write _⟩,
    Text.normalForm_eq_self_iff⟩
  · rw [ofText_text, Dict.mem_entries]
  · rw [ofText_text, List.contains_iff_mem]

/-! ## Raw texts -/

theorem ofText_eq_iff :
    (ofText a : Name what) = ofText b ↔ Text.normalForm a = Text.normalForm b := by
  constructor
  · intro h
    have htext := congrArg text h
    rwa [text_ofText, text_ofText] at htext
  · intro h
    exact text_injective (by rw [text_ofText, text_ofText, h])

/-- A raw text is taken for a name if it spells the name and has no letters but A to Z to lower. -/
theorem spelledBy_iff : (ofText a : Name what).spelledBy b = true ↔
    (ofText a : Name what) = ofText b ∧ Text.LowersAsciiOnly (Text.trim b) := by
  rw [spelledBy, Text.equalIgnoringAsciiCase, beq_iff_eq, ofText_eq_iff, text_ofText,
    Text.lowerAscii_normalForm, Text.normalForm_eq_lowerAscii_iff]

/-- A text that is taken for a name always spells it. The other way round, the two comparisons agree
exactly where the text spells another name or has no letters but A to Z to lower. -/
theorem comparisons_agree_iff (a b : String) :
    ((ofText a : Name what).spelledBy b = true → (ofText a : Name what) = ofText b) ∧
      (((ofText a : Name what).spelledBy b = true ↔ (ofText a : Name what) = ofText b) ↔
        ((ofText a : Name what) = ofText b → Text.LowersAsciiOnly (Text.trim b))) ∧
      ((ofText a : Name what).spelledBy a = true ↔ Text.LowersAsciiOnly (Text.trim a)) := by
  refine ⟨fun h => (spelledBy_iff.mp h).1, ?_, ?_⟩
  · rw [spelledBy_iff, and_iff_left_iff_imp]
  · rw [spelledBy_iff, and_iff_right rfl]

/-- A name is not the text it was made from if this begins with a capital umlaut. -/
theorem comparisons_differ_of_umlaut :
    ¬ ((ofText "Änderung" : RuleName).spelledBy "Änderung" = true ↔
      (ofText "Änderung" : RuleName) = ofText "Änderung") := by
  decide +kernel

end EncodingPlan.Name
