import EncodingPlan.Dict
import Mathlib.Tactic.ByContra

/-! Lists of which the last entry with a property counts, and dictionaries that were filled from such
lists: each key has the value of the last entry for it. -/

namespace EncodingPlan

section
variable {α β : Type} {P : α → Prop} {entries : List α} {entry : α}

/-- The entry has the property, and no later one has it. -/
def LastWith (P : α → Prop) (entries : List α) (entry : α) : Prop :=
  ∃ before after, entries = before ++ entry :: after ∧ P entry ∧ ∀ later ∈ after, ¬ P later

theorem LastWith.holds (h : LastWith P entries entry) : P entry := by
  obtain ⟨_, _, _, hentry, _⟩ := h
  exact hentry

theorem LastWith.mem (h : LastWith P entries entry) : entry ∈ entries := by
  obtain ⟨before, after, rfl, _, _⟩ := h
  exact List.mem_append_right before List.mem_cons_self

theorem exists_lastWith_or (P : α → Prop) (entries : List α) :
    (∃ entry, LastWith P entries entry) ∨ ∀ entry ∈ entries, ¬ P entry := by
  induction entries with
  | nil => exact .inr fun _ hnil => absurd hnil List.not_mem_nil
  | cons first rest ih =>
    rcases ih with ⟨entry, before, after, hrest, hentry, hafter⟩ | hnone
    · exact .inl ⟨entry, first :: before, after, by rw [hrest]; rfl, hentry, hafter⟩
    · by_cases hfirst : P first
      · exact .inl ⟨first, [], rest, rfl, hfirst, hnone⟩
      · exact .inr (List.forall_mem_cons.mpr ⟨hfirst, hnone⟩)

/-- The last record of all entries is the last one of the last entry that gives any. -/
theorem getLast?_flatMap_eq_some_iff {f : α → List β} (hf : ∀ entry, f entry = [] ↔ ¬ P entry)
    {b : β} : (entries.flatMap f).getLast? = some b ↔
      ∃ entry, LastWith P entries entry ∧ (f entry).getLast? = some b := by
  rw [List.getLast?_flatMap, List.findSome?_eq_some_iff]
  simp only [List.getLast?_eq_none_iff, hf, List.reverse_eq_iff, List.reverse_append,
    List.reverse_cons, List.append_assoc, List.singleton_append]
  constructor
  · rintro ⟨after, entry, before, hentries, hlast, hafter⟩
    have hentry : P entry := by
      by_contra hnot
      rw [(hf entry).mpr hnot] at hlast
      cases hlast
    refine ⟨entry, ⟨before.reverse, after.reverse, hentries, hentry, fun later hlater => ?_⟩, hlast⟩
    exact hafter later (List.mem_reverse.mp hlater)
  · rintro ⟨entry, ⟨before, after, hentries, _, hafter⟩, hlast⟩
    refine ⟨after.reverse, entry, before.reverse, by simpa using hentries, hlast, ?_⟩
    exact fun later hlater => hafter later (List.mem_reverse.mp hlater)

theorem getLast?_flatMap_eq_none_iff {f : α → List β} (hf : ∀ entry, f entry = [] ↔ ¬ P entry) :
    (entries.flatMap f).getLast? = none ↔ ∀ entry ∈ entries, ¬ P entry := by
  simp only [List.getLast?_eq_none_iff, List.flatMap_eq_nil_iff, hf]

end

namespace Dict

variable {σ κ α : Type} [DecidableEq κ] {key : σ → κ} {value : σ → Option α} {k : κ}
  {dict : Dict κ α} {entries : List σ} {entry : σ}

/-- Writes the value of an entry under its key. An entry without a value erases the key. -/
def enter (key : σ → κ) (value : σ → Option α) (dict : Dict κ α) (entry : σ) : Dict κ α :=
  match value entry with
  | some a => dict.insert (key entry) a
  | none => dict.erase (key entry)

theorem get?_enter : (dict.enter key value entry).get? k =
    if k = key entry then value entry else dict.get? k := by
  rw [enter]
  split
  · next hvalue => rw [get?_insert, hvalue]
  · next hvalue => rw [get?_erase, hvalue]

theorem get?_foldl_enter_of_forall_ne (h : ∀ entry ∈ entries, key entry ≠ k) :
    (entries.foldl (enter key value) dict).get? k = dict.get? k := by
  induction entries generalizing dict with
  | nil => rfl
  | cons first rest ih =>
    obtain ⟨hfirst, hrest⟩ := List.forall_mem_cons.mp h
    rw [List.foldl_cons, ih hrest, get?_enter, if_neg (Ne.symm hfirst)]

theorem get?_foldl_enter_of_lastWith (h : LastWith (key · = k) entries entry) :
    (entries.foldl (enter key value) dict).get? k = value entry := by
  obtain ⟨before, after, rfl, rfl, hafter⟩ := h
  rw [List.foldl_append, List.foldl_cons, get?_foldl_enter_of_forall_ne hafter, get?_enter,
    if_pos rfl]

/-- Entries that all have values leave each key with its last entry. -/
theorem get?_foldl_enter_eq_some_iff {key : α → κ} {entries : List α} {a : α} :
    (entries.foldl (enter key some) (∅ : Dict κ α)).get? k = some a ↔
      LastWith (key · = k) entries a := by
  constructor
  · intro h
    rcases exists_lastWith_or (key · = k) entries with ⟨entry, hlast⟩ | hnone
    · rw [get?_foldl_enter_of_lastWith hlast, Option.some.injEq] at h
      rwa [← h]
    · rw [get?_foldl_enter_of_forall_ne hnone] at h
      cases h
  · exact get?_foldl_enter_of_lastWith

end Dict

end EncodingPlan
