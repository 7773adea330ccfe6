import EncodingPlan.Datum.Terms
import EncodingPlan.Proofs.Text.NormalForm

/-! Reading undoes writing. This is a property of each type of fields, carried through options,
lists and dictionaries; the readers of records look their fields up by name. -/

namespace EncodingPlan

/-- Types for which reading undoes writing. -/
class ReadBack (α : Type) [Written α] : Prop where
  read_write (a : α) : read (write a) = some a

/-- Types of which no value is written as nothing. -/
class NeverNull (α : Type) [Written α] : Prop where
  write_ne_null (a : α) : write a ≠ .null

export ReadBack (read_write)

attribute [simp] ReadBack.read_write

variable {α : Type} [Written α]

/-! ## Fields -/

namespace Datum

variable {fields : List (String × Datum)} {name other : String} {datum : Datum} {default : α}

@[simp] theorem fields?_record {declared : List String} :
    fields? declared (record fields) = some fields := rfl

@[simp] theorem relaxedUntil_cons_self :
    relaxedUntil name ((name, datum) :: fields) = (name, datum) :: fields :=
  if_pos rfl

theorem filter_named_of_notMem (h : name ∉ fields.map Prod.fst) :
    fields.filter (fun field => field.1 = name) = [] := by
  refine List.filter_eq_nil_iff.mpr fun field hfield heq => h ?_
  exact List.mem_map.mpr ⟨field, hfield, of_decide_eq_true heq⟩

theorem field?_of_notMem (h : name ∉ fields.map Prod.fst) : field? fields name = some none := by
  rw [field?, filter_named_of_notMem h]

theorem field?_cons_self (h : name ∉ fields.map Prod.fst) :
    field? ((name, datum) :: fields) name = some (some datum) := by
  have hself : ((name, datum) :: fields).filter (fun field => field.1 = name) =
      (name, datum) :: fields.filter fun field => field.1 = name :=
    List.filter_cons_of_pos (decide_eq_true rfl)
  rw [field?, hself, filter_named_of_notMem h]

theorem field?_cons_of_ne (h : other ≠ name) :
    field? ((other, datum) :: fields) name = field? fields name := by
  rw [field?, List.filter_cons_of_neg (by simpa using h), field?]

@[simp] theorem required_cons_self (h : name ∉ fields.map Prod.fst) :
    required ((name, datum) :: fields) name = (read datum : Option α) := by
  rw [required, field?_cons_self h]
  rfl

@[simp] theorem required_cons_of_ne (h : other ≠ name) :
    (required ((other, datum) :: fields) name : Option α) = required fields name := by
  rw [required, field?_cons_of_ne h, required]

@[simp] theorem defaulting_of_notMem (h : name ∉ fields.map Prod.fst) :
    defaulting fields name default = some default := by
  rw [defaulting, field?_of_notMem h]
  rfl

@[simp] theorem defaulting_cons_self (h : name ∉ fields.map Prod.fst) :
    defaulting ((name, datum) :: fields) name default = (read datum : Option α) := by
  rw [defaulting, field?_cons_self h]
  rfl

@[simp] theorem defaulting_cons_of_ne (h : other ≠ name) :
    defaulting ((other, datum) :: fields) name default = defaulting fields name default := by
  rw [defaulting, field?_cons_of_ne h, defaulting]

end Datum

/-! ## Simple values and collections -/

instance : ReadBack String := ⟨fun _ => rfl⟩

instance : ReadBack Bool := ⟨fun _ => rfl⟩

instance : ReadBack Nat := ⟨fun _ => rfl⟩

instance : NeverNull String := ⟨fun _ => Datum.noConfusion⟩

theorem read_option {datum : Datum} (h : datum ≠ .null) :
    (read datum : Option (Option α)) = (read datum).map some := by
  cases datum with
  | null => exact absurd rfl h
  | _ => rfl

instance [ReadBack α] [NeverNull α] : ReadBack (Option α) where
  read_write
    | none => rfl
    | some a => by
      have hwrite : write (some a) = write a := rfl
      rw [hwrite, read_option (NeverNull.write_ne_null a), read_write, Option.map_some]

/-- A list whose members are each restored is restored. -/
theorem mapM_map_eq_some {β γ : Type} {f : β → γ} {g : γ → Option β} (h : ∀ b, g (f b) = some b)
    (bs : List β) : (bs.map f).mapM g = some bs := by
  induction bs with
  | nil => rfl
  | cons b bs ih =>
    rw [List.map_cons, List.mapM_cons, h, ih]
    rfl

instance [ReadBack α] : ReadBack (List α) := ⟨mapM_map_eq_some read_write⟩

namespace Dict

variable {κ β : Type} [DecidableEq κ]

theorem write_of_notMem {key : κ} {value : β} {entries : List (κ × β)}
    (h : key ∉ entries.map Prod.fst) : write key value entries = entries ++ [(key, value)] := by
  induction entries with
  | nil => rfl
  | cons entry rest ih =>
    rw [List.map_cons, List.mem_cons, not_or] at h
    obtain ⟨hne, hrest⟩ := h
    rw [write, if_neg (Ne.symm hne), ih hrest, List.cons_append]

/-- Pairs with new keys, no two of them the same, go to the end. -/
theorem entries_foldl_insert {pairs : List (κ × β)} {d : Dict κ β}
    (h : (d.entries ++ pairs).map Prod.fst |>.Nodup) :
    (pairs.foldl (fun d (key, value) => d.insert key value) d).entries = d.entries ++ pairs := by
  induction pairs generalizing d with
  | nil => rw [List.append_nil]; rfl
  | cons pair pairs ih =>
    obtain ⟨key, value⟩ := pair
    have hnew : key ∉ d.entries.map Prod.fst := by
      rw [List.map_append, List.nodup_append] at h
      exact fun hkey => h.2.2 key hkey key List.mem_cons_self rfl
    have hentries : (d.insert key value).entries = d.entries ++ [(key, value)] :=
      write_of_notMem hnew
    rw [List.append_cons, ← hentries] at h ⊢
    exact ih h

theorem ofList_entries (d : Dict κ β) : ofList d.entries = d := by
  have h : (ofList d.entries).entries = d.entries := entries_foldl_insert d.distinct
  cases d
  exact (Dict.mk.injEq ..).mpr h

end Dict

instance [ReadBack α] : ReadBack (Dict String α) where
  read_write dict := by
    have hfields : (dict.entries.map fun (key, value) => (key, write value)).mapM
        (fun field => (read field.2 : Option α).map fun value => (field.1, value)) =
          some dict.entries := by
      refine mapM_map_eq_some (fun entry => ?_) dict.entries
      rw [read_write, Option.map_some]
    change Option.map Dict.ofList _ = _
    rw [hfields, Option.map_some, Dict.ofList_entries]

/-! ## Names, identifiers, modes and kinds -/

variable {what : Named}

/-- A name is in normal form, which is its own normal form. -/
@[simp] theorem Name.ofText_text (name : Name what) : ofText name.text = name := by
  obtain ⟨text, raw, rfl⟩ := name
  simp only [ofText, Text.normalForm_normalForm]

instance : ReadBack (Name what) := ⟨fun name => congrArg some name.ofText_text⟩

/-- Identifiers are taken as they stand. -/
instance : ReadBack StageId := ⟨fun _ => rfl⟩

instance : NeverNull StageId := ⟨fun _ => Datum.noConfusion⟩

instance : ReadBack Mode where
  read_write mode := by cases mode <;> decide +kernel

instance : ReadBack TargetKind where
  read_write kind := by cases kind <;> decide

instance : ReadBack TransformerKind where
  read_write kind := by cases kind <;> decide

instance : ReadBack MappingKind where
  read_write kind := by cases kind <;> decide

instance : ReadBack Role where
  read_write role := by cases role <;> decide

end EncodingPlan
