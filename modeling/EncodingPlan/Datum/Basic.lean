import EncodingPlan.Dict

/-! Values of the data format that configurations are kept in, and how the types of the library are
written in it. Reading what was written gives the value back. A record may also be given as the list
of its fields in the order in which they are declared, and a name as a record of that name alone. A
reader ignores fields it does not know, and refuses a record that repeats one it knows; a field
without a default has to be there. -/

namespace EncodingPlan

inductive Datum where
  | null
  | bool (value : Bool)
  | natural (value : Nat)
  /-- A number that is no natural number, or too large for one. -/
  | otherNumber
  | text (value : String)
  | list (items : List Datum)
  | record (fields : List (String × Datum))

instance : Inhabited Datum := ⟨.null⟩

/-- Types with a written form. -/
class Written (α : Type) where
  write : α → Datum
  read : Datum → Option α

export Written (write read)

namespace Datum

/-- The fields of a record whose type declares the given ones. In a list, the last ones may be left
out. -/
def fields? (declared : List String) : Datum → Option (List (String × Datum))
  | record fields => some fields
  | list items => if items.length ≤ declared.length then some (declared.zip items) else none
  | _ => none

/-- A name, alone or as the one field of a record in which there is nothing. -/
def name? : Datum → Option String
  | text name => some name
  | record [(name, null)] => some name
  | _ => none

/-- An empty record in the place of nothing, which values that tell what they are let pass for the
names in them. -/
def relaxed : Datum → Datum
  | record [(name, record [])] => record [(name, null)]
  | datum => datum

/-- Values that come before the field `tag` have to wait for it to tell how they are read, and are
relaxed meanwhile. -/
def relaxedUntil (tag : String) : List (String × Datum) → List (String × Datum)
  | [] => []
  | (name, value) :: fields =>
    if name = tag then (name, value) :: fields
    else (name, value.relaxed) :: relaxedUntil tag fields

/-- A field by its name, if it is there. Nothing is read if it is repeated. -/
def field? (fields : List (String × Datum)) (name : String) : Option (Option Datum) :=
  match fields.filter fun field => field.1 = name with
  | [] => some none
  | [(_, datum)] => some (some datum)
  | _ => none

/-- A field that has to be there. -/
def required [Written α] (fields : List (String × Datum)) (name : String) : Option α :=
  (field? fields name).join.bind read

/-- A field that may be absent. -/
def defaulting [Written α] (fields : List (String × Datum)) (name : String) (default : α) :
    Option α :=
  (field? fields name).bind fun datum => datum.elim (some default) read

end Datum

instance : Written String where
  write := .text
  read
    | .text value => some value
    | _ => none

instance : Written Bool where
  write := .bool
  read
    | .bool value => some value
    | _ => none

instance : Written Nat where
  write := .natural
  read
    | .natural value => some value
    | _ => none

/-- Nothing is written as null. -/
instance [Written α] : Written (Option α) where
  write
    | some a => write a
    | none => .null
  read
    | .null => some none
    | datum => (read datum).map some

instance [Written α] : Written (List α) where
  write as := .list (as.map write)
  read
    | .list items => items.mapM read
    | _ => none

/-- A dictionary is a record; of a repeated field the last value counts, at the first place. -/
instance [Written α] : Written (Dict String α) where
  write dict := .record (dict.entries.map fun (key, value) => (key, write value))
  read
    | .record fields =>
      (fields.mapM fun (field : String × Datum) =>
        (read field.2).map fun value => (field.1, value)).map Dict.ofList
    | _ => none

/-- A type whose values are written as texts. -/
@[reducible] def Written.asText (toText : α → String) (ofText? : String → Option α) : Written α where
  write a := .text (toText a)
  read
    | .text value => ofText? value
    | _ => none

/-- A type whose values are written as one of some names. -/
@[reducible] def Written.asName (toName : α → String) (ofName? : String → Option α) : Written α where
  write a := .text (toName a)
  read datum := datum.name?.bind ofName?

end EncodingPlan
