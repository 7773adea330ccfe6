import EncodingPlan.Dict
import EncodingPlan.Problem

/-! The names by which configurations refer to implementations. A name is registered as it stands
and is looked up without the blanks around it. -/

namespace EncodingPlan

/-- Implementations by their registered names. -/
abbrev Implementations := Dict String Implementation

namespace Implementations

/-- A later registration of a name replaces the earlier one. -/
def register (known : Implementations) (name : String) (implementation : Implementation) :
    Implementations :=
  known.insert name implementation

/-- The last segment of a dotted name; a name without a dot has none. -/
def lastSegment? (name : String) : Option String :=
  match (Text.cutAt '.' name).reverse with
  | last :: _ :: _ => some last
  | _ => none

/-- A full implementation name, and its last segment. -/
def namesOf (implementation : Implementation) : List String :=
  implementation.name :: (lastSegment? implementation.name).toList

/-- Every implementation under its full name and the last segment of it. -/
def builtIn : Implementations :=
  Implementation.all.foldl
    (fun known implementation =>
      (namesOf implementation).foldl (fun known name => known.register name implementation) known)
    ∅

instance : Inhabited Implementations := ⟨builtIn⟩

def resolve (known : Implementations) (name : String) : Except Problem Implementation :=
  match known.get? (Text.trim name) with
  | some implementation => .ok implementation
  | none => .error (.unknownImplementation name)

/-- The target of this name. -/
def target (known : Implementations) (name : String) : Except Problem TargetKind := do
  match ← known.resolve name with
  | .target kind => .ok kind
  | .transformer _ => .error (.roleMismatch name .target)

/-- The transformer of this name. -/
def transformer (known : Implementations) (name : String) : Except Problem TransformerKind := do
  match ← known.resolve name with
  | .transformer kind => .ok kind
  | .target _ => .error (.roleMismatch name .transformer)

end Implementations

end EncodingPlan
