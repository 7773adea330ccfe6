import EncodingPlan.Text.LowerCase

/-! Names of rules and of rule sets. A name is kept in normal form, so names that differ in letter
case or in surrounding blanks are one name, and comparing names is comparing texts. -/

namespace EncodingPlan

/-- What a name stands for. -/
inductive Named where
  | rule
  | ruleSet
deriving DecidableEq, Repr

/-- A text in normal form. -/
structure Name (what : Named) where
  text : String
  normal : ∃ raw, text = Text.normalForm raw
deriving DecidableEq

abbrev RuleName := Name .rule

/-- The name of an encoding rule: a set of rules that may extend another set. -/
abbrev RuleSetName := Name .ruleSet

namespace Name

variable {what : Named}

def ofText (raw : String) : Name what := ⟨Text.normalForm raw, raw, rfl⟩

@[simp] theorem text_ofText (raw : String) : (ofText raw : Name what).text = Text.normalForm raw := rfl

instance : ToString (Name what) := ⟨Name.text⟩

instance : LT (Name what) := ⟨fun a b => a.text < b.text⟩

instance : DecidableLT (Name what) := fun a b => inferInstanceAs (Decidable (a.text < b.text))

instance : Std.Trichotomous (α := Name what) (· < ·) where
  trichotomous a b hab hba := by
    have htext : a.text = b.text :=
      String.le_antisymm (String.not_lt.mp hba) (String.not_lt.mp hab)
    cases a
    cases b
    cases htext
    rfl

instance : Std.Irrefl (α := Name what) (· < ·) where
  irrefl a := String.lt_irrefl a.text

instance : Trans (α := Name what) (β := Name what) (γ := Name what) (· < ·) (· < ·) (· < ·) where
  trans := String.lt_trans

/-- Whether a raw text spells the name, up to surrounding blanks and the case of ASCII letters. -/
def spelledBy (name : Name what) (raw : String) : Bool :=
  Text.equalIgnoringAsciiCase name.text (Text.trim raw)

end Name

namespace RuleSetName

/-- The rule set that every other one extends in the end. -/
def root : RuleSetName := Name.ofText "*"

def isRoot (name : RuleSetName) : Bool := name.text == "*"

end RuleSetName

/-- The standing of a rule, read off the first segment of its name. -/
inductive RuleStanding where
  | requirement
  | recommendation
  | conversion
  | unclassified
deriving DecidableEq, Repr

namespace RuleName

def segments (rule : RuleName) : List String := Text.cutAt '-' rule.text

def standing (rule : RuleName) : RuleStanding :=
  match rule.segments.head? with
  | some "req" => .requirement
  | some "rec" => .recommendation
  | some "rule" => .conversion
  | _ => .unclassified

/-- The second segment of a name with at least four. -/
def family? (rule : RuleName) : Option String :=
  match rule.segments with
  | _ :: family :: _ :: _ :: _ => some family
  | _ => none

end RuleName

end EncodingPlan
