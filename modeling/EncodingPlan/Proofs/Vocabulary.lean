import EncodingPlan.Proofs.LastEntry
import EncodingPlan.Proofs.Text.NormalForm
import EncodingPlan.Vocabulary

/-! What a vocabulary answers after additions in any order. Each table follows the additions that
concern it, and of several for one key the last one counts. Aliases are kept in lower case with the
blanks around them, but looked up without: an alias with blanks around it stands for nothing. -/

namespace EncodingPlan

/-- A spelling of what has a standard name. -/
structure Alias where
  spelling : String
  standard : String
deriving DecidableEq

namespace Vocabulary

/-- What can be added to a vocabulary at a time. -/
inductive Addition where
  | stereotypeAlias (added : Alias)
  | tagAlias (added : Alias)
  | descriptorSource (added : DescriptorSource)
  | package (added : PackageDeclaration)
  | xmlNamespace (added : NamespaceDeclaration)
deriving DecidableEq

namespace Addition

def stereotypeAlias? : Addition → Option Alias
  | stereotypeAlias added => some added
  | _ => none

def tagAlias? : Addition → Option Alias
  | tagAlias added => some added
  | _ => none

def xmlNamespace? : Addition → Option NamespaceDeclaration
  | xmlNamespace added => some added
  | _ => none

/-- A namespace and where its schema is found, if that is said. -/
def schemaLocation? : Addition → Option (String × Option String)
  | package added => some (added.ns, some added.document)
  | xmlNamespace added => some (added.ns, added.location)
  | _ => none

end Addition

variable (vocabulary : Vocabulary)

def add : Addition → Vocabulary
  | .stereotypeAlias added => vocabulary.addStereotypeAlias added.spelling added.standard
  | .tagAlias added => vocabulary.addTagAlias added.spelling added.standard
  | .descriptorSource added => vocabulary.addDescriptorSource added
  | .package added => vocabulary.addPackage added
  | .xmlNamespace added => vocabulary.addNamespace added

/-- The vocabulary that additions make of an empty one. -/
def after (additions : List Addition) : Vocabulary := additions.foldl add ∅

/-- The additions that an input section makes, in their order. -/
def additionsOf (input : InputSection) : List Addition :=
  (input.stereotypeAliases.entries.map fun (spelling, standard) =>
      .stereotypeAlias ⟨spelling, standard⟩)
    ++ (input.tagAliases.entries.map fun (spelling, standard) => .tagAlias ⟨spelling, standard⟩)
    ++ input.descriptorSources.map .descriptorSource
    ++ input.packages.map .package

theorem addInput_eq (input : InputSection) :
    vocabulary.addInput input = (additionsOf input).foldl add vocabulary := by
  simp only [additionsOf, List.foldl_append, List.foldl_map]
  rfl

theorem addNamespaces_eq (declared : List NamespaceDeclaration) :
    vocabulary.addNamespaces declared = (declared.map .xmlNamespace).foldl add vocabulary := by
  rw [List.foldl_map]
  rfl

/-! ## Tables -/

variable (additions : List Addition)

/-- A table into which an addition writes no more than the part of it that concerns the table is
made of these parts. -/
theorem table_after {σ τ : Type} {table : Vocabulary → τ} {part? : Addition → Option σ}
    {write : τ → σ → τ}
    (hadd : ∀ vocabulary addition, table (vocabulary.add addition) =
      match part? addition with
      | some part => write (table vocabulary) part
      | none => table vocabulary) :
    table (after additions) = (additions.filterMap part?).foldl write (table ∅) := by
  rw [List.foldl_filterMap, after]
  exact (List.foldl_hom table fun vocabulary addition => (hadd vocabulary addition).symm).symm

theorem stereotypeAliases_after : (after additions).stereotypeAliases =
    (additions.filterMap Addition.stereotypeAlias?).foldl
      (Dict.enter (Text.lowerCase ·.spelling) fun added => some (Text.lowerCase added.standard)) ∅ :=
  table_after additions fun _ addition => by cases addition <;> rfl

theorem tagAliases_after : (after additions).tagAliases =
    (additions.filterMap Addition.tagAlias?).foldl
      (Dict.enter (Text.lowerCase ·.spelling) fun added => some added.standard) ∅ :=
  table_after additions fun _ addition => by cases addition <;> rfl

theorem namespaces_after : (after additions).namespaces =
    (additions.filterMap Addition.xmlNamespace?).foldl
      (Dict.enter NamespaceDeclaration.abbreviation some) ∅ :=
  table_after additions fun _ addition => by cases addition <;> rfl

theorem schemaLocations_after : (after additions).schemaLocations =
    (additions.filterMap Addition.schemaLocation?).foldl (Dict.enter Prod.fst Prod.snd) ∅ := by
  refine table_after additions fun vocabulary addition => ?_
  cases addition with
  | xmlNamespace added =>
    obtain ⟨abbreviation, ns, location⟩ := added
    cases location <;> rfl
  | _ => rfl

end Vocabulary

/-! ## Aliases -/

/-- The text is the alias but for letter case and the blanks around the text. There are no blanks
around the alias. -/
def Alias.IsSpelledBy (named : Alias) (text : String) : Prop :=
  Text.Trimmed named.spelling.toList ∧ Text.normalForm named.spelling = Text.normalForm text

/-- Texts that spell an alias are resolved by the last such alias, and others stay as they are. -/
structure ResolvesAliases (aliases : List Alias) (standardOf : Alias → String)
    (resolve : String → String) : Prop where
  last : ∀ text named, LastWith (·.IsSpelledBy text) aliases named → resolve text = standardOf named
  other : ∀ text, (∀ named ∈ aliases, ¬ named.IsSpelledBy text) → resolve text = text
  /-- An alias without blanks around it is found by its own text. -/
  own : ∀ named ∈ aliases, Text.Trimmed named.spelling.toList →
    ∃ later, LastWith (·.IsSpelledBy named.spelling) aliases later ∧
      resolve named.spelling = standardOf later

theorem ResolvesAliases.of_last_and_other {aliases : List Alias} {standardOf : Alias → String}
    {resolve : String → String}
    (hlast : ∀ text named, LastWith (·.IsSpelledBy text) aliases named →
      resolve text = standardOf named)
    (hother : ∀ text, (∀ named ∈ aliases, ¬ named.IsSpelledBy text) → resolve text = text) :
    ResolvesAliases aliases standardOf resolve := by
  refine ⟨hlast, hother, fun named hmem htrimmed => ?_⟩
  rcases exists_lastWith_or (·.IsSpelledBy named.spelling) aliases with ⟨later, hlater⟩ | hnone
  · exact ⟨later, hlater, hlast _ later hlater⟩
  · exact absurd ⟨htrimmed, rfl⟩ (hnone named hmem)

/-- The key of an alias is found by the normal form of the texts that spell the alias. -/
theorem resolvesAliases_of_get? {aliases : List Alias} {standardOf : Alias → String}
    {resolve : String → String}
    (hresolve : ∀ text, resolve text =
      ((aliases.foldl (Dict.enter (Text.lowerCase ·.spelling) fun named => some (standardOf named))
        ∅).get? (Text.normalForm text)).getD text) :
    ResolvesAliases aliases standardOf resolve := by
  have hspelled (text : String) : (Alias.IsSpelledBy · text) =
      fun named => Text.lowerCase named.spelling = Text.normalForm text :=
    funext fun named => propext Text.lowerCase_eq_normalForm_iff.symm
  refine .of_last_and_other (fun text named hlast => ?_) fun text hnone => ?_
  · rw [hspelled] at hlast
    rw [hresolve, Dict.get?_foldl_enter_of_lastWith hlast, Option.getD_some]
  · have hkeys : ∀ named ∈ aliases, Text.lowerCase named.spelling ≠ Text.normalForm text :=
      fun named hmem heq => hnone named hmem (Text.lowerCase_eq_normalForm_iff.mp heq)
    rw [hresolve, Dict.get?_foldl_enter_of_forall_ne hkeys, Dict.get?_empty, Option.getD_none]

namespace Vocabulary

/-- Stereotypes are resolved to lower-cased standard ones, and tags to standard ones as they were
given. The aliases of an input section count as if they were added one after another. -/
theorem resolvesAliases_after (additions : List Addition) :
    ResolvesAliases (additions.filterMap Addition.stereotypeAlias?)
        (fun named => Text.lowerCase named.standard) (after additions).stereotype ∧
      ResolvesAliases (additions.filterMap Addition.tagAlias?) Alias.standard
        (after additions).tag ∧
      ∀ input, (after additions).addInput input = after (additions ++ additionsOf input) := by
  refine ⟨resolvesAliases_of_get? fun text => ?_, resolvesAliases_of_get? fun text => ?_,
    fun input => ?_⟩
  · rw [stereotype, stereotypeAliases_after]
  · rw [tag, tagAliases_after]
  · rw [addInput_eq, after, after, List.foldl_append]

/-- An alias with a blank before it is not found by its own text. -/
theorem not_resolvesAliases_of_blank :
    (after [.stereotypeAlias ⟨" FT", "FeatureType"⟩]).stereotype " FT" ≠
      Text.lowerCase "FeatureType" := by
  decide +kernel

end Vocabulary

end EncodingPlan
