import EncodingPlan.Configuration.Basic
import EncodingPlan.Text.LowerCase

/-! What a model may be annotated with and what stands for what: aliases of stereotypes and tags,
sources of descriptors, packages with their schemas, and XML namespaces. Later entries replace
earlier ones. -/

namespace EncodingPlan

structure Vocabulary where
  /-- Well-known stereotypes in lower case, by lower-cased aliases. -/
  stereotypeAliases : Dict String String := ∅
  /-- Well-known tags as they were given, by lower-cased aliases. -/
  tagAliases : Dict String String := ∅
  /-- By lower-cased descriptors. -/
  descriptorSources : Dict String String := ∅
  /-- By name. -/
  packages : Dict String PackageDeclaration := ∅
  /-- By abbreviation. -/
  namespaces : Dict String NamespaceDeclaration := ∅
  /-- Where the schema of a namespace is found. -/
  schemaLocations : Dict String String := ∅
deriving DecidableEq

/-- The text of a source. Two kinds of source have a qualifier, which may be empty. -/
def DescriptorSource.text (entry : DescriptorSource) : String :=
  let source := Text.lowerCase entry.source
  if source = "sc:extract" then source ++ "#" ++ entry.token.getD ""
  else if source = "tag" then source ++ "#" ++ entry.tag.getD ""
  else source

namespace Vocabulary

instance : EmptyCollection Vocabulary := ⟨{}⟩

variable (vocabulary : Vocabulary)

def addStereotypeAlias (spelling standard : String) : Vocabulary :=
  { vocabulary with
    stereotypeAliases :=
      vocabulary.stereotypeAliases.insert (Text.lowerCase spelling) (Text.lowerCase standard) }

def addTagAlias (spelling standard : String) : Vocabulary :=
  { vocabulary with
    tagAliases := vocabulary.tagAliases.insert (Text.lowerCase spelling) standard }

def addDescriptorSource (entry : DescriptorSource) : Vocabulary :=
  { vocabulary with
    descriptorSources :=
      vocabulary.descriptorSources.insert (Text.lowerCase entry.descriptor) entry.text }

/-- The document of a package is where the schema of its namespace is found. -/
def addPackage (package : PackageDeclaration) : Vocabulary :=
  { vocabulary with
    packages := vocabulary.packages.insert package.name package
    schemaLocations := vocabulary.schemaLocations.insert package.ns package.document }

/-- A namespace without a location makes an earlier location unknown. -/
def addNamespace (declared : NamespaceDeclaration) : Vocabulary :=
  { vocabulary with
    namespaces := vocabulary.namespaces.insert declared.abbreviation declared
    schemaLocations :=
      match declared.location with
      | some location => vocabulary.schemaLocations.insert declared.ns location
      | none => vocabulary.schemaLocations.erase declared.ns }

/-- Adds what an input section declares. -/
def addInput (input : InputSection) : Vocabulary :=
  let v := input.stereotypeAliases.entries.foldl
    (fun v (spelling, standard) => v.addStereotypeAlias spelling standard) vocabulary
  let v := input.tagAliases.entries.foldl (fun v (spelling, standard) => v.addTagAlias spelling standard) v
  let v := input.descriptorSources.foldl addDescriptorSource v
  input.packages.foldl addPackage v

def addNamespaces (declared : List NamespaceDeclaration) : Vocabulary :=
  declared.foldl addNamespace vocabulary

/-! ## Lookups -/

/-- The stereotype that an alias stands for; any other text stands for itself. -/
def stereotype (text : String) : String :=
  (vocabulary.stereotypeAliases.get? (Text.normalForm text)).getD text

/-- The tag that an alias stands for; any other text stands for itself. -/
def tag (text : String) : String :=
  (vocabulary.tagAliases.get? (Text.normalForm text)).getD text

/-- Blanks around a descriptor belong to it. -/
def descriptorSource? (descriptor : String) : Option String :=
  vocabulary.descriptorSources.get? (Text.lowerCase descriptor)

def package? (name : String) : Option PackageDeclaration := vocabulary.packages.get? name

def namespaceOf? (abbreviation : String) : Option NamespaceDeclaration :=
  vocabulary.namespaces.get? abbreviation

/-- The abbreviation of a namespace; of several, the one that came in first. -/
def abbreviation? (ns : String) : Option String :=
  (vocabulary.namespaces.entries.find? fun (_, declared) => declared.ns == ns).map Prod.fst

def schemaLocation? (ns : String) : Option String := vocabulary.schemaLocations.get? ns

end Vocabulary

end EncodingPlan
