import EncodingPlan.Text.LowerCase

/-! Categories of model classes, decided by the stereotype of a class. -/

namespace EncodingPlan

inductive ClassCategory where
  | unknown
  | feature
  | codeList
  | enumeration
  | mixin
  | dataType
  | object
  | basicType
  | union
  | okstraKey
  | okstraFid
  | featureConcept
  | attributeConcept
  | valueConcept
deriving DecidableEq, Repr

namespace ClassCategory

def all : List ClassCategory :=
  [unknown, feature, codeList, enumeration, mixin, dataType, object, basicType, union, okstraKey,
   okstraFid, featureConcept, attributeConcept, valueConcept]

def key : ClassCategory → String
  | unknown => "unknown"
  | feature => "feature"
  | codeList => "code_list"
  | enumeration => "enumeration"
  | mixin => "mixin"
  | dataType => "data_type"
  | object => "object"
  | basicType => "basic_type"
  | union => "union"
  | okstraKey => "okstra_key"
  | okstraFid => "okstra_fid"
  | featureConcept => "feature_concept"
  | attributeConcept => "attribute_concept"
  | valueConcept => "value_concept"

def ofStereotype (stereotype : String) : ClassCategory :=
  match Text.normalForm stereotype with
  | "enumeration" => enumeration
  | "codelist" => codeList
  | "schluesseltabelle" => okstraKey
  | "fachid" => okstraFid
  | "datatype" => dataType
  | "union" => union
  | "featureconcept" => featureConcept
  | "attributeconcept" => attributeConcept
  | "valueconcept" => valueConcept
  | "interface" => mixin
  | "basictype" => basicType
  | "adeelement" | "featuretype" => feature
  | "type" => object
  | _ => unknown

end ClassCategory

end EncodingPlan
