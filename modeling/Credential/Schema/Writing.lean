import Credential.Attribute.Basic

/-! Writing an attribute tree as a schema document.

A union is written as one node: its types in a list, and the keywords and
`enum` entries of its candidates together.
-/

set_option autoImplicit false

namespace Credential.Attribute

def typeDocument (field : Attribute) : Json :=
  match field.type? with
  | some type => .string type.token
  | none => Json.strings (field.types.map JsonType.token)

/-- The `enum` entries of a node, those of all candidates in a row for a union. -/
def enumEntries : Attribute → List Json
  | .union _ candidates => candidates.flatMap fun candidate => candidate.allowed?.getD []
  | field => field.allowed?.getD []

def textKeyword (keyword : String) (value : Option String) : List (String × Json) :=
  value.toList.map fun text => (keyword, .string text)

def listKeyword (keyword : String) (values : List Json) : List (String × Json) :=
  if values.isEmpty then [] else [(keyword, .array values)]

def node (field : Attribute) (keywords : List (String × Json)) : Json :=
  .object (Members.ofPairs
    (("type", field.typeDocument) :: keywords ++ listKeyword "enum" field.enumEntries ++
      textKeyword "title" field.info.title ++ textKeyword "description" field.info.description))

def requiredNames (properties : List Attribute) : List String :=
  (properties.filter required).map name

mutual

def keywords : Attribute → List (String × Json)
  | .string _ format _ => textKeyword "format" format
  | .arrayOf _ items => [("items", items.node items.keywords)]
  | .record _ properties =>
    ("properties", .object (Members.ofPairs (propertyNodes properties))) ::
      listKeyword "required" ((requiredNames properties).map .string)
  | .union _ candidates => candidateKeywords candidates
  | .boolean .. | .integer .. | .number .. | .null _ | .anyArray _ | .anyObject _ => []

def candidateKeywords : List Attribute → List (String × Json)
  | [] => []
  | .union .. :: rest => candidateKeywords rest
  | candidate :: rest => candidate.keywords ++ candidateKeywords rest

def propertyNodes : List Attribute → List (String × Json)
  | [] => []
  | property :: rest => (property.name, property.node property.keywords) :: propertyNodes rest

end

def toDocument (field : Attribute) : Json :=
  field.node field.keywords

end Credential.Attribute
