import Credential.Attribute.Basic
import Credential.Schema.Fault

/-! Reading a schema document into an attribute tree.

The keywords of a node are read in a fixed order and the first breach is
reported. A node whose `type` is a list is read once for each listed type, and
each reading keeps the `enum` entries of its own type. Reading goes down one
level through `items` and `properties`; the levels left bound the recursion.
-/

set_option autoImplicit false

namespace Credential

namespace SchemaFault

def throw {α : Type} (path : Path) (expected : List JsonType) (breach : Breach) : Except SchemaFault α :=
  .error ⟨path, expected, breach⟩

end SchemaFault

open SchemaFault (throw)

inductive Declared where
  | single (type : JsonType)
  | union (types : List JsonType)

namespace Node

def text? (node : Members) (keyword : String) (path : Path) : Except SchemaFault (Option String) :=
  match node.get? keyword with
  | none => .ok none
  | some (.string value) => .ok (some value)
  | some other => throw (path.key keyword) [.string] (.textShape keyword other.type)

def typeOfToken (token : String) (path : Path) : Except SchemaFault JsonType :=
  match JsonType.ofToken? token with
  | some type => .ok type
  | none => throw path JsonType.all (.unknownToken token)

def typesFrom (path : Path) (position : Nat) (before : List JsonType) :
    List Json → Except SchemaFault (List JsonType)
  | [] => .ok []
  | .string token :: rest => do
    let type ← typeOfToken token (path.index position)
    if type ∈ before then throw (path.index position) JsonType.all (.duplicateToken type)
    else return type :: (← typesFrom path (position + 1) (type :: before) rest)
  | _ :: _ => throw (path.index position) JsonType.all .tokenShape

def declared (node : Members) (path : Path) : Except SchemaFault Declared :=
  match node.get? "type" with
  | none => throw (path.key "type") JsonType.all .missingType
  | some (.string token) => return .single (← typeOfToken token (path.key "type"))
  | some (.array tokens) =>
    if tokens.length < 2 then throw (path.key "type") JsonType.all (.tooFewTypes tokens.length)
    else return .union (← typesFrom (path.key "type") 0 [] tokens)
  | some other => throw (path.key "type") JsonType.all (.typeShape other.type)

def entriesFrom {α : Type} (path : Path) (type : JsonType) (strict : Bool) (select : Json → Option α)
    (position : Nat) : List Json → Except SchemaFault (List α)
  | [] => .ok []
  | value :: rest =>
    match select value with
    | some entry => return entry :: (← entriesFrom path type strict select (position + 1) rest)
    | none =>
      if strict then throw (path.index position) [type] (.enumEntry value type)
      else entriesFrom path type strict select (position + 1) rest

/-- The `enum` keyword as far as it concerns one type. Inside a union the entries of other types
are passed over, which may leave none. -/
def enum? {α : Type} (node : Members) (path : Path) (type : JsonType) (inUnion : Bool)
    (select : Json → Option α) : Except SchemaFault (Option (List α)) :=
  match node.get? "enum" with
  | none => .ok none
  | some (.array []) => throw (path.key "enum") [type] .emptyEnum
  | some (.array values) => return some (← entriesFrom (path.key "enum") type (!inUnion) select 0 values)
  | some other => throw (path.key "enum") [.array] (.enumShape other.type)

def namesFrom (path : Path) (position : Nat) : List Json → Except SchemaFault (List String)
  | [] => .ok []
  | .string name :: rest => return name :: (← namesFrom path (position + 1) rest)
  | _ :: _ => throw (path.index position) [.string] .requiredEntry

def requiredNames (node : Members) (path : Path) : Except SchemaFault (List String) :=
  match node.get? "required" with
  | none => .ok []
  | some (.array names) => namesFrom (path.key "required") 0 names
  | some other => throw (path.key "required") [.array] (.requiredShape other.type)

def integer? (value : Json) : Option Number :=
  value.number?.filter Number.isIntegral

abbrev Below := Json → (name : String) → (required : Bool) → Path → Except SchemaFault Attribute

def propertiesOf (below : Below) (required : List String) (path : Path) :
    List (String × Json) → Except SchemaFault (List Attribute)
  | [] => .ok []
  | (key, node) :: rest => do
    let property ← below node key (required.contains key) (path.key key)
    return property :: (← propertiesOf below required path rest)

def readAs (below : Below) (node : Members) (info : Info) (path : Path) (inUnion : Bool) :
    JsonType → Except SchemaFault Attribute
  | .boolean => return .boolean info (← enum? node path .boolean inUnion Json.bool?)
  | .integer => return .integer info (← enum? node path .integer inUnion integer?)
  | .number => return .number info (← enum? node path .number inUnion Json.number?)
  | .string => do
    let format ← text? node "format" path
    return .string info format (← enum? node path .string inUnion Json.string?)
  | .null => .ok (.null info)
  | .array =>
    match node.get? "items" with
    | none => .ok (.anyArray info)
    | some items => return .arrayOf info (← below items "items" info.required (path.key "items"))
  | .object => do
    let required ← requiredNames node path
    match node.get? "properties" with
    | none => return .anyObject info
    | some (.object properties) =>
      let properties ← propertiesOf below required (path.key "properties") properties
      return .record info (objectsLast Attribute.isObject properties)
    | some other => throw (path.key "properties") [.object] (.propertiesShape other.type)

def readEach (below : Below) (node : Members) (info : Info) (path : Path) :
    List JsonType → Except SchemaFault (List Attribute)
  | [] => .ok []
  | type :: rest => do
    let candidate ← readAs below node info path true type
    return candidate :: (← readEach below node info path rest)

/-- A union must leave some entry of its `enum` to some type, unless a type takes no `enum`. -/
def read (below : Below) (node : Members) (name : String) (required : Bool) (path : Path) :
    Except SchemaFault Attribute := do
  let title ← text? node "title" path
  let description ← text? node "description" path
  let info : Info := ⟨name, required, title, description⟩
  match ← declared node path with
  | .single type => readAs below node info path false type
  | .union types =>
    let candidates ← readEach below node info path types
    if types.all JsonType.supportsEnum && candidates.all fun candidate => candidate.allowed? == some [] then
      throw (path.key "enum") types (.enumOfNoType types)
    else return .union info candidates

end Node

namespace Attribute

def readLevels (limit : Nat) : (levels : Nat) → Node.Below
  | 0 => fun _ _ _ path => throw path [.object] (.tooDeep limit)
  | levels + 1 => fun document name required path =>
    match document with
    | .object node => Node.read (readLevels limit levels) node name required path
    | other => throw path [.object] (.notNode other.type)

/-- The attribute a document describes, at most `limit` levels below its root. -/
def ofDocument (limit : Nat) (document : Json) (name : String) (required : Bool) :
    Except SchemaFault Attribute :=
  readLevels limit (limit + 1) document name required []

def defaultLimit : Nat := 32

end Attribute

end Credential
