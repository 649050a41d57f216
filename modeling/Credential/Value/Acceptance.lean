import Credential.Value.Basic
import Credential.Value.Rejection

/-! Accepting a value by an attribute.

Members of an object are checked in their own order, and only when all of them
pass are the properties considered that were not supplied. A `null` counts as
no value, unless the attribute admits `null`. A union takes its first candidate
that accepts the value, and says nothing about why the others did not.
-/

set_option autoImplicit false

namespace Credential

namespace Rejection

def throw {α : Type} (path : Path) (conflict : Conflict) : Except Rejection α :=
  .error ⟨path, conflict⟩

end Rejection

open Rejection (throw)

namespace Attribute

def absentAs (field : Attribute) (type : JsonType) (path : Path) : Except Rejection Value :=
  if field.required then throw path .missing else .ok (.absent field type)

mutual

def acceptAbsent (path : Path) : Attribute → Except Rejection Value
  | .union info candidates =>
    if info.required then throw path .missing
    else
      match firstAbsent path candidates with
      | some winner => .ok (.union (.union info candidates) winner)
      | none => throw path (.noMatchingType (candidates.filterMap type?))
  | .boolean info allowed => absentAs (.boolean info allowed) .boolean path
  | .integer info allowed => absentAs (.integer info allowed) .integer path
  | .number info allowed => absentAs (.number info allowed) .number path
  | .string info format allowed => absentAs (.string info format allowed) .string path
  | .null info => absentAs (.null info) .null path
  | .anyArray info => absentAs (.anyArray info) .array path
  | .arrayOf info items => absentAs (.arrayOf info items) .array path
  | .anyObject info => absentAs (.anyObject info) .object path
  | .record info properties => absentAs (.record info properties) .object path

def firstAbsent (path : Path) : List Attribute → Option Value
  | [] => none
  | candidate :: rest =>
    match acceptAbsent path candidate with
    | .ok value => some value
    | .error _ => firstAbsent path rest

end

/-- Whether the document is `null` in the place of a value. -/
def lacks (field : Attribute) (document : Json) : Bool :=
  document.isNull && !field.admitsNull

def mismatch (path : Path) (expected : JsonType) (document : Json) : Except Rejection Value :=
  throw path (.typeMismatch expected document.type)

def within {α : Type} (allowed : Option (List α)) (accepts : α → Bool) (toJson : α → Json)
    (path : Path) (document : Json) (node : Value) : Except Rejection Value :=
  match allowed with
  | none => .ok node
  | some values =>
    if values.any accepts then .ok node else throw path (.outsideEnum document (values.map toJson))

/-- The nodes of all declared properties, where `supplied` has those of the members. Only the first
property of a name takes the member of that name. -/
def complete (path : Path) (supplied : List Value) (before : List String) :
    List Attribute → Except Rejection (List Value)
  | [] => .ok []
  | property :: rest => do
    let given :=
      if property.name ∈ before then none else supplied.find? fun value => value.name == property.name
    let node ← match given with
      | some value => .ok value
      | none => acceptAbsent (path.key property.name) property
    return node :: (← complete path supplied (property.name :: before) rest)

mutual

/-- Accept a supplied document. A `null` is taken as the value `null` here. -/
def acceptSupplied : Attribute → Json → Path → Except Rejection Value
  | .boolean info allowed, document, path =>
    match document with
    | .bool value =>
      within allowed (· == value) .bool path document (.boolean (.boolean info allowed) value)
    | _ => mismatch path .boolean document
  | .integer info allowed, document, path =>
    match document with
    | .number value =>
      if value.isIntegral then
        within allowed (·.agrees value) .number path document (.integer (.integer info allowed) value)
      else mismatch path .integer document
    | _ => mismatch path .integer document
  | .number info allowed, document, path =>
    match document with
    | .number value =>
      within allowed (·.agrees value) .number path document (.number (.number info allowed) value)
    | _ => mismatch path .number document
  | .string info format allowed, document, path =>
    match document with
    | .string value =>
      within allowed (· == value) .string path document (.string (.string info format allowed) value)
    | _ => mismatch path .string document
  | .null info, document, path =>
    match document with
    | .null => .ok (.null (.null info))
    | _ => mismatch path .null document
  | .anyArray info, document, path =>
    match document with
    | .array items => .ok (.anyArray (.anyArray info) items)
    | _ => mismatch path .array document
  | .arrayOf info schema, document, path =>
    match document with
    | .array items => do
      let nodes ← items.zipIdx.mapM fun (item, position) =>
        if schema.lacks item then acceptAbsent (path.index position) schema
        else acceptSupplied schema item (path.index position)
      return .arrayOf (.arrayOf info schema) nodes
    | _ => mismatch path .array document
  | .anyObject info, document, path =>
    match document with
    | .object members => .ok (.anyObject (.anyObject info) members)
    | _ => mismatch path .object document
  | .record info properties, document, path =>
    match document with
    | .object members => do
      let supplied ← members.mapM fun (key, member) => acceptMember path key member properties
      let nodes ← complete path supplied [] properties
      return .record (.record info properties) (objectsLast (fun node => node.field.isObject) nodes)
    | _ => mismatch path .object document
  | .union info candidates, document, path =>
    match firstSupplied document path candidates with
    | some winner => .ok (.union (.union info candidates) winner)
    | none => throw path (.noMatchingType (candidates.filterMap type?))

def acceptMember (path : Path) (key : String) (member : Json) : List Attribute → Except Rejection Value
  | [] => throw path (.unknownKey key)
  | property :: rest =>
    if property.name = key then
      if property.lacks member then acceptAbsent (path.key key) property
      else acceptSupplied property member (path.key key)
    else acceptMember path key member rest

def firstSupplied (document : Json) (path : Path) : List Attribute → Option Value
  | [] => none
  | candidate :: rest =>
    match acceptSupplied candidate document path with
    | .ok value => some value
    | .error _ => firstSupplied document path rest

end

def acceptAt (field : Attribute) (document : Option Json) (path : Path) : Except Rejection Value :=
  match document with
  | none => field.acceptAbsent path
  | some document =>
    if field.lacks document then field.acceptAbsent path else field.acceptSupplied document path

def accept (field : Attribute) (document : Option Json) : Except Rejection Value :=
  field.acceptAt document []

end Attribute

end Credential
