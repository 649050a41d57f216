import Credential.Number.Basic

/-! JSON values with ordered members.

The members of an object are a list of pairs in document order. Values that
come from text have no key twice in one object, which `DistinctKeys` states.
-/

set_option autoImplicit false

namespace Credential

inductive Json where
  | null
  | bool (value : Bool)
  | number (value : Number)
  | string (value : String)
  | array (items : List Json)
  | object (members : List (String × Json))
  deriving Inhabited

abbrev Members := List (String × Json)

namespace Members

def get? (members : Members) (key : String) : Option Json :=
  List.lookup key members

def keys (members : Members) : List String :=
  members.map Prod.fst

/-- Give `key` a value: at its place if it is there, at the end otherwise. -/
def insert : Members → String → Json → Members
  | [], key, value => [(key, value)]
  | (first, old) :: rest, key, value =>
    if first = key then (first, value) :: rest else (first, old) :: insert rest key value

def ofPairs (pairs : List (String × Json)) : Members :=
  pairs.foldl (fun members pair => members.insert pair.1 pair.2) []

end Members

namespace Json

def get? : Json → String → Option Json
  | .object members, key => Members.get? members key
  | _, _ => none

def string? : Json → Option String
  | .string value => some value
  | _ => none

def bool? : Json → Option Bool
  | .bool value => some value
  | _ => none

def number? : Json → Option Number
  | .number value => some value
  | _ => none

def object? : Json → Option Members
  | .object members => some members
  | _ => none

def strings (values : List String) : Json :=
  .array (values.map .string)

def isNull : Json → Bool
  | .null => true
  | _ => false

mutual

/-- No object of the value has a key twice. -/
def DistinctKeys : Json → Prop
  | .array items => DistinctKeysItems items
  | .object members => (members.map Prod.fst).Nodup ∧ DistinctKeysMembers members
  | _ => True

def DistinctKeysItems : List Json → Prop
  | [] => True
  | item :: rest => item.DistinctKeys ∧ DistinctKeysItems rest

def DistinctKeysMembers : List (String × Json) → Prop
  | [] => True
  | (_, value) :: rest => value.DistinctKeys ∧ DistinctKeysMembers rest

end

mutual

def decEq : (a b : Json) → Decidable (a = b)
  | .null, .null => isTrue rfl
  | .bool a, .bool b =>
    if h : a = b then isTrue (h ▸ rfl) else isFalse fun same => h (Json.bool.inj same)
  | .number a, .number b =>
    if h : a = b then isTrue (h ▸ rfl) else isFalse fun same => h (Json.number.inj same)
  | .string a, .string b =>
    if h : a = b then isTrue (h ▸ rfl) else isFalse fun same => h (Json.string.inj same)
  | .array a, .array b =>
    match decEqItems a b with
    | isTrue h => isTrue (h ▸ rfl)
    | isFalse h => isFalse fun same => h (Json.array.inj same)
  | .object a, .object b =>
    match decEqMembers a b with
    | isTrue h => isTrue (h ▸ rfl)
    | isFalse h => isFalse fun same => h (Json.object.inj same)
  | .null, .bool _ | .null, .number _ | .null, .string _ | .null, .array _ | .null, .object _
  | .bool _, .null | .bool _, .number _ | .bool _, .string _ | .bool _, .array _ | .bool _, .object _
  | .number _, .null | .number _, .bool _ | .number _, .string _ | .number _, .array _ | .number _, .object _
  | .string _, .null | .string _, .bool _ | .string _, .number _ | .string _, .array _ | .string _, .object _
  | .array _, .null | .array _, .bool _ | .array _, .number _ | .array _, .string _ | .array _, .object _
  | .object _, .null | .object _, .bool _ | .object _, .number _ | .object _, .string _
  | .object _, .array _ => isFalse nofun

def decEqItems : (a b : List Json) → Decidable (a = b)
  | [], [] => isTrue rfl
  | [], _ :: _ | _ :: _, [] => isFalse nofun
  | a :: as, b :: bs =>
    match decEq a b, decEqItems as bs with
    | isTrue h, isTrue t => isTrue (h ▸ t ▸ rfl)
    | isFalse h, _ => isFalse fun same => h (List.cons.inj same).1
    | _, isFalse t => isFalse fun same => t (List.cons.inj same).2

def decEqMembers : (a b : List (String × Json)) → Decidable (a = b)
  | [], [] => isTrue rfl
  | [], _ :: _ | _ :: _, [] => isFalse nofun
  | (k, a) :: as, (l, b) :: bs =>
    if keys : k = l then
      match decEq a b, decEqMembers as bs with
      | isTrue h, isTrue t => isTrue (keys ▸ h ▸ t ▸ rfl)
      | isFalse h, _ => isFalse fun same => h (Prod.mk.inj (List.cons.inj same).1).2
      | _, isFalse t => isFalse fun same => t (List.cons.inj same).2
    else isFalse fun same => keys (Prod.mk.inj (List.cons.inj same).1).1

end

instance : DecidableEq Json := decEq

end Json

end Credential
