import Credential.Json.Basic
import Credential.Json.Lexeme

/-! Reading JSON text.

Lexemes are folded, one step each, into a raw tree that keeps repeated keys,
numbers and strings as written. A value is then made from the raw tree, which
refuses what has no value: unpaired surrogates, doubles out of range, and
nesting beyond a limit.
-/

set_option autoImplicit false

namespace Credential.Json

def lexemes? (text : List Char) : Option (List Lexeme) :=
  match text with
  | [] => some []
  | c :: rest =>
    if isBlank c then lexemes? rest
    else
      match found : scanLexeme (c :: rest) with
      | some (lexeme, rest) =>
        have := scanLexeme_shorter found
        (lexemes? rest).map (lexeme :: ·)
      | none => none
termination_by text.length
decreasing_by
  · exact Nat.lt_succ_self _
  · assumption

inductive Raw where
  | null
  | bool (value : Bool)
  | number (text : NumberText)
  | string (units : List Unit16)
  | array (items : List Raw)
  | object (members : List (List Unit16 × Raw))

/-- A container still open, its finished entries last first. -/
inductive Frame where
  | array (items : List Raw)
  | object (members : List (List Unit16 × Raw)) (key : List Unit16)

inductive Progress where
  | wanted (outer : List Frame)
  | firstItem (outer : List Frame)
  | firstKey (outer : List Frame)
  | nextKey (outer : List Frame) (members : List (List Unit16 × Raw))
  | colon (outer : List Frame) (members : List (List Unit16 × Raw)) (key : List Unit16)
  | finished (outer : List Frame) (value : Raw)

namespace Progress

def begin (outer : List Frame) : Lexeme → Option Progress
  | .openArray => some (.firstItem outer)
  | .openObject => some (.firstKey outer)
  | .null => some (.finished outer .null)
  | .bool value => some (.finished outer (.bool value))
  | .number text => some (.finished outer (.number text))
  | .string units => some (.finished outer (.string units))
  | .closeArray | .closeObject | .comma | .colon => none

def step : Progress → Lexeme → Option Progress
  | .wanted outer, lexeme => begin outer lexeme
  | .firstItem outer, .closeArray => some (.finished outer (.array []))
  | .firstItem outer, lexeme => begin (.array [] :: outer) lexeme
  | .firstKey outer, .closeObject => some (.finished outer (.object []))
  | .firstKey outer, .string key => some (.colon outer [] key)
  | .nextKey outer members, .string key => some (.colon outer members key)
  | .colon outer members key, .colon => some (.wanted (.object members key :: outer))
  | .finished (.array items :: outer) value, .comma => some (.wanted (.array (value :: items) :: outer))
  | .finished (.array items :: outer) value, .closeArray =>
    some (.finished outer (.array (value :: items).reverse))
  | .finished (.object members key :: outer) value, .comma =>
    some (.nextKey outer ((key, value) :: members))
  | .finished (.object members key :: outer) value, .closeObject =>
    some (.finished outer (.object ((key, value) :: members).reverse))
  | _, _ => none

def result? : Progress → Option Raw
  | .finished [] value => some value
  | _ => none

end Progress

def Raw.ofText? (text : String) : Option Raw := do
  let lexemes ← lexemes? text.toList
  let progress ← lexemes.foldlM Progress.step (.wanted [])
  progress.result?

def string16? (units : List Unit16) : Option String :=
  (joinUnits units).map String.ofList

mutual

/-- The value of a tree with at most `depth` levels of containers. Of repeated keys the last value
counts, at the place of the first. -/
def Raw.toJson? (depth : Nat) : Raw → Option Json
  | .null => some .null
  | .bool value => some (.bool value)
  | .number text => text.number?.map .number
  | .string units => (string16? units).map .string
  | .array items =>
    if depth = 0 then none else (Raw.itemsToJson? (depth - 1) items).map .array
  | .object members =>
    if depth = 0 then none
    else (Raw.membersToJson? (depth - 1) members).map fun pairs => .object (Members.ofPairs pairs)

def Raw.itemsToJson? (depth : Nat) : List Raw → Option (List Json)
  | [] => some []
  | item :: rest => do
    let item ← item.toJson? depth
    let rest ← Raw.itemsToJson? depth rest
    pure (item :: rest)

def Raw.membersToJson? (depth : Nat) : List (List Unit16 × Raw) → Option (List (String × Json))
  | [] => some []
  | (key, value) :: rest => do
    let key ← string16? key
    let value ← value.toJson? depth
    let rest ← Raw.membersToJson? depth rest
    pure ((key, value) :: rest)

end

def nestingLimit : Nat := 127

def read? (depth : Nat) (text : String) : Option Json := do
  (← Raw.ofText? text).toJson? depth

def ofText? (text : String) : Option Json :=
  read? nestingLimit text

end Credential.Json
