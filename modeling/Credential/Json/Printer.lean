import Credential.Json.Basic
import Credential.Number.Shortest

/-! The text of JSON values: compact, and indented by two spaces.

Strings escape quotes, backslashes and control characters only. Doubles are
written with the fewest digits that read back, positionally for moderate
exponents and always so that they cannot be read as integers.
-/

set_option autoImplicit false

namespace Credential

/-- When a double is written positionally, by the decimal exponent of its leading digit. -/
structure DoubleLayout where
  least : Int
  greatest : Int

namespace DoubleLayout

/-- Digits with the point after the first `1 + exponent` of them, padded by zeros on either side. -/
def positional (digits : List Char) (exponent : Int) : List Char :=
  if exponent < 0 then
    '0' :: '.' :: List.replicate (-exponent - 1).toNat '0' ++ digits
  else
    let whole := exponent.toNat + 1
    let fraction := digits.drop whole
    digits.take whole ++ List.replicate (whole - digits.length) '0' ++
      '.' :: (if fraction.isEmpty then ['0'] else fraction)

def scientific (digits : List Char) (exponent : Int) : List Char :=
  let fraction := digits.drop 1
  digits.take 1 ++ (if fraction.isEmpty then [] else '.' :: fraction) ++
    'e' :: (if exponent < 0 then '-' else '+') :: Nat.toDigits 10 exponent.natAbs

def write (layout : DoubleLayout) (value : Double) : String :=
  let decimal := value.shortest
  let digits := Nat.toDigits 10 decimal.digits
  let exponent := decimal.exponent + digits.length - 1
  let body :=
    if layout.least ≤ exponent ∧ exponent ≤ layout.greatest then positional digits exponent
    else scientific digits exponent
  String.ofList (if value.negative then '-' :: body else body)

end DoubleLayout

/-- Doubles of a document are positional from `0.00001` up to sixteen whole digits. -/
def Json.doubleLayout : DoubleLayout := ⟨-5, 15⟩

def Number.text : Number → String
  | .integer value _ =>
    String.ofList ((if value < 0 then ['-'] else []) ++ Nat.toDigits 10 value.natAbs)
  | .double value => Json.doubleLayout.write value

namespace Json

def escape (c : Char) : List Char :=
  if c = '"' then ['\\', '"']
  else if c = '\\' then ['\\', '\\']
  else if c = '\x08' then ['\\', 'b']
  else if c = '\x0c' then ['\\', 'f']
  else if c = '\n' then ['\\', 'n']
  else if c = '\r' then ['\\', 'r']
  else if c = '\t' then ['\\', 't']
  else if c.toNat < 0x20 then
    ['\\', 'u', '0', '0', Nat.digitChar (c.toNat / 16), Nat.digitChar (c.toNat % 16)]
  else [c]

def quote (text : String) : String :=
  String.ofList ('"' :: text.toList.flatMap escape ++ ['"'])

mutual

def compact : Json → String
  | .null => "null"
  | .bool true => "true"
  | .bool false => "false"
  | .number value => value.text
  | .string value => quote value
  | .array items => "[" ++ String.intercalate "," (compactItems items) ++ "]"
  | .object members => "\x7b" ++ String.intercalate "," (compactMembers members) ++ "\x7d"

def compactItems : List Json → List String
  | [] => []
  | item :: rest => item.compact :: compactItems rest

def compactMembers : List (String × Json) → List String
  | [] => []
  | (key, value) :: rest => (quote key ++ ":" ++ value.compact) :: compactMembers rest

end

def block (opening closing margin : String) (entries : List String) : String :=
  if entries.isEmpty then opening ++ closing
  else
    let inner := "\n" ++ margin ++ "  "
    opening ++ inner ++ String.intercalate ("," ++ inner) entries ++ "\n" ++ margin ++ closing

mutual

/-- The text with one entry a line; `margin` is the blank before the value's own lines. -/
def indented (margin : String) : Json → String
  | .array items => block "[" "]" margin (indentedItems (margin ++ "  ") items)
  | .object members => block "\x7b" "\x7d" margin (indentedMembers (margin ++ "  ") members)
  | .null => "null"
  | .bool true => "true"
  | .bool false => "false"
  | .number value => value.text
  | .string value => quote value

def indentedItems (margin : String) : List Json → List String
  | [] => []
  | item :: rest => item.indented margin :: indentedItems margin rest

def indentedMembers (margin : String) : List (String × Json) → List String
  | [] => []
  | (key, value) :: rest =>
    (quote key ++ ": " ++ value.indented margin) :: indentedMembers margin rest

end

def pretty (value : Json) : String :=
  value.indented ""

end Json

end Credential
