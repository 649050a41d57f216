import Credential.Json.Basic
import Credential.Yaml.Tag

/-! What the text of a YAML scalar means.

A plain scalar is null, a truth value, an integer or a decimal if it has that
form, and text otherwise. A tag can demand one of these forms.
-/

set_option autoImplicit false

namespace Credential.Yaml

def natural? (base : Nat) (text : List Char) : Option Nat :=
  if text.isEmpty then none
  else text.foldlM (fun value c => ((Json.hexDigit? c).filter (· < base)).map (base * value + ·)) 0

def magnitude? : List Char → Option Nat
  | '0' :: 'x' :: digits => natural? 16 digits
  | '0' :: 'o' :: digits => natural? 8 digits
  | '0' :: 'b' :: digits => natural? 2 digits
  | '0' :: _ :: _ => none
  | digits => natural? 10 digits

/-- An integer of at most 128 bits, unsigned or with a minus sign. -/
def integer? : List Char → Option Int
  | '-' :: text => do
    let value ← magnitude? text
    if value ≤ 0x80000000000000000000000000000000 then some (-value) else none
  | '+' :: text | text => do
    let value ← magnitude? text
    if value < 0x100000000000000000000000000000000 then some value else none

def magnitudeDouble? (negative : Bool) (text : List Char) : Option Double := do
  let whole := text.takeWhile Json.isDigit
  let (places, rest) := match text.dropWhile Json.isDigit with
    | '.' :: rest => (rest.takeWhile Json.isDigit, rest.dropWhile Json.isDigit)
    | rest => ([], rest)
  if whole.isEmpty && places.isEmpty then none
  let (exponent, rest) ← Json.scanExponent rest
  if !rest.isEmpty then none
  Double.ofDecimal? negative (Json.decimal (whole ++ places)) (exponent.getD 0 - places.length)

def double? : List Char → Option Double
  | '-' :: text => magnitudeDouble? true text
  | '+' :: text | text => magnitudeDouble? false text

def unboundedWords : List String :=
  [".inf", ".Inf", ".INF", "+.inf", "+.Inf", "+.INF", "-.inf", "-.Inf", "-.INF", ".nan", ".NaN", ".NAN"]

/-- A decimal. JSON has no infinities, so null stands for them. -/
def decimal? (text : String) : Option Json :=
  if unboundedWords.contains text then some .null
  else (double? text.toList).map fun value => .number (.double value)

def boolean? (text : String) : Option Bool :=
  if ["true", "True", "TRUE"].contains text then some true
  else if ["false", "False", "FALSE"].contains text then some false
  else none

def isNullWord (text : String) : Bool :=
  ["null", "Null", "NULL", "~"].contains text

/-- Whether a text is a run of digits with a sign or not, and has a leading zero. Such a text is no number. -/
def isPadded (text : List Char) : Bool :=
  match text with
  | '-' :: '0' :: digits | '+' :: '0' :: digits | '0' :: digits => !digits.isEmpty && digits.all Json.isDigit
  | _ => false

def plainValue? (text : String) : Option Json :=
  if text.isEmpty || isNullWord text then some .null
  else
    match boolean? text, integer? text.toList with
    | some value, _ => some (.bool value)
    | none, some value => (Number.ofInt? value).map .number
    | none, none =>
      if isPadded text.toList then some (.string text) else some ((decimal? text).getD (.string text))

/-- The value of a scalar. Tags of the application itself have no meaning here; among the others, those that
are not listed leave the text as it is, unless they have an exclamation mark in front all the same. -/
def scalarValue? (tag : Option Tag) (text : String) (plain : Bool) : Option Json :=
  match tag with
  | none => if plain then plainValue? text else some (.string text)
  | some tag =>
    if tag.isOwn then none
    else if tag = .standard "bool" then (boolean? text).map .bool
    else if tag = .standard "int" then
      ((integer? text.toList).bind Number.ofInt?).map .number
    else if tag = .standard "float" then decimal? text
    else if tag = .standard "null" then (if isNullWord text then some .null else none)
    else if plain && tag.beginsWithMark then plainValue? text
    else some (.string text)

end Credential.Yaml
