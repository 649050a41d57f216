import Credential.Json.NumberText

/-! The lexemes of JSON text.

Numbers and strings are kept as written: whether a number is in range, and
whether escaped surrogates pair up, is decided only where the value is wanted.
-/

set_option autoImplicit false

namespace Credential.Json

/-- One element of a string: a character, or a code unit given by a numeric escape. -/
inductive Unit16 where
  | plain (c : Char)
  | escaped (unit : Nat)

/-- Pair up escaped surrogates; none if one stands alone. -/
def joinUnits : List Unit16 → Option (List Char)
  | [] => some []
  | .plain c :: rest => (joinUnits rest).map (c :: ·)
  | .escaped high :: .escaped low :: rest =>
    if 0xD800 ≤ high ∧ high < 0xDC00 then
      if 0xDC00 ≤ low ∧ low < 0xE000 then
        (joinUnits rest).map (Char.ofNat (0x10000 + (high - 0xD800) * 0x400 + (low - 0xDC00)) :: ·)
      else none
    else if 0xDC00 ≤ high ∧ high < 0xE000 then none
    else (joinUnits (.escaped low :: rest)).map (Char.ofNat high :: ·)
  | .escaped unit :: rest =>
    if 0xD800 ≤ unit ∧ unit < 0xE000 then none else (joinUnits rest).map (Char.ofNat unit :: ·)

def hexDigit? (c : Char) : Option Nat :=
  if '0' ≤ c ∧ c ≤ '9' then some (c.toNat - '0'.toNat)
  else if 'a' ≤ c ∧ c ≤ 'f' then some (c.toNat - 'a'.toNat + 10)
  else if 'A' ≤ c ∧ c ≤ 'F' then some (c.toNat - 'A'.toNat + 10)
  else none

def isDigit (c : Char) : Bool := '0' ≤ c && c ≤ '9'

def shortEscape? : Char → Option Char
  | '"' => some '"'
  | '\\' => some '\\'
  | '/' => some '/'
  | 'b' => some '\x08'
  | 'f' => some '\x0c'
  | 'n' => some '\n'
  | 'r' => some '\r'
  | 't' => some '\t'
  | _ => none

def scanString : List Char → Option (List Unit16 × List Char)
  | [] => none
  | '"' :: rest => some ([], rest)
  | '\\' :: 'u' :: a :: b :: c :: d :: rest =>
    match hexDigit? a, hexDigit? b, hexDigit? c, hexDigit? d with
    | some a, some b, some c, some d =>
      (scanString rest).map fun (units, rest) =>
        (.escaped (0x1000 * a + 0x100 * b + 0x10 * c + d) :: units, rest)
    | _, _, _, _ => none
  | '\\' :: c :: rest =>
    match shortEscape? c with
    | some c => (scanString rest).map fun (units, rest) => (.plain c :: units, rest)
    | none => none
  | c :: rest =>
    if c = '\\' ∨ c.toNat < 0x20 then none
    else (scanString rest).map fun (units, rest) => (.plain c :: units, rest)

def scanDigits (text : List Char) : Option (List Char × List Char) :=
  let digits := text.takeWhile isDigit
  if digits.isEmpty then none else some (digits, text.dropWhile isDigit)

def scanFraction : List Char → Option (Option (List Char) × List Char)
  | '.' :: rest => (scanDigits rest).map fun (digits, rest) => (some digits, rest)
  | rest => some (none, rest)

def scanExponent : List Char → Option (Option Int × List Char)
  | mark :: rest =>
    if mark = 'e' ∨ mark = 'E' then
      let (negative, rest) := match rest with
        | '-' :: rest => (true, rest)
        | '+' :: rest => (false, rest)
        | rest => (false, rest)
      (scanDigits rest).map fun (digits, rest) =>
        let value : Int := decimal digits
        (some (if negative then -value else value), rest)
    else some (none, mark :: rest)
  | [] => some (none, [])

/-- A number after its sign. A zero is not followed by further digits. -/
def scanNumber (negative : Bool) (text : List Char) : Option (NumberText × List Char) := do
  let (whole, rest) ← scanDigits text
  if whole.length > 1 ∧ whole.head? = some '0' then none
  let (fraction, rest) ← scanFraction rest
  let (exponent, rest) ← scanExponent rest
  pure (⟨negative, whole, fraction, exponent⟩, rest)

inductive Lexeme where
  | openArray
  | closeArray
  | openObject
  | closeObject
  | comma
  | colon
  | null
  | bool (value : Bool)
  | number (text : NumberText)
  | string (units : List Unit16)

def isBlank (c : Char) : Bool :=
  c == ' ' || c == '\n' || c == '\r' || c == '\t'

def scanLexeme : List Char → Option (Lexeme × List Char)
  | '[' :: rest => some (.openArray, rest)
  | ']' :: rest => some (.closeArray, rest)
  | '{' :: rest => some (.openObject, rest)
  | '}' :: rest => some (.closeObject, rest)
  | ',' :: rest => some (.comma, rest)
  | ':' :: rest => some (.colon, rest)
  | 'n' :: 'u' :: 'l' :: 'l' :: rest => some (.null, rest)
  | 't' :: 'r' :: 'u' :: 'e' :: rest => some (.bool true, rest)
  | 'f' :: 'a' :: 'l' :: 's' :: 'e' :: rest => some (.bool false, rest)
  | '"' :: rest => (scanString rest).map fun (units, rest) => (.string units, rest)
  | '-' :: rest => (scanNumber true rest).map fun (text, rest) => (.number text, rest)
  | text => (scanNumber false text).map fun (text, rest) => (.number text, rest)

theorem scanString_shorter (text : List Char) {units : List Unit16} {rest : List Char}
    (found : scanString text = some (units, rest)) : rest.length < text.length := by
  fun_induction scanString text generalizing units rest <;> grind [Option.map_eq_some_iff]

theorem scanDigits_shorter {text digits rest : List Char}
    (found : scanDigits text = some (digits, rest)) : rest.length < text.length := by
  have whole := congrArg List.length (List.takeWhile_append_dropWhile (p := isDigit) (l := text))
  cases taken : text.takeWhile isDigit <;> grind [scanDigits]

theorem scanFraction_length {text rest : List Char} {fraction : Option (List Char)}
    (found : scanFraction text = some (fraction, rest)) : rest.length ≤ text.length := by
  unfold scanFraction at found
  grind [→ scanDigits_shorter, Option.map_eq_some_iff]

theorem scanExponent_length {text rest : List Char} {exponent : Option Int}
    (found : scanExponent text = some (exponent, rest)) : rest.length ≤ text.length := by
  unfold scanExponent at found
  grind [→ scanDigits_shorter, Option.map_eq_some_iff]

theorem scanNumber_shorter {negative : Bool} {text rest : List Char} {number : NumberText}
    (found : scanNumber negative text = some (number, rest)) : rest.length < text.length := by
  simp only [scanNumber, Option.bind_eq_bind] at found
  grind [→ scanDigits_shorter, → scanFraction_length, → scanExponent_length, Option.bind_eq_some_iff]

theorem scanLexeme_shorter {text rest : List Char} {lexeme : Lexeme}
    (found : scanLexeme text = some (lexeme, rest)) : rest.length < text.length := by
  unfold scanLexeme at found
  grind [→ scanString_shorter, → scanNumber_shorter, Option.map_eq_some_iff]

end Credential.Json
