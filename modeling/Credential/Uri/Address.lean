import Credential.Json.Lexeme
import Credential.Text.Pieces
import Credential.Uri.Fault

/-! IPv4 and IPv6 addresses in the host of a URI. -/

set_option autoImplicit false

namespace Credential

open Json (hexDigit? isDigit)

namespace Ipv4

/-- A part of an address: a number in range, a number that is not, or no number. -/
inductive Part where
  | number (value : Nat)
  | tooLarge
  | noNumber
  deriving DecidableEq

def digitsValue (base : Nat) (digits : List Char) : Nat :=
  digits.foldl (fun value c => base * value + (hexDigit? c).getD 0) 0

def ofDigits (base : Nat) (digits : List Char) : Part :=
  if digits.all fun c => (hexDigit? c).any (· < base) then
    let value := digitsValue base digits
    if value < 0x100000000 then .number value else .tooLarge
  else .noNumber

/-- A part is hexadecimal after `0x`, octal after another `0`, and decimal otherwise. -/
def part : List Char → Part
  | [] => .noNumber
  | '0' :: 'x' :: digits | '0' :: 'X' :: digits => ofDigits 16 digits
  | '0' :: c :: digits => ofDigits 8 (c :: digits)
  | digits => ofDigits 10 digits

def parts (host : List Char) : List (List Char) :=
  let all := pieces '.' host
  if all.length > 1 ∧ all.getLast? = some [] then all.dropLast else all

/-- Whether the last part is a number, so that the host has to be an address. -/
def endsInNumber (host : List Char) : Bool :=
  match (parts host).getLast? with
  | none => false
  | some last => (!last.isEmpty && last.all isDigit) || part last != .noNumber

/-- All parts are numbers; all but the last are bytes, and the last fills the bytes left. -/
def isAddress (host : List Char) : Bool :=
  let values := (parts host).map part
  match values.getLast? with
  | some (.number last) =>
    values.length ≤ 4 &&
      (values.dropLast.all fun value => match value with
        | .number value => value ≤ 255
        | _ => false) &&
      last < Nat.pow 256 (5 - values.length)
  | _ => false

end Ipv4

namespace Ipv6

def isByte (digits : List Char) : Bool :=
  !digits.isEmpty && digits.all isDigit &&
    (digits.length == 1 || digits.head? != some '0') && Json.decimal digits ≤ 255

def isDotted (text : List Char) : Bool :=
  let bytes := pieces '.' text
  bytes.length == 4 && bytes.all isByte

def isPiece (digits : List Char) : Bool :=
  1 ≤ digits.length && digits.length ≤ 4 && digits.all fun c => (hexDigit? c).isSome

def count? (dottedTail : Bool) : List (List Char) → Option Nat
  | [] => some 0
  | [last] =>
    if isPiece last then some 1 else if dottedTail && isDotted last then some 2 else none
  | piece :: rest =>
    if isPiece piece then (count? dottedTail rest).map (· + 1) else none

def split : List Char → List Char × Option (List Char)
  | [] => ([], none)
  | ':' :: ':' :: rest => ([], some rest)
  | c :: rest =>
    let (before, after) := split rest
    (c :: before, after)

def colonPieces (text : List Char) : List (List Char) :=
  if text.isEmpty then [] else pieces ':' text

def isAddress (text : List Char) : Bool :=
  match split text with
  | (whole, none) => count? true (colonPieces whole) == some 8
  | (before, some after) =>
    match count? false (colonPieces before), count? true (colonPieces after) with
    | some left, some right => left + right ≤ 7
    | _, _ => false

end Ipv6

end Credential
