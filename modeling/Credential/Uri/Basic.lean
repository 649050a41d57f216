import Credential.Text.Blank
import Credential.Uri.Host

/-! Absolute URIs, kept as written.

A text is checked by the rules that browsers read addresses by, without a base:
it needs a scheme, and the authority of a special scheme needs a host. What
follows the authority is never at fault.
-/

set_option autoImplicit false

namespace Credential

namespace UriText

def isAlpha (c : Char) : Bool := ('a' ≤ c && c ≤ 'z') || ('A' ≤ c && c ≤ 'Z')

def isSchemeChar (c : Char) : Bool :=
  isAlpha c || Json.isDigit c || c == '+' || c == '-' || c == '.'

def lower (c : Char) : Char :=
  if 'A' ≤ c ∧ c ≤ 'Z' then Char.ofNat (c.toNat + 32) else c

/-- The text that is read: outer spaces and controls, and all tabs and line ends, are passed over. -/
def significant (text : List Char) : List Char :=
  let isOuter := fun c : Char => c.toNat ≤ 0x20
  let inner := ((text.dropWhile isOuter).reverse.dropWhile isOuter).reverse
  inner.filter fun c => c != '\t' && c != '\n' && c != '\r'

def scheme? (text : List Char) : Option (List Char × List Char) :=
  if !(text.head?.any isAlpha) then none
  else
    match text.dropWhile isSchemeChar with
    | ':' :: rest => some ((text.takeWhile isSchemeChar).map lower, rest)
    | _ => none

def endsAuthority (special : Bool) (c : Char) : Bool :=
  c == '/' || c == '?' || c == '#' || (special && c == '\\')

def splitUser (authority : List Char) : Option (List Char) × List Char :=
  let after := (authority.reverse.takeWhile (· != '@')).reverse
  if after.length < authority.length then
    (some (authority.take (authority.length - after.length - 1)), after)
  else (none, authority)

/-- Up to the colon before a port. Colons between brackets belong to the host. -/
def hostPart (bracket : Bool) : List Char → List Char
  | [] => []
  | c :: rest =>
    if c = ':' ∧ !bracket then []
    else c :: hostPart (if c = '[' then true else if c = ']' then false else bracket) rest

def isPort (digits : List Char) : Bool :=
  digits.all Json.isDigit && Json.decimal digits ≤ 65535

def authority (special : Bool) (text : List Char) : Except UriFlaw Unit := do
  let zone := text.takeWhile fun c => !endsAuthority special c
  let (user, place) := splitUser zone
  let named := user.any fun user => !user.isEmpty && user != [':']
  if user = some [] ∧ place.isEmpty ∧ zone.length < text.length then throw .emptyHost
  let host := hostPart false place
  let port := place.drop host.length
  if special then
    if host.isEmpty then throw .emptyHost
    Host.special host
  else Host.verbatim host
  if host.isEmpty ∧ !port.isEmpty then throw .emptyHost
  let number := if special then port.drop 1 else (port.drop 1).takeWhile (· != '\\')
  if !isPort number then throw .port
  if host.isEmpty ∧ named then throw .emptyHost

def isDriveLetter : List Char → Bool
  | [letter, mark] => isAlpha letter && (mark == ':' || mark == '|')
  | _ => false

/-- Check what follows the scheme of a file. A drive letter is no host. -/
def file : List Char → Except UriFlaw Unit
  | a :: b :: rest =>
    if (a = '/' ∨ a = '\\') ∧ (b = '/' ∨ b = '\\') then
      let host := rest.takeWhile fun c => !endsAuthority true c
      if host.isEmpty || isDriveLetter host then .ok () else Host.special host
    else .ok ()
  | _ => .ok ()

def specialSchemes : List (List Char) :=
  ["http".toList, "https".toList, "ws".toList, "wss".toList, "ftp".toList]

def check (text : List Char) : Except UriFlaw Unit :=
  match scheme? (significant text) with
  | none => .error .noScheme
  | some (scheme, rest) =>
    if scheme = "file".toList then file rest
    else if specialSchemes.contains scheme then
      authority true (rest.dropWhile fun c => c == '/' || c == '\\')
    else
      match rest with
      | '/' :: '/' :: rest => authority false rest
      | _ => .ok ()

end UriText

def uriFault? (text : String) : Option UriFault :=
  if isBlankText text then some .blank
  else
    match UriText.check text.toList with
    | .ok () => none
    | .error flaw => some (.invalid text flaw)

structure Uri where
  text : String
  valid : uriFault? text = none

namespace Uri

def ofText (text : String) : Except UriFault Uri :=
  match valid : uriFault? text with
  | none => .ok ⟨text, valid⟩
  | some fault => .error fault

def append (uri : Uri) (suffix : String) : Except UriFault Uri :=
  ofText (uri.text ++ suffix)

end Uri

end Credential
