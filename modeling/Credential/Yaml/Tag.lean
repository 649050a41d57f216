import Credential.Json.Lexeme
import Credential.Yaml.Source

/-! Tags of YAML nodes.

A tag is written as a handle and a suffix, or as a whole between angle brackets.
Percent escapes in it stand for bytes, which have the outline of UTF-8 but need
not be UTF-8; the first zero byte ends the text it stands in.
-/

set_option autoImplicit false

namespace Credential.Yaml

structure Tag where
  bytes : List UInt8
  deriving DecidableEq

namespace Tag

def ofText (text : String) : Tag :=
  ⟨text.toByteArray.toList⟩

def ofBytes (bytes : List UInt8) : Tag :=
  ⟨bytes.takeWhile (· != 0)⟩

def append (meaning suffix : Tag) : Tag :=
  ⟨meaning.bytes ++ suffix.bytes⟩

def isEmpty (tag : Tag) : Bool :=
  tag.bytes.isEmpty

def beginsWithMark (tag : Tag) : Bool :=
  tag.bytes.head? == some '!'.toUInt8

/-- Whether the tag belongs to the application: an exclamation mark in front of text, which may be empty. -/
def isOwn (tag : Tag) : Bool :=
  tag.beginsWithMark && ByteArray.validateUTF8 ⟨tag.bytes.tail.toArray⟩

def standard (name : String) : Tag :=
  ofText ("tag:yaml.org,2002:" ++ name)

end Tag

def sequenceLength? (byte : Nat) : Option Nat :=
  if byte < 0x80 then some 1
  else if 0xC0 ≤ byte ∧ byte < 0xE0 then some 2
  else if 0xE0 ≤ byte ∧ byte < 0xF0 then some 3
  else if 0xF0 ≤ byte ∧ byte < 0xF8 then some 4
  else none

/-- Scan the bytes of a tag, of which those so far come last first; `left` bytes of an escaped sequence
are to come. -/
def scanTag (verbatim : Bool) (left : Nat) (done : List UInt8) : List Char → Option (List UInt8 × List Char)
  | '%' :: high :: low :: rest => do
    let byte := 16 * (← Json.hexDigit? high) + (← Json.hexDigit? low)
    let done := UInt8.ofNat byte :: done
    if left = 0 then scanTag verbatim ((← sequenceLength? byte) - 1) done rest
    else if 0x80 ≤ byte ∧ byte < 0xC0 then scanTag verbatim (left - 1) done rest
    else none
  | c :: rest =>
    if left > 0 ∨ c = '%' then none
    else if isWord c || [';', '/', '?', ':', '@', '&', '=', '+', '$', '.', '!', '~', '*', '\'', '(', ')'].contains c ||
        (verbatim && [',', '[', ']'].contains c) then
      scanTag verbatim 0 (c.toUInt8 :: done) rest
    else some (done.reverse, c :: rest)
  | [] => if left > 0 then none else some (done.reverse, [])

def scanTagPart? (verbatim : Bool) (text : List Char) : Option (Tag × List Char) := do
  let (bytes, rest) ← scanTag verbatim 0 [] text
  if bytes.isEmpty then none else some (Tag.ofBytes bytes, rest)

/-- The handle and the suffix of a tag, and what follows it. A tag without a handle stands for itself, and
so does a lone exclamation mark. -/
def tagParts? : List Char → Option (String × Tag × List Char)
  | '!' :: '<' :: text => do
    match ← scanTagPart? true text with
    | (suffix, '>' :: rest) => some ("", suffix, rest)
    | _ => none
  | '!' :: text =>
    let word := text.takeWhile isWord
    match text.dropWhile isWord with
    | '!' :: rest =>
      (scanTagPart? false rest).map fun (suffix, rest) => (String.ofList ('!' :: word ++ ['!']), suffix, rest)
    | rest => do
      let (bytes, rest) ← scanTag false 0 (word.map Char.toUInt8).reverse rest
      let suffix := Tag.ofBytes bytes
      if suffix.isEmpty then some ("", Tag.ofText "!", rest) else some ("!", suffix, rest)
  | _ => none

end Credential.Yaml
