/-! The text of a YAML stream, character by character with its position. -/

set_option autoImplicit false

namespace Credential.Yaml

/-- A place in a stream: bytes of UTF-8 so far, line and column, all from zero. -/
structure Position where
  offset : Nat
  line : Nat
  column : Nat

def Position.next (position : Position) (c : Char) : Position :=
  { position with offset := position.offset + c.utf8Size, column := position.column + 1 }

def Position.after (position : Position) (text : List Char) : Position :=
  text.foldl Position.next position

def Position.newLine (position : Position) (width : Nat) : Position :=
  ⟨position.offset + width, position.line + 1, 0⟩

structure Source where
  position : Position
  rest : List Char

def isAllowed (c : Char) : Bool :=
  let code := c.toNat
  code == 0x9 || code == 0xA || code == 0xD || (0x20 ≤ code && code ≤ 0x7E) || code == 0x85 ||
    (0xA0 ≤ code && code ≤ 0xD7FF) || (0xE000 ≤ code && code ≤ 0xFFFD) || 0x10000 ≤ code

def isBreak (c : Char) : Bool :=
  c == '\r' || c == '\n' || c == '\u0085' || c == '\u2028' || c == '\u2029'

def isBlank (c : Char) : Bool :=
  c == ' ' || c == '\t'

def isWord (c : Char) : Bool :=
  ('a' ≤ c && c ≤ 'z') || ('A' ≤ c && c ≤ 'Z') || ('0' ≤ c && c ≤ '9') || c == '_' || c == '-'

def atGap : List Char → Bool
  | [] => true
  | c :: _ => isBlank c || isBreak c

/-- What a line end contributes to a text: the two separators of Unicode themselves, and a line feed otherwise. -/
def breakText (c : Char) : Char :=
  if c == '\u2028' || c == '\u2029' then c else '\n'

def atDocumentMark : List Char → Bool
  | '-' :: '-' :: '-' :: rest | '.' :: '.' :: '.' :: rest => atGap rest
  | _ => false

namespace Source

def ofText (text : List Char) : Source :=
  ⟨⟨0, 0, 0⟩, text⟩

def skip (source : Source) (width : Nat) : Source :=
  ⟨source.position.after (source.rest.take width), source.rest.drop width⟩

def moveTo (source : Source) (rest : List Char) : Source :=
  source.skip (source.rest.length - rest.length)

def skipWhile (test : Char → Bool) (source : Source) : Source :=
  source.skip (source.rest.takeWhile test).length

def skipBreak (source : Source) : Source :=
  match source.rest with
  | '\r' :: '\n' :: rest => ⟨source.position.newLine 2, rest⟩
  | c :: rest => if isBreak c then ⟨source.position.newLine c.utf8Size, rest⟩ else source
  | [] => source

def endLine? (source : Source) : Option Source :=
  let source := source.skipWhile isBlank
  let source := if source.rest.head? = some '#' then source.skipWhile (!isBreak ·) else source
  match source.rest with
  | [] => some source
  | c :: _ => if isBreak c then some source.skipBreak else none

end Source

end Credential.Yaml
