import Credential.Yaml.Scalar
import Credential.Yaml.Tag

/-! The tokens of a YAML stream.

Block structure is made explicit: where a line is indented further, a token
opens a block, and where indentation falls back, tokens close blocks. Whether a
node is the key of a mapping shows only at the colon after it, so a slot is
kept in front of every node that may be one, and the colon fills it.
-/

set_option autoImplicit false

namespace Credential.Yaml

inductive Token where
  | version (major minor : Nat)
  | tagHandle (handle : String) (meaning : Tag)
  | documentStart
  | documentEnd
  | blockSequence
  | blockMapping
  | blockEnd
  | flowSequence
  | flowSequenceEnd
  | flowMapping
  | flowMappingEnd
  | blockEntry
  | flowEntry
  | key
  | value
  | alias (name : String)
  | anchor (name : String)
  | tag (handle : String) (suffix : Tag)
  | scalar (text : String) (plain : Bool)
  deriving DecidableEq

inductive Entry where
  | token (token : Token)
  | slot (number : Nat)

/-- A node that may turn out to be a key. It is required to if it starts a line of its block. -/
structure Candidate where
  slot : Nat
  required : Bool
  position : Position

/-- The state between tokens. Entries are last first. There is one candidate for the block context and
for each open flow collection, the innermost first. -/
structure Lexer where
  source : Source
  entries : List Entry
  slots : Nat
  filled : List (Nat × List Token)
  indent : Int
  outer : List Int
  candidates : List (Option Candidate)
  keyAllowed : Bool

namespace Lexer

def start (source : Source) : Lexer :=
  ⟨source, [], 0, [], -1, [], [none], true⟩

def inFlow (lexer : Lexer) : Bool :=
  lexer.candidates.length > 1

def column (lexer : Lexer) : Nat :=
  lexer.source.position.column

def emit (lexer : Lexer) (token : Token) : Lexer :=
  { lexer with entries := .token token :: lexer.entries }

def take (lexer : Lexer) (width : Nat) (token : Token) : Lexer :=
  { lexer.emit token with source := lexer.source.skip width }

def dropCandidate? (lexer : Lexer) : Option Lexer :=
  match lexer.candidates with
  | some candidate :: rest =>
    if candidate.required then none else some { lexer with candidates := none :: rest }
  | _ => some lexer

/-- Give up the candidates that are too far back: on an earlier line, or more than 1024 bytes ago. -/
def dropStale? (lexer : Lexer) : Option Lexer := do
  let now := lexer.source.position
  let candidates ← lexer.candidates.mapM fun candidate =>
    match candidate with
    | none => some none
    | some candidate =>
      if candidate.position.line < now.line ∨ candidate.position.offset + 1024 < now.offset then
        if candidate.required then none else some none
      else some (some candidate)
  return { lexer with candidates := candidates }

def markCandidate? (lexer : Lexer) : Option Lexer :=
  if lexer.keyAllowed then do
    let required := !lexer.inFlow && lexer.indent == (lexer.column : Int)
    let lexer ← lexer.dropCandidate?
    return { lexer with
      entries := .slot lexer.slots :: lexer.entries
      slots := lexer.slots + 1
      candidates := some ⟨lexer.slots, required, lexer.source.position⟩ :: lexer.candidates.tail }
  else some lexer

def opensBlock (lexer : Lexer) (column : Nat) : Bool :=
  !lexer.inFlow && decide (lexer.indent < column)

def indentTo (lexer : Lexer) (column : Nat) : Lexer :=
  { lexer with indent := column, outer := lexer.indent :: lexer.outer }

def openBlock (lexer : Lexer) (column : Nat) (token : Token) : Lexer :=
  if lexer.opensBlock column then (lexer.indentTo column).emit token else lexer

def closeBlocks (entries : List Entry) (indent column : Int) : List Int → List Entry × Int × List Int
  | [] => (entries, indent, [])
  | next :: outer =>
    if column < indent then closeBlocks (.token .blockEnd :: entries) next column outer
    else (entries, indent, next :: outer)

def dedent (lexer : Lexer) (column : Int) : Lexer :=
  if lexer.inFlow then lexer
  else
    let (entries, indent, outer) := closeBlocks lexer.entries lexer.indent column lexer.outer
    { lexer with entries := entries, indent := indent, outer := outer }

/-- Pass over blanks, comments and line ends. In the block context a line end allows a key, and a tab does
not indent. A byte order mark may begin a line, and takes up a column of it. -/
def skipGap (inFlow : Bool) (position : Position) (keyAllowed inComment : Bool) :
    List Char → Source × Bool
  | [] => (⟨position, []⟩, keyAllowed)
  | '\r' :: '\n' :: rest => skipGap inFlow (position.newLine 2) (keyAllowed || !inFlow) false rest
  | c :: rest =>
    if isBreak c then skipGap inFlow (position.newLine c.utf8Size) (keyAllowed || !inFlow) false rest
    else if inComment || c == ' ' || (c == '\ufeff' && position.column == 0) ||
        ((inFlow || !keyAllowed) && c == '\t') then
      skipGap inFlow (position.next c) keyAllowed inComment rest
    else if c == '#' then skipGap inFlow (position.next c) keyAllowed true rest
    else (⟨position, c :: rest⟩, keyAllowed)

def gap (lexer : Lexer) : Lexer :=
  let source := lexer.source
  let (source, keyAllowed) := skipGap lexer.inFlow source.position lexer.keyAllowed false source.rest
  { lexer with source := source, keyAllowed := keyAllowed }

def toplevel? (lexer : Lexer) : Option Lexer := do
  let lexer ← (lexer.dedent (-1)).dropCandidate?
  return { lexer with keyAllowed := false }

def flowStart? (lexer : Lexer) (token : Token) : Option Lexer := do
  let lexer ← lexer.markCandidate?
  return { lexer.take 1 token with candidates := none :: lexer.candidates, keyAllowed := true }

def flowEnd? (lexer : Lexer) (token : Token) : Option Lexer := do
  let lexer ← lexer.dropCandidate?
  let candidates := if lexer.inFlow then lexer.candidates.tail else lexer.candidates
  return { lexer.take 1 token with candidates := candidates, keyAllowed := false }

def flowEntry? (lexer : Lexer) : Option Lexer := do
  let lexer ← lexer.dropCandidate?
  return { lexer.take 1 .flowEntry with keyAllowed := true }

def blockEntry? (lexer : Lexer) : Option Lexer := do
  if !lexer.inFlow && !lexer.keyAllowed then none
  let lexer ← (lexer.openBlock lexer.column .blockSequence).dropCandidate?
  return { lexer.take 1 .blockEntry with keyAllowed := true }

def key? (lexer : Lexer) : Option Lexer := do
  if !lexer.inFlow && !lexer.keyAllowed then none
  let lexer ← (lexer.openBlock lexer.column .blockMapping).dropCandidate?
  return { lexer.take 1 .key with keyAllowed := !lexer.inFlow }

/-- A colon. It makes a key of the candidate, or follows a key that was announced. -/
def value? (lexer : Lexer) : Option Lexer :=
  match lexer.candidates with
  | some candidate :: rest =>
    let column := candidate.position.column
    let opens := lexer.opensBlock column
    let lexer := if opens then lexer.indentTo column else lexer
    let tokens : List Token := if opens then [.blockMapping, .key] else [.key]
    some { lexer.take 1 .value with
      filled := (candidate.slot, tokens) :: lexer.filled
      candidates := none :: rest
      keyAllowed := false }
  | _ =>
    if !lexer.inFlow && !lexer.keyAllowed then none
    else
      let lexer := lexer.openBlock lexer.column .blockMapping
      some { lexer.take 1 .value with keyAllowed := !lexer.inFlow }

def endsName (text : List Char) : Bool :=
  atGap text || text.head?.any ['?', ':', ',', ']', '}', '%', '@', '`'].contains

def name? (lexer : Lexer) (token : String → Token) : Option Lexer := do
  let lexer ← lexer.markCandidate?
  let source := lexer.source.skip 1
  let name := source.rest.takeWhile isWord
  let source := source.skipWhile isWord
  if name.isEmpty || !endsName source.rest then none
  return { lexer.emit (token (String.ofList name)) with source := source, keyAllowed := false }

def tag? (lexer : Lexer) : Option Lexer := do
  let lexer ← lexer.markCandidate?
  let (handle, suffix, rest) ← tagParts? lexer.source.rest
  if !atGap rest && !(lexer.inFlow && rest.head? == some ',') then none
  return { lexer.emit (.tag handle suffix) with source := lexer.source.moveTo rest, keyAllowed := false }

def blockHeader? (text : List Char) : Option (Chomp × Nat × List Char) :=
  let chomp? (c : Char) : Option Chomp := if c = '+' then some .keep else if c = '-' then some .strip else none
  let digit? (c : Char) : Option Nat := if '0' ≤ c ∧ c ≤ '9' then some (c.toNat - '0'.toNat) else none
  match text with
  | [] => some (.clip, 0, [])
  | c :: rest =>
    match chomp? c, digit? c with
    | some chomp, _ =>
      match rest.head?.bind digit? with
      | some 0 => none
      | some indent => some (chomp, indent, rest.tail)
      | none => some (chomp, 0, rest)
    | none, some 0 => none
    | none, some indent =>
      match rest.head?.bind chomp? with
      | some chomp => some (chomp, indent, rest.tail)
      | none => some (.clip, indent, rest)
    | none, none => some (.clip, 0, text)

def blockScalar? (lexer : Lexer) (folded : Bool) : Option Lexer := do
  let lexer ← lexer.dropCandidate?
  let header := lexer.source.skip 1
  let (chomp, increment, rest) ← blockHeader? header.rest
  let source ← (header.moveTo rest).endLine?
  let indent := if increment = 0 then 0 else (max lexer.indent 0).toNat + increment
  let scanned ← scanBlock ⟨folded, chomp⟩ lexer.indent indent 0 source.position false ⟨[], [], [], false⟩ source.rest
  return { lexer.emit (.scalar (String.ofList scanned.text) false) with
    source := scanned.source, keyAllowed := true }

def quotedScalar? (lexer : Lexer) (double : Bool) : Option Lexer := do
  let lexer ← lexer.markCandidate?
  let source := lexer.source.skip 1
  let scanned ←
    if double then scanDouble source.position .empty [] .text source.rest
    else scanSingle source.position .empty [] source.rest
  return { lexer.emit (.scalar (String.ofList scanned.text) false) with
    source := scanned.source, keyAllowed := false }

def plainScalar? (lexer : Lexer) : Option Lexer := do
  let lexer ← lexer.markCandidate?
  let source := lexer.source
  let scanned ← scanPlain lexer.inFlow (lexer.indent + 1) source.position false .empty [] source.rest
  return { lexer.emit (.scalar (String.ofList scanned.text) true) with
    source := scanned.source, keyAllowed := scanned.broken }

def versionNumber? (source : Source) : Option (Nat × Source) :=
  let digits := source.rest.takeWhile Json.isDigit
  if digits.isEmpty || digits.length > 9 then none
  else some (Json.decimal digits, source.skipWhile Json.isDigit)

def directive? (lexer : Lexer) : Option Lexer := do
  let lexer ← lexer.toplevel?
  let source := lexer.source.skip 1
  let name := source.rest.takeWhile isWord
  let source := source.skipWhile isWord
  if !atGap source.rest then none
  let source := source.skipWhile isBlank
  if name = "YAML".toList then
    let (major, source) ← versionNumber? source
    if source.rest.head? ≠ some '.' then none
    let (minor, source) ← versionNumber? (source.skip 1)
    return { lexer.emit (.version major minor) with source := ← source.endLine? }
  else if name = "TAG".toList then
    if source.rest.head? ≠ some '!' then none
    let word := source.rest.tail.takeWhile isWord
    let after := source.rest.tail.dropWhile isWord
    let handle ←
      if after.head? = some '!' then some ('!' :: word ++ ['!']) else if word.isEmpty then some ['!'] else none
    let source := source.skip handle.length
    if !(source.rest.head?.any isBlank) then none
    let source := source.skipWhile isBlank
    let (meaning, rest) ← scanTagPart? true source.rest
    if !atGap rest then none
    return { lexer.emit (.tagHandle (String.ofList handle) meaning) with source := ← (source.moveTo rest).endLine? }
  else none

def documentMark? (lexer : Lexer) (token : Token) : Option Lexer := do
  return (← lexer.toplevel?).take 3 token

def startsPlain (inFlow : Bool) (c : Char) (rest : List Char) : Bool :=
  !(isBlank c || isBreak c || ['-', '?', ':', ',', '[', ']', '{', '}', '#', '&', '*', '!', '|', '>', '\'', '"',
    '%', '@', '`'].contains c) ||
  (c == '-' && !(rest.head?.any isBlank)) ||
  (!inFlow && (c == '?' || c == ':') && !atGap rest)

def token? (lexer : Lexer) (c : Char) (rest : List Char) : Option Lexer :=
  let marked := lexer.column == 0 && atDocumentMark (c :: rest)
  if lexer.column = 0 ∧ c = '%' then lexer.directive?
  else if marked && c == '-' then lexer.documentMark? .documentStart
  else if marked && c == '.' then lexer.documentMark? .documentEnd
  else if c = '[' then lexer.flowStart? .flowSequence
  else if c = '{' then lexer.flowStart? .flowMapping
  else if c = ']' then lexer.flowEnd? .flowSequenceEnd
  else if c = '}' then lexer.flowEnd? .flowMappingEnd
  else if c = ',' then lexer.flowEntry?
  else if c = '-' ∧ atGap rest then lexer.blockEntry?
  else if c = '?' ∧ (lexer.inFlow ∨ atGap rest) then lexer.key?
  else if c = ':' ∧ (lexer.inFlow ∨ atGap rest) then lexer.value?
  else if c = '*' then lexer.name? .alias
  else if c = '&' then lexer.name? .anchor
  else if c = '!' then lexer.tag?
  else if c = '|' ∧ !lexer.inFlow then lexer.blockScalar? false
  else if c = '>' ∧ !lexer.inFlow then lexer.blockScalar? true
  else if c = '\'' then lexer.quotedScalar? false
  else if c = '"' then lexer.quotedScalar? true
  else if startsPlain lexer.inFlow c rest then lexer.plainScalar?
  else none

def tokens (lexer : Lexer) : List Token :=
  lexer.entries.reverse.flatMap fun entry => match entry with
    | .token token => [token]
    | .slot number => (lexer.filled.lookup number).getD []

/-- Read tokens to the end of the stream. Each takes at least one character, so `fuel` need not exceed
the number of characters by more than one. -/
def run (lexer : Lexer) : (fuel : Nat) → Option (List Token)
  | 0 => none
  | fuel + 1 => do
    let lexer ← lexer.gap.dropStale?
    let lexer := lexer.dedent lexer.column
    match lexer.source.rest with
    | [] =>
      let lexer ← (lexer.dedent (-1)).dropCandidate?
      return lexer.tokens
    | c :: rest => run (← lexer.token? c rest) fuel

end Lexer

def tokens? (text : String) : Option (List Token) :=
  let text := text.toList
  if text.all isAllowed then (Lexer.start (Source.ofText text)).run (text.length + 1) else none

end Credential.Yaml
