import Credential.Json.Lexeme
import Credential.Yaml.Source

/-! The written forms of YAML scalars: plain, quoted and block.

Words of a plain or quoted scalar are joined across gaps. A gap within a line
is kept as it is; across one line end it becomes a space, and across several
all but the first line end remain.
-/

set_option autoImplicit false

namespace Credential.Yaml

/-- The blanks and line ends since the last word. `blanks` counts only before the first line end. -/
structure Gap where
  broken : Bool
  blanks : List Char
  first : List Char
  more : List Char

namespace Gap

def empty : Gap := ⟨false, [], [], []⟩

def escaped : Gap := ⟨true, [], [], []⟩

def blank (gap : Gap) (c : Char) : Gap :=
  if gap.broken then gap else { gap with blanks := gap.blanks ++ [c] }

def lineEnd (gap : Gap) (c : Char) : Gap :=
  if gap.broken then { gap with more := gap.more ++ [breakText c] }
  else ⟨true, [], [breakText c], gap.more⟩

def text (gap : Gap) : List Char :=
  if !gap.broken then gap.blanks
  else if gap.first = ['\n'] then (if gap.more.isEmpty then [' '] else gap.more)
  else gap.first ++ gap.more

end Gap

structure Scanned where
  text : List Char
  source : Source
  broken : Bool

def flowIndicator (c : Char) : Bool :=
  c == ',' || c == '[' || c == ']' || c == '{' || c == '}'

def endsPlain (inFlow : Bool) (c : Char) (rest : List Char) : Bool :=
  (c == ':' && atGap rest) || (inFlow && flowIndicator c)

/-- Scan a plain scalar that is indented by at least `indent` outside flow collections. The flag `fresh`
tells that the last character read was no part of a word. -/
def scanPlain (inFlow : Bool) (indent : Int) (position : Position) (fresh : Bool) (gap : Gap)
    (done : List Char) : List Char → Option Scanned
  | [] => some ⟨done.reverse, ⟨position, []⟩, gap.broken⟩
  | '\r' :: '\n' :: rest =>
    scanPlain inFlow indent (position.newLine 2) true (gap.lineEnd '\n') done rest
  | c :: rest =>
    let stop : Option Scanned := some ⟨done.reverse, ⟨position, c :: rest⟩, gap.broken⟩
    if isBlank c then
      if gap.broken ∧ position.column < indent ∧ c = '\t' then none
      else scanPlain inFlow indent (position.next c) true (gap.blank c) done rest
    else if isBreak c then
      scanPlain inFlow indent (position.newLine c.utf8Size) true (gap.lineEnd c) done rest
    else if fresh ∧ !inFlow ∧ position.column < indent then stop
    else if fresh ∧ position.column = 0 ∧ atDocumentMark (c :: rest) then stop
    else if fresh ∧ c = '#' then stop
    else if inFlow ∧ c = ':' ∧ rest.head?.any (fun next => flowIndicator next || next == '?') then none
    else if endsPlain inFlow c rest then stop
    else scanPlain inFlow indent (position.next c) false .empty (c :: (gap.text.reverse ++ done)) rest

def scanSingle (position : Position) (gap : Gap) (done : List Char) : List Char → Option Scanned
  | [] => none
  | '\r' :: '\n' :: rest => scanSingle (position.newLine 2) (gap.lineEnd '\n') done rest
  | '\'' :: '\'' :: rest =>
    scanSingle ((position.next '\'').next '\'') .empty ('\'' :: (gap.text.reverse ++ done)) rest
  | '\'' :: rest => some ⟨(gap.text.reverse ++ done).reverse, ⟨position.next '\'', rest⟩, false⟩
  | c :: rest =>
    if isBlank c then scanSingle (position.next c) (gap.blank c) done rest
    else if isBreak c then scanSingle (position.newLine c.utf8Size) (gap.lineEnd c) done rest
    else if position.column = 0 ∧ atDocumentMark (c :: rest) then none
    else scanSingle (position.next c) .empty (c :: (gap.text.reverse ++ done)) rest

def letterEscape? : Char → Option Char
  | '0' => some '\x00'
  | 'a' => some '\x07'
  | 'b' => some '\x08'
  | 't' | '\t' => some '\t'
  | 'n' => some '\n'
  | 'v' => some '\x0b'
  | 'f' => some '\x0c'
  | 'r' => some '\r'
  | 'e' => some '\x1b'
  | ' ' => some ' '
  | '"' => some '"'
  | '/' => some '/'
  | '\\' => some '\\'
  | 'N' => some '\u0085'
  | '_' => some '\u00a0'
  | 'L' => some '\u2028'
  | 'P' => some '\u2029'
  | _ => none

def numericEscape? : Char → Option Nat
  | 'x' => some 2
  | 'u' => some 4
  | 'U' => some 8
  | _ => none

inductive Quoting where
  | text
  | digits (left value : Nat)

def scanDouble (position : Position) (gap : Gap) (done : List Char) : Quoting → List Char → Option Scanned
  | _, [] => none
  | .digits left value, c :: rest =>
    match Json.hexDigit? c with
    | none => none
    | some digit =>
      let value := 16 * value + digit
      if left > 1 then scanDouble (position.next c) gap done (.digits (left - 1) value) rest
      else if value.isValidChar then
        scanDouble (position.next c) gap (Char.ofNat value :: done) .text rest
      else none
  | .text, '\r' :: '\n' :: rest => scanDouble (position.newLine 2) (gap.lineEnd '\n') done .text rest
  | .text, '"' :: rest => some ⟨(gap.text.reverse ++ done).reverse, ⟨position.next '"', rest⟩, false⟩
  | .text, '\\' :: '\r' :: '\n' :: rest =>
    scanDouble ((position.next '\\').newLine 2) .escaped (gap.text.reverse ++ done) .text rest
  | .text, '\\' :: c :: rest =>
    let done := gap.text.reverse ++ done
    if isBreak c then scanDouble ((position.next '\\').newLine c.utf8Size) .escaped done .text rest
    else
      match letterEscape? c, numericEscape? c with
      | some meaning, _ => scanDouble ((position.next '\\').next c) .empty (meaning :: done) .text rest
      | none, some count => scanDouble ((position.next '\\').next c) .empty done (.digits count 0) rest
      | none, none => none
  | .text, c :: rest =>
    if isBlank c then scanDouble (position.next c) (gap.blank c) done .text rest
    else if isBreak c then scanDouble (position.newLine c.utf8Size) (gap.lineEnd c) done .text rest
    else if position.column = 0 ∧ atDocumentMark (c :: rest) then none
    else scanDouble (position.next c) .empty (c :: (gap.text.reverse ++ done)) .text rest

inductive Chomp where
  | strip
  | clip
  | keep

structure BlockStyle where
  folded : Bool
  chomp : Chomp

/-- A block scalar so far: its text, the end of the last line, the empty lines after it, and whether
that line began with a blank. -/
structure Block where
  done : List Char
  lineEnd : List Char
  empty : List Char
  indented : Bool

namespace Block

def beginLine (style : BlockStyle) (block : Block) (blank : Bool) : Block :=
  let joined :=
    if style.folded && block.lineEnd == ['\n'] && !block.indented && !blank then
      if block.empty.isEmpty then [' '] else block.empty
    else block.lineEnd ++ block.empty
  ⟨joined.reverse ++ block.done, [], [], blank⟩

def finish (style : BlockStyle) (block : Block) : List Char :=
  block.done.reverse ++ match style.chomp with
    | .strip => []
    | .clip => block.lineEnd
    | .keep => block.lineEnd ++ block.empty

end Block

/-- Scan the lines of a block scalar. Its indentation is `indent`, or if that is zero it is found from the
first line with text, and is more than `parent`. The flag `inLine` tells whether the margin is past. -/
def scanBlock (style : BlockStyle) (parent : Int) (indent widest : Nat) (position : Position) (inLine : Bool)
    (block : Block) : List Char → Option Scanned
  | [] => some ⟨block.finish style, ⟨position, []⟩, false⟩
  | '\r' :: '\n' :: rest =>
    if inLine then
      scanBlock style parent indent widest (position.newLine 2) false { block with lineEnd := ['\n'] } rest
    else
      scanBlock style parent indent (max widest position.column) (position.newLine 2) false
        { block with empty := block.empty ++ ['\n'] } rest
  | c :: rest =>
    if inLine then
      if isBreak c then
        scanBlock style parent indent widest (position.newLine c.utf8Size) false
          { block with lineEnd := [breakText c] } rest
      else
        scanBlock style parent indent widest (position.next c) true { block with done := c :: block.done } rest
    else
      let inMargin := indent == 0 || decide (position.column < indent)
      if inMargin && c == ' ' then scanBlock style parent indent widest (position.next c) false block rest
      else if inMargin && c == '\t' then none
      else
        let widest := max widest position.column
        if isBreak c then
          scanBlock style parent indent widest (position.newLine c.utf8Size) false
            { block with empty := block.empty ++ [breakText c] } rest
        else
          let indent := if indent = 0 then max (max widest (parent + 1).toNat) 1 else indent
          if position.column = indent then
            let block := block.beginLine style (isBlank c)
            scanBlock style parent indent widest (position.next c) true { block with done := c :: block.done } rest
          else some ⟨block.finish style, ⟨position, c :: rest⟩, false⟩

end Credential.Yaml
