import Credential.Text.CompositionTable

/-! The canonical composed form of a text.

Characters are taken apart, their marks are put in order, and what can be
composed is composed again. Of two texts that mean the same, both have the same
composed form.
-/

set_option autoImplicit false

namespace Credential.Composition

def combiningClass (c : Char) : Nat :=
  match classes.row? c.toNat with
  | some [_, last, value] => if c.toNat ≤ last then value else 0
  | _ => 0

/-- Syllables of Hangul are numbered by leading consonant, vowel and trailing consonant, of which there are
19, 21 and 28; the first of the last means none. -/
def syllable? (code : Nat) : Option (Nat × Nat × Nat) :=
  if 0xAC00 ≤ code ∧ code < 0xAC00 + 19 * 21 * 28 then
    let number := code - 0xAC00
    some (number / (21 * 28), number / 28 % 21, number % 28)
  else none

def parts? (c : Char) : Option (Char × Char) :=
  match syllable? c.toNat with
  | some (lead, vowel, 0) => some (Char.ofNat (0x1100 + lead), Char.ofNat (0x1161 + vowel))
  | some (_, _, trail) => some (Char.ofNat (c.toNat - trail), Char.ofNat (0x11A7 + trail))
  | none =>
    match composites.row? c.toNat with
    | some [code, first, second] =>
      if code = c.toNat then some (Char.ofNat first, Char.ofNat second) else none
    | _ => none

def decompose (depth : Nat) (c : Char) : List Char :=
  match depth, parts? c with
  | depth + 1, some (first, second) => decompose depth first ++ [second]
  | _, _ => [c]

def decomposeLimit : Nat := 4

/-- Add a character to a text whose characters are last first. A mark moves in front of marks of greater
class. -/
def addInOrder (c : Char) : List Char → List Char
  | [] => [c]
  | last :: rest =>
    if 0 < combiningClass c ∧ combiningClass c < combiningClass last then last :: addInOrder c rest
    else c :: last :: rest

def compose? (first second : Char) : Option Char :=
  if 0x1100 ≤ first.toNat ∧ first.toNat < 0x1113 ∧ 0x1161 ≤ second.toNat ∧ second.toNat < 0x1176 then
    some (Char.ofNat (0xAC00 + (21 * (first.toNat - 0x1100) + (second.toNat - 0x1161)) * 28))
  else if 0x11A8 ≤ second.toNat ∧ second.toNat < 0x11C3 ∧
      (syllable? first.toNat).any (fun (_, _, trail) => trail == 0) then
    some (Char.ofNat (first.toNat + (second.toNat - 0x11A7)))
  else
    match composites.rows.find? fun row => row.tail == [first.toNat, second.toNat] with
    | some (code :: _) => some (Char.ofNat code)
    | _ => none

/-- A text under composition: what is finished, the last character that marks can be composed with, and the
marks after it, all last first. -/
structure Pending where
  done : List Char
  base : Option Char
  marks : List Char

namespace Pending

def add (pending : Pending) (c : Char) : Pending :=
  let value := combiningClass c
  let reaches := match pending.marks with
    | [] => true
    | last :: _ => decide (combiningClass last < value)
  match pending.base with
  | none => if value = 0 then { pending with base := some c } else { pending with done := c :: pending.done }
  | some base =>
    match if reaches then compose? base c else none with
    | some composed => { pending with base := some composed }
    | none =>
      if value = 0 then ⟨pending.marks ++ base :: pending.done, some c, []⟩
      else { pending with marks := c :: pending.marks }

def text (pending : Pending) : List Char :=
  (pending.marks ++ pending.base.toList ++ pending.done).reverse

end Pending

def composed (text : List Char) : List Char :=
  let apart := (text.flatMap (decompose decomposeLimit)).foldl (fun done c => addInOrder c done) []
  (apart.reverse.foldl Pending.add ⟨[], none, []⟩).text

end Credential.Composition
