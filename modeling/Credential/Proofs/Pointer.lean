import Credential.Json.Basic
import Credential.Path
import Credential.Proofs.Pieces
import Mathlib.Data.List.Forall2

/-! JSON Pointers as texts, and what they lead to in a document.

Pointers are read by the rules of RFC 6901, which know nothing of the steps of a
path. The pointer of a path is read as the texts of its steps, whatever
characters they have, so paths whose steps have different texts have different
pointers.
-/

set_option autoImplicit false

namespace Credential

namespace Pointer

/-- The text with `meaning` for every `~` that `code` follows, from left to right. -/
def restore (code meaning : Char) : List Char → List Char
  | first :: second :: rest =>
    if first = '~' ∧ second = code then meaning :: restore code meaning rest
    else first :: restore code meaning (second :: rest)
  | text => text

/-- The token as it was before escaping. Slashes are restored before tildes, so that `~01` is `~1`. -/
def unescape (token : List Char) : List Char :=
  restore '0' '~' (restore '1' '/' token)

/-- The tokens of a pointer, each of them after a slash; none if the text does not start with one. The empty text is
the pointer without tokens. -/
def tokens? (pointer : String) : Option (List String) :=
  match pieces '/' pointer.toList with
  | [] :: tokens => some (tokens.map fun token => String.ofList (unescape token))
  | _ => none

/-- The position that a token stands for: it has to be in decimal, without leading zeros. -/
def position? (token : String) : Option Nat :=
  let position := Nat.ofDigitChars 10 token.toList 0
  if Nat.repr position = token then some position else none

def child? : Json → String → Option Json
  | .object members, token => Members.get? members token
  | .array items, token => (position? token).bind (items[·]?)
  | _, _ => none

def follow? : Json → List String → Option Json
  | document, [] => some document
  | document, token :: rest => (child? document token).bind (follow? · rest)

end Pointer

def Json.atPointer? (document : Json) (pointer : String) : Option Json :=
  (Pointer.tokens? pointer).bind (Pointer.follow? document)

namespace Pointer

/-! ## Cutting and unescaping -/

theorem restore_cons {code meaning first : Char} (plain : first ≠ '~') (rest : List Char) :
    restore code meaning (first :: rest) = first :: restore code meaning rest := by
  cases rest with
  | nil => rfl
  | cons second rest => rw [restore, if_neg fun both => plain both.1]

def replaceAll (old : Char) (new : List Char) (text : List Char) : List Char :=
  text.flatMap fun c => if c = old then new else [c]

/-- Escaping at one go is replacing tildes first and slashes after them. The other way round, the tilde that stands for
a slash would be escaped too. -/
theorem escape_eq_replaceAll (text : List Char) :
    text.flatMap Path.escapeChar = replaceAll '/' ['~', '1'] (replaceAll '~' ['~', '0'] text) := by
  rw [replaceAll, replaceAll, List.flatMap_assoc]
  congr 1
  funext c
  by_cases tilde : c = '~'
  · simp [Path.escapeChar, tilde]
  · simp [Path.escapeChar, tilde]

example : replaceAll '~' ['~', '0'] (replaceAll '/' ['~', '1'] ['/']) = ['~', '0', '1'] := by decide

theorem restore_slash (text : List Char) :
    restore '1' '/' (text.flatMap Path.escapeChar) = replaceAll '~' ['~', '0'] text := by
  unfold replaceAll
  induction text with
  | nil => rfl
  | cons c rest ih =>
    rw [List.flatMap_cons, List.flatMap_cons, ← ih]
    by_cases tilde : c = '~'
    -- The code of a tilde is not that of a slash, and is no tilde itself.
    · simp [Path.escapeChar, tilde, restore, restore_cons]
    · by_cases slash : c = '/'
      · simp [Path.escapeChar, slash, restore]
      · simp [Path.escapeChar, tilde, slash, restore_cons]

theorem restore_tilde (text : List Char) : restore '0' '~' (replaceAll '~' ['~', '0'] text) = text := by
  unfold replaceAll
  induction text with
  | nil => rfl
  | cons c rest ih =>
    rw [List.flatMap_cons]
    by_cases tilde : c = '~'
    · simp [tilde, restore, ih]
    · simp [tilde, restore_cons, ih]

theorem unescape_escape (text : List Char) : unescape (text.flatMap Path.escapeChar) = text := by
  rw [unescape, restore_slash, restore_tilde]

example : unescape ['~', '0', '1'] = ['~', '1'] := by decide

theorem slash_not_mem_token (step : Step) : '/' ∉ step.token := by
  intro inside
  obtain ⟨c, -, escaped⟩ := List.mem_flatMap.mp inside
  unfold Path.escapeChar at escaped
  split at escaped
  · simp at escaped
  · split at escaped
    · simp at escaped
    next other => exact other (List.mem_singleton.mp escaped).symm

theorem pieces_pointer (path : Path) : pieces '/' path.pointer.toList = [] :: path.map Step.token := by
  rw [Path.pointer, String.toList_ofList]
  induction path with
  | nil => rfl
  | cons step rest ih =>
    rw [List.flatMap_cons, List.cons_append, pieces, if_pos rfl, pieces_append (slash_not_mem_token step) ih,
      List.append_nil]
    rfl

theorem tokens?_pointer (path : Path) : tokens? path.pointer = some (path.map Step.text) := by
  have read (step : Step) : String.ofList (unescape step.token) = step.text := by
    rw [Step.token, unescape_escape, String.ofList_toList]
  rw [tokens?, pieces_pointer]
  simp [Function.comp_def, read]

theorem position?_repr (position : Nat) : position? (Nat.repr position) = some position := by
  have decimal : Nat.ofDigitChars 10 (Nat.repr position).toList 0 = position := by
    rw [Nat.repr_eq_ofList_toDigits, String.toList_ofList, Nat.ofDigitChars_ten_toDigits]
  simp only [position?, decimal, if_pos]

example : position? "01" = none := by decide

end Pointer

/-! ## What a pointer says of its path -/

/-- The text stands for the step: a key as it is, a position in decimal. -/
inductive Step.SpelledBy : Step → String → Prop where
  | key (name : String) : SpelledBy (.key name) name
  | index (position : Nat) : SpelledBy (.index position) (String.ofList (Nat.toDigits 10 position))

theorem Step.spelledBy_text (step : Step) : step.SpelledBy step.text := by
  cases step with
  | key name => exact .key name
  | index position =>
    rw [Step.text, Nat.repr_eq_ofList_toDigits]
    exact .index position

namespace Path

open Pointer (replaceAll escape_eq_replaceAll)

-- A pointer is made from the texts of the steps, and from nothing else.
theorem pointer_eq_replaceAll (path : Path) :
    path.pointer = String.ofList ((path.map Step.text).flatMap fun text =>
      '/' :: replaceAll '/' ['~', '1'] (replaceAll '~' ['~', '0'] text.toList)) := by
  simp only [← escape_eq_replaceAll, List.flatMap_map]
  rfl

theorem pointer_eq_iff_texts {path other : Path} :
    path.pointer = other.pointer ↔ path.map Step.text = other.map Step.text := by
  constructor
  · intro same
    have read := congrArg Pointer.tokens? same
    rw [Pointer.tokens?_pointer, Pointer.tokens?_pointer] at read
    exact Option.some.inj read
  · intro same
    rw [pointer_eq_replaceAll path, pointer_eq_replaceAll other, same]

theorem pointer_eq_empty_iff {path : Path} : path.pointer = "" ↔ path = [] :=
  (@pointer_eq_iff_texts path []).trans List.map_eq_nil_iff

/-- Pointers are unambiguous, whatever characters the keys have. A pointer is written by replacing the tildes of each
text and then its slashes; cut at its slashes and unescaped, it gives the texts of the steps, keys as they are and
positions in decimal. Only the root has the empty pointer. Paths have the same pointer exactly if they are of one
length and their steps, one by one, have the same texts. -/
theorem pointer_unambiguous (path other : Path) :
    path.pointer = String.ofList ((path.map Step.text).flatMap fun text =>
        '/' :: replaceAll '/' ['~', '1'] (replaceAll '~' ['~', '0'] text.toList)) ∧
      Pointer.tokens? path.pointer = some (path.map Step.text) ∧
      List.Forall₂ Step.SpelledBy path (path.map Step.text) ∧ (path.pointer = "" ↔ path = []) ∧
      (path.pointer = other.pointer ↔ List.Forall₂ (fun step twin => step.text = twin.text) path other) := by
  refine ⟨pointer_eq_replaceAll path, Pointer.tokens?_pointer path, ?_, pointer_eq_empty_iff, ?_⟩
  · exact List.forall₂_map_right_iff.mpr (List.forall₂_same.mpr fun step _ => step.spelledBy_text)
  · rw [pointer_eq_iff_texts, ← List.forall₂_eq_eq_eq, List.forall₂_map_left_iff, List.forall₂_map_right_iff]

-- A key of digits and a position have the same text.
example : pointer [.key "1"] = pointer [.index 1] := by decide

/-! ## What a pointer leads to -/

def target? (path : Path) (value : Option Json) : Option Json :=
  value.bind (·.atPointer? path.pointer)

theorem target?_eq (path : Path) (value : Option Json) :
    path.target? value = value.bind (Pointer.follow? · (path.map Step.text)) := by
  simp [target?, Json.atPointer?, Pointer.tokens?_pointer]

@[simp] theorem target?_root (value : Option Json) : target? [] value = value := by
  cases value <;> simp [target?_eq, Pointer.follow?]

@[simp] theorem target?_none (path : Path) : path.target? none = none := rfl

theorem target?_key (members : Members) (name : String) (rest : Path) :
    target? (.key name :: rest) (some (.object members)) = rest.target? (members.get? name) := by
  simp [target?_eq, Pointer.follow?, Pointer.child?, Step.text]

theorem target?_of_get? {value inner : Json} {name : String} (found : value.get? name = some inner) (rest : Path) :
    target? (.key name :: rest) (some value) = rest.target? (some inner) := by
  cases value with
  | object members => rw [target?_key, ← found, Json.get?]
  | _ => exact nomatch found

theorem target?_index (items : List Json) (position : Nat) (rest : Path) :
    target? (.index position :: rest) (some (.array items)) = rest.target? items[position]? := by
  simp [target?_eq, Pointer.follow?, Pointer.child?, Step.text, Pointer.position?_repr]

end Path

end Credential
