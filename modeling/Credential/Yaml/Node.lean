import Credential.Yaml.Token

/-! The nodes of a YAML document.

The grammar is read with one token of lookahead. A node may be absent: a key
or value without one stands for the empty plain scalar. Anchors get numbers as
they are met, and an alias carries the number its name has at that place.
-/

set_option autoImplicit false

namespace Credential.Yaml

structure Marks where
  anchor : Option Nat
  tag : Option Tag

inductive Node where
  | alias (target : Nat)
  | scalar (marks : Marks) (text : String) (plain : Bool)
  | sequence (marks : Marks) (items : List Node)
  | mapping (marks : Marks) (pairs : List (Node × Node))

namespace Node

def empty : Node :=
  .scalar ⟨none, none⟩ "" true

/-- Where a node stands. In a block mapping, a sequence may be indented no further than its key. -/
inductive Place where
  | flow
  | blockItem
  | blockMember
  deriving DecidableEq

/-- What is known while a document is read: the tokens to come, the names of anchors with their numbers,
and the handles of tags with their meanings. -/
structure State where
  tokens : List Token
  names : List (String × Nat)
  handles : List (String × Tag)

abbrev Read (α : Type) := StateT State Option α

def peek : Read (Option Token) := do
  return (← get).tokens.head?

def skip : Read Unit :=
  modify fun state => { state with tokens := state.tokens.tail }

def accept (token : Token) : Read Bool := do
  let found := (← peek) == some token
  if found then skip
  return found

def expect (token : Token) : Read Unit := do
  if !(← accept token) then failure

def atAny (tokens : List Token) : Read Bool := do
  return (← peek).any tokens.contains

def nameAnchor (name : String) : Read Nat := do
  let state ← get
  let number := state.names.length
  set { state with names := (name, number) :: state.names.filter (·.1 != name) }
  return number

def targetOf (name : String) : Read Nat := do
  match (← get).names.lookup name with
  | some number => return number
  | none => failure

def resolveTag (handle : String) (suffix : Tag) : Read Tag := do
  if handle.isEmpty then return suffix
  match (← get).handles.lookup handle with
  | some meaning => return meaning.append suffix
  | none => failure

def readAnchor : Read (Option Nat) := do
  match ← peek with
  | some (.anchor name) =>
    skip
    return some (← nameAnchor name)
  | _ => return none

def readTag : Read (Option Tag) := do
  match ← peek with
  | some (.tag handle suffix) =>
    skip
    return some (← resolveTag handle suffix)
  | _ => return none

def readMarks : Read Marks := do
  match ← readAnchor with
  | some number => return ⟨some number, ← readTag⟩
  | none =>
    let tag ← readTag
    return ⟨← readAnchor, tag⟩

mutual

def node : (fuel : Nat) → Place → Read Node
  | 0, _ => failure
  | fuel + 1, place => do
    if let some (.alias name) ← peek then
      skip
      return .alias (← targetOf name)
    let marks ← readMarks
    match ← peek with
    | some .blockEntry =>
      if place = .blockMember then return .sequence marks (← indentlessItems fuel)
      else if marks.anchor.isNone && marks.tag.isNone then failure
      else return .scalar marks "" true
    | some (.scalar text plain) =>
      skip
      return .scalar marks text plain
    | some .flowSequence =>
      skip
      return .sequence marks (← flowItems fuel true)
    | some .flowMapping =>
      skip
      return .mapping marks (← flowPairs fuel true)
    | token =>
      if token = some .blockSequence ∧ place ≠ .flow then
        skip
        return .sequence marks (← blockItems fuel)
      else if token = some .blockMapping ∧ place ≠ .flow then
        skip
        return .mapping marks (← blockPairs fuel)
      else if marks.anchor.isNone && marks.tag.isNone then failure
      else return .scalar marks "" true

def nodeUnless : (fuel : Nat) → List Token → Place → Read Node
  | 0, _, _ => failure
  | fuel + 1, ends, place => do
    if ← atAny ends then return empty
    node fuel place

def blockItems : (fuel : Nat) → Read (List Node)
  | 0 => failure
  | fuel + 1 => do
    if ← accept .blockEnd then return []
    expect .blockEntry
    let item ← nodeUnless fuel [.blockEntry, .blockEnd] .blockItem
    return item :: (← blockItems fuel)

def indentlessItems : (fuel : Nat) → Read (List Node)
  | 0 => failure
  | fuel + 1 => do
    if !(← accept .blockEntry) then return []
    let item ← nodeUnless fuel [.blockEntry, .key, .value, .blockEnd] .blockItem
    return item :: (← indentlessItems fuel)

def blockPairs : (fuel : Nat) → Read (List (Node × Node))
  | 0 => failure
  | fuel + 1 => do
    if ← accept .blockEnd then return []
    expect .key
    let key ← nodeUnless fuel [.key, .value, .blockEnd] .blockMember
    let value ←
      if ← accept .value then nodeUnless fuel [.key, .value, .blockEnd] .blockMember else pure empty
    return (key, value) :: (← blockPairs fuel)

/-- Items up to the closing bracket. An item that is a key with its value is a mapping of one pair. -/
def flowItems : (fuel : Nat) → (first : Bool) → Read (List Node)
  | 0, _ => failure
  | fuel + 1, first => do
    if ← accept .flowSequenceEnd then return []
    if !first then expect .flowEntry
    if ← accept .key then
      let key ←
        if ← atAny [.value, .flowEntry, .flowSequenceEnd] then
          skip
          pure empty
        else node fuel .flow
      let value ←
        if ← accept .value then nodeUnless fuel [.flowEntry, .flowSequenceEnd] .flow else pure empty
      return .mapping ⟨none, none⟩ [(key, value)] :: (← flowItems fuel false)
    else if ← accept .flowSequenceEnd then return []
    else
      let item ← node fuel .flow
      return item :: (← flowItems fuel false)

def flowPairs : (fuel : Nat) → (first : Bool) → Read (List (Node × Node))
  | 0, _ => failure
  | fuel + 1, first => do
    if ← accept .flowMappingEnd then return []
    if !first then expect .flowEntry
    if ← accept .key then
      let key ← nodeUnless fuel [.value, .flowEntry, .flowMappingEnd] .flow
      let value ←
        if ← accept .value then nodeUnless fuel [.flowEntry, .flowMappingEnd] .flow else pure empty
      return (key, value) :: (← flowPairs fuel false)
    else if ← accept .flowMappingEnd then return []
    else
      let key ← node fuel .flow
      return (key, empty) :: (← flowPairs fuel false)

end

def knownVersion (major minor : Nat) : Bool :=
  major == 1 && (minor == 1 || minor == 2)

/-- The directives at the front of a document: the handles they give a meaning to. At most one states the
version, and no handle is given a meaning twice. -/
def directives (versioned : Bool) (handles : List (String × Tag)) :
    List Token → Option (List (String × Tag) × List Token)
  | .version major minor :: rest =>
    if versioned || !knownVersion major minor then none else directives true handles rest
  | .tagHandle handle meaning :: rest =>
    if (handles.lookup handle).isSome then none
    else directives versioned ((handle, meaning) :: handles) rest
  | rest => some (handles, rest)

def standardHandles : List (String × Tag) :=
  [("!", .ofText "!"), ("!!", .standard "")]

def startsExplicitly : Token → Bool
  | .version .. | .tagHandle .. | .documentStart => true
  | _ => false

def explicitDocument : Read Node := do
  let state ← get
  let (handles, tokens) ← directives false [] state.tokens
  set { state with tokens := tokens, handles := handles ++ standardHandles }
  expect .documentStart
  match ← peek with
  | none | some .documentEnd => return empty
  | some token => if startsExplicitly token then return empty else node (4 * tokens.length) .blockItem

def stream : Read Node := do
  match ← peek with
  | none => return empty
  | some token =>
    if startsExplicitly token then explicitDocument else node (4 * (← get).tokens.length) .blockItem

/-- The node that tokens spell. After it only marks of the document's end may follow. Reading goes at most
four calls deep for each token, which bounds the recursion. -/
def ofTokens? (tokens : List Token) : Option Node := do
  let (node, state) ← stream ⟨tokens, [], standardHandles⟩
  if state.tokens.all (· == .documentEnd) then some node else none

end Node

end Credential.Yaml
