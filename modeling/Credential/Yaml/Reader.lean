import Credential.Yaml.Meaning
import Credential.Yaml.Node

/-! Reading YAML text as JSON values.

Aliases are replaced by what they stand for, which may itself contain aliases.
Two limits keep this finite and small: on nesting, and on the number of aliases
followed.
-/

set_option autoImplicit false

namespace Credential.Yaml

namespace Node

def anchor? : Node → Option Nat
  | .alias _ => none
  | .scalar marks .. | .sequence marks _ | .mapping marks _ => marks.anchor

mutual

def nodes : Node → List Node
  | .sequence marks items => .sequence marks items :: itemNodes items
  | .mapping marks pairs => .mapping marks pairs :: pairNodes pairs
  | leaf => [leaf]

def itemNodes : List Node → List Node
  | [] => []
  | item :: rest => item.nodes ++ itemNodes rest

def pairNodes : List (Node × Node) → List Node
  | [] => []
  | (key, value) :: rest => key.nodes ++ value.nodes ++ pairNodes rest

end

/-- The anchored nodes by number. Where nodes share a number, the last one comes first. -/
def targets (node : Node) : List (Nat × Node) :=
  (node.nodes.filterMap fun inner => inner.anchor?.map (·, inner)).reverse

/-- How often a reader of the tree is told something: once for a leaf, at both ends of a collection. -/
def events (node : Node) : Nat :=
  node.nodes.foldl (fun count inner => match inner with
    | .alias _ | .scalar .. => count + 1
    | .sequence .. | .mapping .. => count + 2) 0

/-- Values are made while counting down how many more aliases may be followed. -/
abbrev Build (α : Type) := StateT Nat Option α

def follow (targets : List (Nat × Node)) : Node → Build Node
  | .alias target => do
    match ← get, targets.lookup target with
    | left + 1, some node =>
      set left
      return node
    | _, _ => failure
  | node => return node

def keyText (targets : List (Nat × Node)) (node : Node) : Build String := do
  match ← follow targets node with
  | .scalar _ text _ => return text
  | _ => failure

def ofContent (targets : List (Nat × Node)) (below : Option (Node → Build Json)) : Node → Build Json
  | .alias _ => failure
  | .scalar marks text plain => StateT.lift (scalarValue? marks.tag text plain)
  | .sequence marks items =>
    match below with
    | some below => do
      if marks.tag.any Tag.isOwn then failure
      return .array (← items.mapM below)
    | none => failure
  | .mapping marks pairs =>
    match below with
    | some below => do
      if marks.tag.any Tag.isOwn then failure
      let members ← pairs.mapM fun (key, value) => do
        return (← keyText targets key, ← below value)
      return .object (Members.ofPairs members)
    | none => failure

def toJson (targets : List (Nat × Node)) : (depth : Nat) → (node : Node) → Build Json
  | 0, node => do ofContent targets none (← follow targets node)
  | depth + 1, node => do ofContent targets (some (toJson targets depth)) (← follow targets node)

end Node

def nestingLimit : Nat := 128

/-- For each event, this many aliases may be followed. -/
def aliasFactor : Nat := 100

def ofText? (text : String) : Option Json := do
  let node ← Node.ofTokens? (← tokens? text)
  let (value, _) ← node.toJson node.targets nestingLimit (aliasFactor * node.events)
  return value

end Credential.Yaml
