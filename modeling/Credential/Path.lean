import Credential.Text.Pieces

/-! Places inside a document.

A path lists the keys and positions from the root down. It has a dotted form
for people and a JSON Pointer for tools.
-/

set_option autoImplicit false

namespace Credential

inductive Step where
  | key (name : String)
  | index (position : Nat)
  deriving DecidableEq

abbrev Path := List Step

namespace Path

def key (path : Path) (name : String) : Path := path ++ [.key name]

def index (path : Path) (position : Nat) : Path := path ++ [.index position]

/-- The path of keys spelled with dots between them. Empty keys are left out, so that stray dots are harmless. -/
def ofDotted (text : String) : Path :=
  ((pieces '.' text.toList).filter fun piece => !piece.isEmpty).map fun piece =>
    .key (String.ofList piece)

def displayRest : Path → String
  | [] => ""
  | .key name :: rest => "." ++ name ++ displayRest rest
  | .index position :: rest => "[" ++ Nat.repr position ++ "]" ++ displayRest rest

def display : Path → String
  | [] => "(root)"
  | .key name :: rest => name ++ displayRest rest
  | path => displayRest path

def escapeChar (c : Char) : List Char :=
  if c = '~' then ['~', '0'] else if c = '/' then ['~', '1'] else [c]

end Path

namespace Step

def text : Step → String
  | .key name => name
  | .index position => Nat.repr position

def token (step : Step) : List Char :=
  step.text.toList.flatMap Path.escapeChar

end Step

namespace Path

def pointer (path : Path) : String :=
  String.ofList (path.flatMap fun step => '/' :: step.token)

end Path

end Credential
