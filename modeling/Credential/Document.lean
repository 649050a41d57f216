import Credential.Json.Reader
import Credential.Text.Pieces
import Credential.Yaml.Reader

/-! Documents as files hold them: JSON or YAML text. -/

set_option autoImplicit false

namespace Credential

inductive Format where
  | json
  | yaml
  deriving DecidableEq

namespace Format

/-- The last component of a path; none if the path ends in a step upward or has no component. -/
def fileName? (path : String) : Option (List Char) :=
  match ((pieces '/' path.toList).filter fun piece => piece != [] && piece != ['.']).getLast? with
  | some ['.', '.'] => none
  | name => name

/-- What follows the last dot of a file name, unless the dot comes first. -/
def extension? (name : List Char) : Option (List Char) :=
  let after := name.reverse.takeWhile (· != '.')
  if after.length + 1 < name.length then some after.reverse else none

/-- The format that the extension of a path stands for; JSON unless it says YAML. -/
def detect (path : String) : Format :=
  match (fileName? path).bind extension? with
  | some extension =>
    if extension = "yaml".toList ∨ extension = "yml".toList then .yaml else .json
  | none => .json

def decode? : Format → String → Option Json
  | json, text => Json.ofText? text
  | yaml, text => Yaml.ofText? text

end Format

end Credential
