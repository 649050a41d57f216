import Credential.Text.Mark
import Credential.Text.Punycode
import Credential.Uri.Domain.Direction
import Credential.Uri.Domain.Joining
import Credential.Uri.Domain.Mapping

/-! Domain names in any script.

A name is mapped and composed, and then each of its parts is checked. A part
that starts with `xn--` spells another one, which has to be in that form already.
-/

set_option autoImplicit false

namespace Credential.Domain

def forbidden (c : Char) : Bool :=
  c.toNat ≤ 0x20 || c.toNat == 0x7F || ['%', '#', '/', ':', '<', '>', '?', '@', '[', '\\', ']', '^', '|'].contains c

def normalized? (text : List Char) : Option (List Char) :=
  (text.mapM mapped?).map fun targets => Composition.composed targets.flatten

def isAscii (c : Char) : Bool := c.toNat < 0x80

def spellingMark : List Char := "xn--".toList

def lengthLimit : Nat := 1000

def spellingLimit : Nat := 2000

/-- The part that a spelling in ASCII stands for: one with other characters, in the form to which names are
mapped. -/
def spelled? (spelling : List Char) : Option (List Char) := do
  if !spelling.all isAscii || spellingLimit < spelling.length then none
  let part ← Punycode.decode? spelling
  let proper := !part.all isAscii && part.all (fun c => isKept c && !forbidden c && c != '.') &&
    Composition.composed part == part && !spellingMark.isPrefixOf part
  if proper then some part else none

def meaning? (part : List Char) : Option (List Char) :=
  if spellingMark.isPrefixOf part then spelled? (part.drop spellingMark.length) else some part

/-- Whether a part starts with no mark, its joiners fit, and it is not too long to be spelled. -/
def isProper (part : List Char) : Bool :=
  !(part.head?.any CodeSet.marks.contains) && joinersFit [] part &&
    (part.all isAscii || part.length ≤ lengthLimit)

def parts? (name : List Char) : Option (List (List Char)) := do
  let text ← normalized? name
  if text.any forbidden then none
  let parts ← (pieces '.' text).mapM meaning?
  if parts.all isProper && (!parts.any isMixed || parts.all keepsDirection) then some parts else none

def read? (name : List Char) : Option (List Char) :=
  (parts? name).map (['.'].intercalate ·)

end Credential.Domain
