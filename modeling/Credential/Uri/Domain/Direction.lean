import Credential.Uri.Domain.DirectionTable

/-! Names in scripts that run from right to left.

If any part of a name has a character of such a script or a digit of Arabic
script, each part has to be readable on its own: it starts with a letter and
keeps to one direction.
-/

set_option autoImplicit false

namespace Credential.Domain

inductive Direction where
  | left
  | right
  | arabicNumber
  | europeanNumber
  | neutral
  | mark
  deriving DecidableEq

def direction (c : Char) : Direction :=
  if rightSet.contains c then .right
  else if arabicNumberSet.contains c then .arabicNumber
  else if europeanNumberSet.contains c then .europeanNumber
  else if neutralSet.contains c then .neutral
  else if markSet.contains c then .mark
  else .left

def isMixed (text : List Char) : Bool :=
  text.any fun c => direction c == .right || direction c == .arabicNumber

/-- Whether the characters of a part keep to the direction of its first one. Marks at the end do not count. -/
def keepsDirection (part : List Char) : Bool :=
  match part.map direction with
  | [] => true
  | first :: rest =>
    let rest := (rest.reverse.dropWhile (· == .mark)).reverse
    let last := rest.getLast?.getD first
    match first with
    | .left =>
      (last == .left || last == .europeanNumber) && rest.all fun d => d != .right && d != .arabicNumber
    | .right =>
      (last == .right || last == .europeanNumber || last == .arabicNumber) && !rest.contains .left &&
        !(rest.contains .europeanNumber && rest.contains .arabicNumber)
    | _ => false

end Credential.Domain
