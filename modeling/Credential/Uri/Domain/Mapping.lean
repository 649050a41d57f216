import Credential.Uri.Domain.MappingTable

/-! The mapping of a domain name to the form in which names are compared. -/

set_option autoImplicit false

namespace Credential.Domain

def inRun? (code : Nat) : Option (List Char) :=
  match runs.row? code with
  | some [first, count, step, target] =>
    let offset := code - first
    if offset % step = 0 ∧ offset / step < count then some [Char.ofNat (target + offset)] else none
  | _ => none

def inOthers? (code : Nat) : Option (List Char) :=
  match others.row? code with
  | some (first :: target) => if first = code then some (target.map Char.ofNat) else none
  | _ => none

def mapped? (c : Char) : Option (List Char) :=
  match (inRun? c.toNat).or (inOthers? c.toNat) with
  | some target => some target
  | none => if ignored.contains c then some [] else if refused.contains c then none else some [c]

def isKept (c : Char) : Bool :=
  mapped? c == some [c]

end Credential.Domain
