import Credential.Text.Composition
import Credential.Uri.Domain.JoiningTable

/-! Where the joiner and the non-joiner may stand in a name. -/

set_option autoImplicit false

namespace Credential.Domain

/-- The class of the marks that suppress a vowel. -/
def viramaClass : Nat := 9

def meets (set : CodeSet) (text : List Char) : Bool :=
  ((text.dropWhile joinsThroughSet.contains).head?).any set.contains

/-- Whether each joiner follows a virama, and each non-joiner does so or parts two letters that would join.
The characters before the rest come last first. -/
def joinersFit (before : List Char) : List Char → Bool
  | [] => true
  | c :: rest =>
    let afterVirama := before.head?.any fun last => Composition.combiningClass last == viramaClass
    let fits :=
      if c = '\u200d' then afterVirama
      else if c = '\u200c' then
        afterVirama || (meets joinsAfterSet before && meets joinsBeforeSet rest)
      else true
    fits && joinersFit (c :: before) rest

end Credential.Domain
