/-! Cutting text at a separator. -/

set_option autoImplicit false

namespace Credential

/-- The pieces between separators. There is one more piece than separators, and pieces may be empty. -/
def pieces (separator : Char) : List Char → List (List Char)
  | [] => [[]]
  | c :: rest =>
    if c = separator then [] :: pieces separator rest
    else
      match pieces separator rest with
      | [] => [[c]]
      | first :: others => (c :: first) :: others

end Credential
