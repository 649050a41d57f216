/-! The arguments of a command: options with values, flags and words.

An option is written `--name value` or `--name=value`. Nothing that starts with
a hyphen is a value of the first form, and after `--` everything is a word.
-/

set_option autoImplicit false

namespace Credential.CommandLine

inductive Argument where
  | long (name : String) (attached : Option String)
  | short (letters : List Char)
  | word (text : String)

def Argument.ofText (text : String) : Argument :=
  match text.toList with
  | '-' :: '-' :: rest =>
    let name := rest.takeWhile (· != '=')
    .long (String.ofList name)
      (if name.length < rest.length then some (String.ofList (rest.drop (name.length + 1))) else none)
  | '-' :: c :: rest => .short (c :: rest)
  | _ => .word text

def Argument.word? : Argument → Option String
  | .word text => some text
  | _ => none

/-- What may be given: options with a value, flags that may be repeated, and flags that may not. Letters
stand for flags that may be repeated. -/
structure Usage where
  options : List String
  counted : List String
  flags : List String
  letters : List Char

structure Given where
  options : List (String × String) := []
  flags : List String := []
  words : List String := []

namespace Given

def withOption? (given : Given) (name value : String) : Option Given :=
  if (given.options.lookup name).isSome then none
  else some { given with options := (name, value) :: given.options }

def withFlag? (given : Given) (name : String) : Option Given :=
  if given.flags.contains name then none else some { given with flags := name :: given.flags }

def withWords (given : Given) (words : List String) : Given :=
  { given with words := given.words ++ words }

end Given

def Usage.read? (usage : Usage) (given : Given) : List String → Option Given
  | [] => some given
  | text :: rest =>
    match Argument.ofText text with
    | .word word => usage.read? (given.withWords [word]) rest
    | .short letters => if letters.all usage.letters.contains then usage.read? given rest else none
    | .long "" none => some (given.withWords rest)
    | .long name (some value) =>
      if usage.options.contains name then
        (given.withOption? name value).bind fun given => usage.read? given rest
      else none
    | .long name none =>
      if usage.counted.contains name then usage.read? given rest
      else if usage.flags.contains name then (given.withFlag? name).bind fun given => usage.read? given rest
      else if usage.options.contains name then
        match rest with
        | [] => none
        | value :: rest =>
          (Argument.ofText value).word?.bind fun value =>
            (given.withOption? name value).bind fun given => usage.read? given rest
      else none

end Credential.CommandLine
