import Credential.Attribute.Basic
import Credential.CommandLine.Arguments
import Credential.Document
import Credential.Schema.Reading

/-! The commands that can be given. -/

set_option autoImplicit false

namespace Credential.CommandLine

structure Input where
  format : Option Format
  maxDepth : Nat

inductive Command where
  | schema (file : String) (field : Option String) (input : Input)
  | validate (schema value : String) (subjectOnly : Bool) (input : Input)
  | types (schema context : String) (input : Input)

def word? (text : String) : Option Nat :=
  let digits := match text.toList with
    | '+' :: digits | digits => digits
  if !digits.isEmpty && digits.all Json.isDigit && Json.decimal digits < 0x10000000000000000 then
    some (Json.decimal digits)
  else none

def format? (text : String) : Option Format :=
  if text = "json" then some .json else if text = "yaml" then some .yaml else none

def globalUsage : Usage :=
  ⟨[], ["verbose"], ["log-json"], ['v']⟩

def usage (options flags : List String) : Usage :=
  { globalUsage with
    options := options ++ ["format", "max-depth"]
    flags := flags ++ globalUsage.flags }

namespace Given

def input? (given : Given) : Option Input := do
  let format ← match given.options.lookup "format" with
    | none => some none
    | some text => (format? text).map some
  let maxDepth ← match given.options.lookup "max-depth" with
    | none => some Attribute.defaultLimit
    | some text => word? text
  return ⟨format, maxDepth⟩

def path? (given : Given) (name : String) : Option String :=
  (given.options.lookup name).filter (· != "")

end Given

namespace Command

def named? (name : String) (arguments : List String) : Option Command := do
  if name = "schema" then
    let given ← (usage ["field"] []).read? {} arguments
    let input ← given.input?
    match given.words with
    | [file] => if file = "" then none else some (.schema file (given.options.lookup "field") input)
    | _ => none
  else if name = "validate" then
    let given ← (usage ["schema", "value"] ["subject-only"]).read? {} arguments
    if !given.words.isEmpty then none
    return .validate (← given.path? "schema") (← given.path? "value") (given.flags.contains "subject-only")
      (← given.input?)
  else if name = "types" then
    let given ← (usage ["schema", "context"] []).read? {} arguments
    if !given.words.isEmpty then none
    return .types (← given.path? "schema") (← given.path? "context") (← given.input?)
  else none

def ofArguments? (arguments : List String) : Option Command := do
  let isWord (text : String) := (Argument.ofText text).word?.isSome
  let front := arguments.takeWhile (!isWord ·)
  if front.contains "--" then none
  let _ ← globalUsage.read? {} front
  match arguments.dropWhile (!isWord ·) with
  | name :: rest => named? name rest
  | [] => none

end Command

end Credential.CommandLine
