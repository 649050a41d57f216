import Credential.CommandLine.Command
import Credential.Json.Printer
import Credential.Schema.Report
import Credential.Uri.Basic

/-! What a command leads to.

A document is printed on success, and also when a schema, value or context is
rejected. Where a command cannot be carried out, nothing is printed. The schema
is judged before any other file is looked at.
-/

set_option autoImplicit false

namespace Credential.CommandLine

inductive Trouble where
  | usage
  | unreadable (path : String)
  | undecodable (path : String)
  | noField (dotted : String)

def Trouble.message : Trouble → String
  | usage => "invalid arguments"
  | unreadable path => "cannot read " ++ path
  | undecodable path => "cannot decode " ++ path
  | noField dotted => Schema.noFieldMessage dotted

inductive Outcome where
  | success (report : Json)
  | rejected (failure : Failure)
  | trouble (trouble : Trouble)

namespace Outcome

def exitCode : Outcome → UInt8
  | success _ => 0
  | rejected _ => 1
  | trouble _ => 2

def report? : Outcome → Option Json
  | success report => some report
  | rejected failure => some failure.toJson
  | trouble _ => none

def printed (print : Json → String) (outcome : Outcome) : String :=
  match outcome.report? with
  | some report => print report ++ "\n"
  | none => ""

def ofResult : Except Failure Json → Outcome
  | .ok report => .success report
  | .error failure => .rejected failure

end Outcome

/-- What the program is given: how arguments spell a command, how a text of a format is decoded, what keeps a text from
being a URI, and how a document is printed. -/
structure Host where
  command? : List String → Option Command
  decode? : Format → String → Option Json
  uriFault? : String → Option UriFault
  print : Json → String

def inspect (schema : Schema) : Option String → Outcome
  | none => .success schema.describe
  | some dotted =>
    match schema.describeField? dotted with
    | some report => .success report
    | none => .trouble (.noField dotted)

namespace Host

variable {m : Type → Type} [Monad m]

/-- Read and decode a document. `read` gives the text of a file, or none if it cannot be read. -/
def load (host : Host) (read : String → m (Option String)) (input : Input) (path : String) :
    m (Except Trouble Json) := do
  match ← read path with
  | none => return .error (.unreadable path)
  | some text =>
    match host.decode? (input.format.getD (Format.detect path)) text with
    | none => return .error (.undecodable path)
    | some document => return .ok document

def withSchema (host : Host) (read : String → m (Option String)) (input : Input) (path : String)
    (next : Schema → m Outcome) : m Outcome := do
  match ← host.load read input path with
  | .error trouble => return .trouble trouble
  | .ok document =>
    match Schema.ofDocument input.maxDepth document with
    | .error fault => return .rejected (.schema fault)
    | .ok schema => next schema

def withDocument (host : Host) (read : String → m (Option String)) (input : Input) (path : String)
    (next : Json → Outcome) : m Outcome := do
  match ← host.load read input path with
  | .error trouble => return .trouble trouble
  | .ok document => return next document

def carryOut (host : Host) (read : String → m (Option String)) : Command → m Outcome
  | .schema file field input =>
    host.withSchema read input file fun schema => return inspect schema field
  | .validate file value subjectOnly input =>
    host.withSchema read input file fun schema =>
      host.withDocument read input value fun document => .ofResult (schema.project document subjectOnly)
  | .types file context input =>
    host.withSchema read input file fun schema =>
      host.withDocument read input context fun context =>
        .ofResult ((schema.root.bindings host.uriFault? context).map fun bindings =>
          .array (bindings.map TypeBinding.toJson))

def run (host : Host) (read : String → m (Option String)) (arguments : List String) : m Outcome :=
  match host.command? arguments with
  | some command => host.carryOut read command
  | none => return .trouble .usage

/-- The host of the program as it is built here. -/
def standard : Host :=
  ⟨Command.ofArguments?, Format.decode?, Credential.uriFault?, Json.pretty⟩

end Host

def run {m : Type → Type} [Monad m] (read : String → m (Option String)) (arguments : List String) : m Outcome :=
  Host.standard.run read arguments

def Outcome.output (outcome : Outcome) : String :=
  outcome.printed Host.standard.print

end Credential.CommandLine
