import Credential.Proofs.CommandLine.Report
import Credential.Proofs.CommandLine.Source

/-! What the exit code and the output of a command say.

A command ends with the verdict of the engine wherever it comes to one: 0 and
the result, or 1 and the report of the failure. It comes to none if a file
cannot be read or decoded, or if there is no field of the given name. A schema
that is rejected is a verdict on its own, whatever the other file holds.

How arguments are parsed, texts are decoded, URIs are told from other texts and
documents are written out is left to the host.
-/

set_option autoImplicit false

namespace Credential.CommandLine

namespace Command

def input : Command → Input
  | schema _ _ input | validate _ _ _ input | types _ _ input => input

def schemaFile : Command → String
  | schema file _ _ | validate file _ _ _ | types file _ _ => file

end Command

variable {host : Host} {files : String → Option String}

namespace Command

def ReadsSchema (host : Host) (files : String → Option String) (command : Command)
    (outcome : Except SchemaFault Schema) : Prop :=
  ∃ document, host.Finds files command.input command.schemaFile document ∧
    Schema.ofDocument command.input.maxDepth document = outcome

/-- The verdict of the engine on the documents of a command: the failure, or the document to print. -/
inductive Judged (host : Host) (files : String → Option String) : Command → Except Failure Json → Prop where
  | unfit {command : Command} {fault : SchemaFault} : command.ReadsSchema host files (.error fault) →
      Judged host files command (.error (.schema fault))
  | described {file : String} {input : Input} {schema : Schema} :
      (Command.schema file none input).ReadsSchema host files (.ok schema) →
      Judged host files (.schema file none input) (.ok schema.report)
  | field {file dotted : String} {input : Input} {schema : Schema} {field : Attribute} :
      (Command.schema file (some dotted) input).ReadsSchema host files (.ok schema) →
      schema.root.find? (Path.ofDotted dotted) = some field →
      Judged host files (.schema file (some dotted) input) (.ok (field.report (Path.ofDotted dotted)))
  | validated {file valueFile : String} {subjectOnly : Bool} {input : Input} {schema : Schema} {value : Json} :
      (Command.validate file valueFile subjectOnly input).ReadsSchema host files (.ok schema) →
      host.Finds files input valueFile value →
      Judged host files (.validate file valueFile subjectOnly input)
        ((schema.acceptance value subjectOnly).map fun node => node.toJson?.getD .null)
  | resolved {file contextFile : String} {input : Input} {schema : Schema} {context : Json} :
      (Command.types file contextFile input).ReadsSchema host files (.ok schema) →
      host.Finds files input contextFile context →
      Judged host files (.types file contextFile input)
        ((schema.root.bindings host.uriFault? context).map TypeBinding.report)

end Command

namespace Outcome

theorem ofResult_injective {first second : Except Failure Json} (same : ofResult first = ofResult second) :
    first = second := by
  cases first <;> cases second <;> simp_all [ofResult]

theorem exitCode_eq_one {outcome : Outcome} :
    outcome.exitCode = 1 ↔ ∃ failure, outcome = .ofResult (.error failure) := by
  cases outcome <;> simp [exitCode, ofResult]

theorem exitCode_eq_zero {outcome : Outcome} :
    outcome.exitCode = 0 ↔ ∃ report, outcome = .ofResult (.ok report) := by
  cases outcome <;> simp [exitCode, ofResult]

end Outcome

/-! ## Documents that the next step needs -/

namespace Host

variable {input : Input} {path : String} {document : Json}

theorem withSchema_eq (next : Schema → Id Outcome) : Id.run (host.withSchema files input path next) =
    match Id.run (host.load files input path) with
    | .error trouble => .trouble trouble
    | .ok document =>
      match Schema.ofDocument input.maxDepth document with
      | .error fault => .rejected (.schema fault)
      | .ok schema => Id.run (next schema) := by
  rfl

theorem withDocument_eq (next : Json → Outcome) : Id.run (host.withDocument files input path next) =
    match Id.run (host.load files input path) with
    | .error trouble => .trouble trouble
    | .ok document => next document := by
  rfl

theorem withDocument_of_finds (next : Json → Outcome) (found : host.Finds files input path document) :
    Id.run (host.withDocument files input path next) = next document := by
  simp only [withDocument_eq, load_eq_ok.mpr found]

theorem withDocument_of_not_found (next : Json → Outcome) (missing : ∀ document, ¬host.Finds files input path document) :
    ∃ trouble, Id.run (host.withDocument files input path next) = .trouble trouble := by
  obtain ⟨trouble, unloaded⟩ := load_of_not_found missing
  exact ⟨trouble, by simp only [withDocument_eq, unloaded]⟩

end Host

/-! ## Commands -/

namespace Command

variable {command : Command} {verdict : Except Failure Json} {fault : SchemaFault} {schema : Schema}

theorem withSchema_of_error (next : Schema → Id Outcome) (reads : command.ReadsSchema host files (.error fault)) :
    Id.run (host.withSchema files command.input command.schemaFile next) = .rejected (.schema fault) := by
  obtain ⟨document, found, refused⟩ := reads
  simp only [Host.withSchema_eq, Host.load_eq_ok.mpr found, refused]

theorem withSchema_of_ok (next : Schema → Id Outcome) (reads : command.ReadsSchema host files (.ok schema)) :
    Id.run (host.withSchema files command.input command.schemaFile next) = Id.run (next schema) := by
  obtain ⟨document, found, accepted⟩ := reads
  simp only [Host.withSchema_eq, Host.load_eq_ok.mpr found, accepted]

theorem withSchema_of_not_found (next : Schema → Id Outcome)
    (missing : ∀ document, ¬host.Finds files command.input command.schemaFile document) :
    ∃ trouble, Id.run (host.withSchema files command.input command.schemaFile next) = .trouble trouble := by
  obtain ⟨trouble, unloaded⟩ := Host.load_of_not_found missing
  exact ⟨trouble, by simp only [Host.withSchema_eq, unloaded]⟩

theorem carryOut_of_judged (judged : command.Judged host files verdict) :
    Id.run (host.carryOut files command) = .ofResult verdict := by
  cases judged with
  | unfit reads => cases command <;> exact withSchema_of_error _ reads
  | described reads =>
    refine (withSchema_of_ok _ reads).trans ?_
    rw [← Schema.describe_eq_report]
    rfl
  | @field file dotted input schema field reads found =>
    refine (withSchema_of_ok _ reads).trans ?_
    have described := schema.describeField?_eq_report dotted
    rw [found, Option.map_some] at described
    simp [inspect, described, Outcome.ofResult]
  | validated reads found =>
    refine (withSchema_of_ok _ reads).trans ((Host.withDocument_of_finds _ found).trans ?_)
    rw [Schema.project_eq]
  | resolved reads found => exact (withSchema_of_ok _ reads).trans (Host.withDocument_of_finds _ found)

theorem readsSchema_or (host : Host) (files : String → Option String) (command : Command) :
    (∀ document, ¬host.Finds files command.input command.schemaFile document) ∨
      (∃ fault, command.ReadsSchema host files (.error fault)) ∨ ∃ schema, command.ReadsSchema host files (.ok schema) := by
  by_cases holds : ∃ document, host.Finds files command.input command.schemaFile document
  · obtain ⟨document, found⟩ := holds
    cases outcome : Schema.ofDocument command.input.maxDepth document with
    | error fault => exact .inr (.inl ⟨fault, document, found, outcome⟩)
    | ok schema => exact .inr (.inr ⟨schema, document, found, outcome⟩)
  · exact .inl (not_exists.mp holds)

theorem trouble_of_not_judged (unjudged : ∀ verdict, ¬command.Judged host files verdict) :
    ∃ trouble, Id.run (host.carryOut files command) = .trouble trouble := by
  obtain missing | ⟨fault, reads⟩ | ⟨schema, reads⟩ := readsSchema_or host files command
  · cases command <;> exact withSchema_of_not_found _ missing
  · exact absurd (.unfit reads) (unjudged _)
  cases command with
  | schema file field input =>
    have inspected : Id.run (host.carryOut files (.schema file field input)) = inspect schema field :=
      withSchema_of_ok _ reads
    rw [inspected]
    cases field with
    | none => exact absurd (.described reads) (unjudged _)
    | some dotted =>
      cases found : schema.root.find? (Path.ofDotted dotted) with
      | none => exact ⟨.noField dotted, by simp [inspect, Schema.describeField?_eq_report, found]⟩
      | some field => exact absurd (.field reads found) (unjudged _)
  | validate file valueFile subjectOnly input =>
    obtain ⟨trouble, stopped⟩ := Host.withDocument_of_not_found
      (fun value => .ofResult (schema.project value subjectOnly)) fun value found => unjudged _ (.validated reads found)
    exact ⟨trouble, (withSchema_of_ok _ reads).trans stopped⟩
  | types file contextFile input =>
    obtain ⟨trouble, stopped⟩ := Host.withDocument_of_not_found
      (fun context => .ofResult ((schema.root.bindings host.uriFault? context).map TypeBinding.report))
      fun context found => unjudged _ (.resolved reads found)
    exact ⟨trouble, (withSchema_of_ok _ reads).trans stopped⟩

theorem judged_iff :
    command.Judged host files verdict ↔ Id.run (host.carryOut files command) = .ofResult verdict := by
  refine ⟨carryOut_of_judged, fun ended => ?_⟩
  by_cases some : ∃ other, command.Judged host files other
  · obtain ⟨other, judged⟩ := some
    exact Outcome.ofResult_injective ((carryOut_of_judged judged).symm.trans ended) ▸ judged
  · obtain ⟨trouble, stopped⟩ := trouble_of_not_judged (not_exists.mp some)
    cases verdict <;> exact nomatch stopped.symm.trans ended

end Command

/-- The exit code and the output of well-formed arguments. The exit code is 1 exactly if the engine refuses the
documents, and the report of that is printed. It is 0 exactly if the engine has a result, and that is printed. In all
other cases it is 2 and nothing is printed. -/
theorem run_outcome (host : Host) {arguments : List String} {command : Command}
    (given : host.command? arguments = some command) (files : String → Option String) :
    ((Id.run (host.run files arguments)).exitCode = 1 ↔ ∃ failure, command.Judged host files (.error failure)) ∧
      (∀ failure, command.Judged host files (.error failure) →
        (Id.run (host.run files arguments)).printed host.print = host.print failure.report ++ "\n") ∧
      ((Id.run (host.run files arguments)).exitCode = 0 ↔ ∃ report, command.Judged host files (.ok report)) ∧
      (∀ report, command.Judged host files (.ok report) →
        (Id.run (host.run files arguments)).printed host.print = host.print report ++ "\n") ∧
      ((∀ verdict, ¬command.Judged host files verdict) →
        (Id.run (host.run files arguments)).exitCode = 2 ∧
          (Id.run (host.run files arguments)).printed host.print = "") := by
  have ran : Id.run (host.run files arguments) = Id.run (host.carryOut files command) := by
    simp only [Host.run, given]
  simp only [ran, Command.judged_iff]
  refine ⟨Outcome.exitCode_eq_one, fun failure ended => ?_, Outcome.exitCode_eq_zero, fun report ended => ?_, ?_⟩
  · rw [ended, ← failure.toJson_eq_report]
    rfl
  · rw [ended]
    rfl
  · intro unjudged
    cases ended : Id.run (host.carryOut files command) with
    | success report => exact absurd ended (unjudged (.ok report))
    | rejected failure => exact absurd ended (unjudged (.error failure))
    | trouble trouble => exact ⟨rfl, rfl⟩

/-! ## A run of each kind -/

def sampleDocument : Json := .object [
  ("$metadata", .object [("uris", .object [("jsonLdContext", .string "urn:c")])]),
  ("type", .string "object"),
  ("properties", .object [("credentialSubject", .object [
    ("type", .string "object"),
    ("properties", .object [("name", .object [("type", .string "string")])])])])]

def sampleSchema : Schema :=
  ⟨.record ⟨"", true, none, none⟩ [
    .record ⟨"credentialSubject", false, none, none⟩ [.string ⟨"name", false, none, none⟩ none none]],
    "urn:c", none, none⟩

def sampleCredential : Json := .object [("credentialSubject", .object [("name", .string "Ada")])]

def sampleFiles : String → Option String
  | "schema.json" => some sampleDocument.compact
  | "credential.json" => some sampleCredential.compact
  | "array.json" => some "[]"
  | _ => none

def sampleArguments (schema value : String) : List String := ["validate", "--schema", schema, "--value", value]

def sampleCommand (schema value : String) : Command := .validate schema value false ⟨none, Attribute.defaultLimit⟩

theorem command?_sampleArguments (schema value : String) (isWord : Argument.ofText schema = .word schema)
    (isWordToo : Argument.ofText value = .word value) (given : schema ≠ "") (givenToo : value ≠ "") :
    Host.standard.command? (sampleArguments schema value) = some (sampleCommand schema value) := by
  have name : Argument.ofText "validate" = .word "validate" := rfl
  have schemaOption : Argument.ofText "--schema" = .long "schema" none := rfl
  have valueOption : Argument.ofText "--value" = .long "value" none := rfl
  simp [Host.standard, sampleArguments, sampleCommand, Command.ofArguments?, Command.named?, Usage.read?, name,
    schemaOption, isWord, valueOption, isWordToo, Argument.word?, usage, globalUsage, Given.withOption?, Given.path?,
    Given.input?, List.lookup_cons, Option.filter, given, givenToo]

theorem finds_sample {path text : String} {document : Json} (there : sampleFiles path = some text)
    (json : Format.detect path = .json) (read : Json.ofText? text = some document) :
    Host.standard.Finds sampleFiles ⟨none, Attribute.defaultLimit⟩ path document :=
  ⟨text, .json, there, Input.hasFormat_iff.mpr json, read⟩

theorem readsSchema_sample (value : String) :
    (sampleCommand "schema.json" value).ReadsSchema Host.standard sampleFiles (.ok sampleSchema) := by
  have found : Host.standard.Finds sampleFiles ⟨none, Attribute.defaultLimit⟩ "schema.json" sampleDocument :=
    finds_sample rfl (by decide) (by decide +kernel)
  exact ⟨sampleDocument, found, rfl⟩

theorem not_judged_sample (verdict : Except Failure Json) :
    ¬(sampleCommand "schema.json" "none.json").Judged Host.standard sampleFiles verdict := by
  intro judged
  obtain ⟨document, found, accepted⟩ := readsSchema_sample "none.json"
  cases judged with
  | unfit reads =>
    obtain ⟨other, foundToo, refused⟩ := reads
    cases found.unique foundToo
    exact nomatch refused.symm.trans accepted
  | validated _ found =>
    obtain ⟨text, format, there, -⟩ := found
    exact nomatch there

theorem print_sampleCredential : Host.standard.print sampleCredential ++ "\n" =
    "\x7b\n  \"credentialSubject\": \x7b\n    \"name\": \"Ada\"\n  \x7d\n\x7d\n" := by
  simp [Host.standard, sampleCredential, Json.pretty, Json.indented, Json.indentedMembers, Json.block, Json.quote,
    Json.escape, List.flatMap]

/-- A schema that is rejected although the value is missing, a value that is accepted, and one that is missing. -/
theorem run_outcome_sample :
    Host.standard.command? (sampleArguments "array.json" "none.json") = some (sampleCommand "array.json" "none.json") ∧
      (Id.run (run sampleFiles (sampleArguments "array.json" "none.json"))).exitCode = 1 ∧
      (Id.run (run sampleFiles (sampleArguments "array.json" "none.json"))).output =
        Host.standard.print (Failure.schema ⟨[.key "$metadata"], [.object], .missingMetadata⟩).report ++ "\n" ∧
    Host.standard.command? (sampleArguments "schema.json" "credential.json") =
        some (sampleCommand "schema.json" "credential.json") ∧
      (Id.run (run sampleFiles (sampleArguments "schema.json" "credential.json"))).exitCode = 0 ∧
      (Id.run (run sampleFiles (sampleArguments "schema.json" "credential.json"))).output =
        "\x7b\n  \"credentialSubject\": \x7b\n    \"name\": \"Ada\"\n  \x7d\n\x7d\n" ∧
    Host.standard.command? (sampleArguments "schema.json" "none.json") = some (sampleCommand "schema.json" "none.json") ∧
      (Id.run (run sampleFiles (sampleArguments "schema.json" "none.json"))).exitCode = 2 ∧
      (Id.run (run sampleFiles (sampleArguments "schema.json" "none.json"))).output = "" := by
  have rejected : (sampleCommand "array.json" "none.json").Judged Host.standard sampleFiles
      (.error (.schema ⟨[.key "$metadata"], [.object], .missingMetadata⟩)) :=
    .unfit ⟨.array [], finds_sample rfl (by decide) (by decide +kernel), rfl⟩
  have accepted : (sampleSchema.acceptance sampleCredential false).map (fun node => node.toJson?.getD .null) =
      .ok sampleCredential := by
    rfl
  have found : Host.standard.Finds sampleFiles ⟨none, Attribute.defaultLimit⟩ "credential.json" sampleCredential :=
    finds_sample rfl (by decide) (by decide +kernel)
  have projected : (sampleCommand "schema.json" "credential.json").Judged Host.standard sampleFiles
      (.ok sampleCredential) :=
    accepted ▸ .validated (readsSchema_sample _) found
  have given := command?_sampleArguments "array.json" "none.json" rfl rfl (by decide) (by decide)
  have givenBoth := command?_sampleArguments "schema.json" "credential.json" rfl rfl (by decide) (by decide)
  have givenOne := command?_sampleArguments "schema.json" "none.json" rfl rfl (by decide) (by decide)
  obtain ⟨refuses, reports, -⟩ := run_outcome Host.standard given sampleFiles
  obtain ⟨-, -, succeeds, prints, -⟩ := run_outcome Host.standard givenBoth sampleFiles
  obtain ⟨-, -, -, -, stops⟩ := run_outcome Host.standard givenOne sampleFiles
  exact ⟨given, refuses.mpr ⟨_, rejected⟩, reports _ rejected, givenBoth, succeeds.mpr ⟨_, projected⟩,
    (prints _ projected).trans print_sampleCredential, givenOne, stops not_judged_sample⟩

end Credential.CommandLine
