import Credential.CommandLine.Outcome
import Credential.Proofs.Pieces

/-! Where the documents of a command come from.

A document is the decoded text of a file. Its format is the one that is forced,
or else YAML exactly if the last proper component of the path is a stem with the
extension `yaml` or `yml`.
-/

set_option autoImplicit false

namespace Credential

/-! ## Formats -/

namespace Format

-- Components that are empty or a single dot do not count, and a path cannot end in a step upward.
theorem fileName?_eq_some {path : String} {name : List Char} :
    fileName? path = some name ↔ name ≠ [] ∧ name ≠ ['.'] ∧ name ≠ ['.', '.'] ∧
      ∃ before after, path.toList.splitOn '/' = before ++ name :: after ∧ ∀ piece ∈ after, piece = [] ∨ piece = ['.'] := by
  have last : ((pieces '/' path.toList).filter fun piece => piece != [] && piece != ['.']).getLast? = some name ↔
      name ≠ [] ∧ name ≠ ['.'] ∧ ∃ before after, path.toList.splitOn '/' = before ++ name :: after ∧
        ∀ piece ∈ after, piece = [] ∨ piece = ['.'] := by
    rw [pieces_eq_splitOn, List.getLast?_filter, List.find?_eq_some_iff_append]
    constructor
    · rintro ⟨proper, after, before, reversed, skipped⟩
      simp only [Bool.and_eq_true, bne_iff_ne, ne_eq] at proper
      refine ⟨proper.1, proper.2, before.reverse, after.reverse, ?_, fun piece member => ?_⟩
      · simpa using congrArg List.reverse reversed
      · have skip := skipped piece (List.mem_reverse.mp member)
        simpa [Decidable.imp_iff_not_or] using skip
    · rintro ⟨full, visible, before, after, cut, skipped⟩
      refine ⟨by simp [full, visible], after.reverse, before.reverse, by simp [cut], fun piece member => ?_⟩
      have skip := skipped piece (List.mem_reverse.mp member)
      simpa [Decidable.imp_iff_not_or] using skip
  unfold fileName?
  split
  next upward =>
    refine iff_of_false nofun ?_
    rintro ⟨full, visible, proper, found⟩
    exact proper (Option.some.inj ((last.mpr ⟨full, visible, found⟩).symm.trans upward))
  next other =>
    rw [last]
    constructor
    · rintro ⟨full, visible, found⟩
      exact ⟨full, visible, fun upward => other (last.mpr ⟨full, visible, found⟩ ▸ upward ▸ rfl), found⟩
    · rintro ⟨full, visible, -, found⟩
      exact ⟨full, visible, found⟩

theorem takeWhile_of_free {text : List Char} (free : '.' ∉ text) (rest : List Char) :
    (text ++ rest).takeWhile (· != '.') = text ++ rest.takeWhile (· != '.') :=
  List.takeWhile_append_of_pos fun c inside => by
    simpa using ne_of_mem_of_not_mem inside free

theorem extension?_append {extension : List Char} (free : '.' ∉ extension) (stem : List Char) :
    extension? (stem ++ '.' :: extension) = if stem = [] then none else some extension := by
  have taken : (stem ++ '.' :: extension).reverse.takeWhile (· != '.') = extension.reverse := by
    rw [List.reverse_append, List.reverse_cons, List.append_assoc, takeWhile_of_free (by simpa using free)]
    simp
  rw [extension?, taken]
  cases stem with
  | nil => simp
  | cons first rest =>
    have longer : extension.length + 1 < rest.length + (extension.length + 1) + 1 := by omega
    simp [longer]

theorem extension?_eq_none {name : List Char} (free : '.' ∉ name) : extension? name = none := by
  have taken := takeWhile_of_free ((not_congr List.mem_reverse).mpr free) []
  rw [List.append_nil, List.takeWhile_nil, List.append_nil] at taken
  rw [extension?, taken]
  simp

theorem extension?_eq_some {name extension : List Char} :
    extension? name = some extension ↔ '.' ∉ extension ∧ ∃ stem, stem ≠ [] ∧ name = stem ++ '.' :: extension := by
  constructor
  · intro found
    by_cases dotted : '.' ∈ name
    · obtain ⟨after, before, reversed, free⟩ := List.eq_append_cons_of_mem (List.mem_reverse.mpr dotted)
      have split : name = before.reverse ++ '.' :: after.reverse := by simpa using congrArg List.reverse reversed
      have freeToo : '.' ∉ after.reverse := (not_congr List.mem_reverse).mpr free
      rw [split, extension?_append freeToo, Option.ite_none_left_eq_some] at found
      obtain ⟨full, same⟩ := found
      obtain rfl := Option.some.inj same
      exact ⟨freeToo, before.reverse, full, split⟩
    · exact nomatch (extension?_eq_none dotted).symm.trans found
  · rintro ⟨free, stem, full, rfl⟩
    rw [extension?_append free, if_neg full]

/-- The path leads to a file with one of the extensions of YAML. -/
def SaysYaml (path : String) : Prop :=
  ∃ before stem extension after, path.toList.splitOn '/' = before ++ (stem ++ '.' :: extension) :: after ∧
    stem ≠ [] ∧ extension ∈ ["yaml".toList, "yml".toList] ∧ ∀ piece ∈ after, piece = [] ∨ piece = ['.']

theorem detect_eq_yaml {path : String} : detect path = .yaml ↔ SaysYaml path := by
  have named : detect path = .yaml ↔
      ∃ extension, (fileName? path).bind extension? = some extension ∧ extension ∈ ["yaml".toList, "yml".toList] := by
    unfold detect
    split
    next extension found => simp [found, Decidable.imp_iff_not_or]
    next missing => simp [missing]
  rw [named]
  constructor
  · rintro ⟨extension, extended, listed⟩
    obtain ⟨name, found, extended⟩ := Option.bind_eq_some_iff.mp extended
    obtain ⟨-, -, -, before, after, cut, skipped⟩ := fileName?_eq_some.mp found
    obtain ⟨-, stem, full, rfl⟩ := extension?_eq_some.mp extended
    exact ⟨before, stem, extension, after, cut, full, listed, skipped⟩
  · rintro ⟨before, stem, extension, after, cut, full, listed, skipped⟩
    have known : '.' ∉ extension ∧ 2 < extension.length := by
      simp only [List.mem_cons, List.not_mem_nil, or_false] at listed
      rcases listed with rfl | rfl <;> decide
    have proper (short : List Char) (few : short.length ≤ 2) : stem ++ '.' :: extension ≠ short := by
      intro same
      have length := congrArg List.length same
      rw [List.length_append, List.length_cons] at length
      omega
    have found : fileName? path = some (stem ++ '.' :: extension) :=
      fileName?_eq_some.mpr ⟨proper [] (by decide), proper ['.'] (by decide), proper ['.', '.'] (by decide), before, after,
        cut, skipped⟩
    exact ⟨extension, Option.bind_eq_some_iff.mpr ⟨_, found, extension?_eq_some.mpr ⟨known.1, stem, full, rfl⟩⟩, listed⟩

end Format

/-! ## Files -/

namespace CommandLine

/-- The format in which documents of the path are read. -/
def Input.HasFormat (input : Input) (path : String) (format : Format) : Prop :=
  input.format = some format ∨ input.format = none ∧ (format = .yaml ↔ Format.SaysYaml path)

/-- The file of the path can be read and decoded, and this is the document in it. -/
def Host.Finds (host : Host) (files : String → Option String) (input : Input) (path : String) (document : Json) : Prop :=
  ∃ text format, files path = some text ∧ input.HasFormat path format ∧ host.decode? format text = some document

variable {host : Host} {files : String → Option String} {input : Input} {path : String} {document : Json}

theorem Input.hasFormat_iff {format : Format} :
    input.HasFormat path format ↔ input.format.getD (Format.detect path) = format := by
  unfold HasFormat
  rw [← Format.detect_eq_yaml]
  cases input.format with
  | some forced => simp
  | none => cases format <;> cases Format.detect path <;> simp

theorem Host.load_eq : Id.run (host.load files input path) =
    match files path with
    | none => .error (.unreadable path)
    | some text =>
      match host.decode? (input.format.getD (Format.detect path)) text with
      | none => .error (.undecodable path)
      | some document => .ok document := by
  rfl

theorem Host.load_eq_ok :
    Id.run (host.load files input path) = .ok document ↔ host.Finds files input path document := by
  rw [load_eq, Finds]
  simp only [Input.hasFormat_iff]
  cases files path with
  | none => simp
  | some text => cases decoded : host.decode? (input.format.getD (Format.detect path)) text <;> simp [decoded]

theorem Host.Finds.unique {other : Json} (found : host.Finds files input path document)
    (foundToo : host.Finds files input path other) : document = other :=
  Except.ok.inj ((load_eq_ok.mpr found).symm.trans (load_eq_ok.mpr foundToo))

theorem Host.load_of_not_found (missing : ∀ document, ¬host.Finds files input path document) :
    ∃ trouble, Id.run (host.load files input path) = .error trouble := by
  cases loaded : Id.run (host.load files input path) with
  | error trouble => exact ⟨trouble, rfl⟩
  | ok document => exact absurd (load_eq_ok.mp loaded) (missing document)

end CommandLine

end Credential
