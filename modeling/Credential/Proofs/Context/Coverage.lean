import Credential.Proofs.Context.Binding

/-! Subjects with fewer properties.

The layout of a context does not depend on the subject, and a type that covers
some names covers any part of them. So a subject with fewer property names is
bound to the same types in the same order, with others among them perhaps. All
that counts of a subject is which names its properties have.
-/

set_option autoImplicit false

namespace Credential

namespace Context

variable {check : String → Option UriFault} {names fewer : List String} {context : Json}

section

variable (subset : fewer ⊆ names)

include subset

theorem missing_eq_nil_of_subset {terms : Option Members} (covers : missing terms names = []) :
    missing terms fewer = [] := by
  rw [missing, List.filter_eq_nil_iff] at covers ⊢
  exact fun name inside => covers name (subset inside)

/-! ## The nested layout -/

-- Definitions are the same for all names. Only what they lack differs.
theorem covering_sublist (entries : Members) :
    (((definitions check names entries).filter fun found => found.2.isEmpty).map Prod.fst).Sublist
      (((definitions check fewer entries).filter fun found => found.2.isEmpty).map Prod.fst) := by
  induction entries with
  | nil => exact .refl _
  | cons entry rest ih =>
    obtain ⟨name, entry⟩ := entry
    simp only [definitions, List.filterMap_cons] at ih ⊢
    cases definition? check entry with
    | none => exact ih
    | some found =>
      obtain ⟨id, terms⟩ := found
      simp only [Option.map_some, List.filter_cons, List.isEmpty_iff]
      by_cases covers : missing terms names = []
      · rw [if_pos covers, if_pos (missing_eq_nil_of_subset subset covers)]
        exact ih.cons_cons _
      · rw [if_neg covers]
        split
        · exact ih.cons _
        · exact ih

theorem nested_bound_of_subset {types : List TypeBinding} (bound : nested check names context = .bound types) :
    ∃ more, nested check fewer context = .bound more ∧ types.Sublist more := by
  unfold nested at bound
  split at bound
  next entries present =>
    simp only [Bool.not_eq_eq_eq_not, Bool.not_true, List.isEmpty_eq_false_iff] at bound
    split at bound
    next covering =>
      obtain rfl := Attempt.bound.inj bound
      have sublist := @covering_sublist check _ _ subset entries
      -- Some definition covers all names, and so it covers fewer.
      have nonempty : (definitions check fewer entries).filter (fun found => found.2.isEmpty) ≠ [] := by
        intro empty
        rw [empty, List.map_nil, List.sublist_nil, List.map_eq_nil_iff] at sublist
        exact covering sublist
      exact ⟨_, by rw [nested_of_entries present, if_pos (by simpa using nonempty)], sublist⟩
    next => split at bound <;> exact nomatch bound
  all_goals exact nomatch bound

end

/-! ## The flat layout -/

/-- The names come in only at the end, when all else about the layout is settled. -/
theorem flat_cases (check : String → Option UriFault) (context : Json) :
    (∃ fault, ∀ names, flat check names context = .mismatch fault) ∨
      ∃ terms binding, ∀ names, flat check names context =
        if (missing (some terms) names).isEmpty then .bound [binding]
        else .uncovered (.subjectLacks (missing (some terms) names)) := by
  unfold flat
  cases (context.get? "@context").bind Json.object? with
  | none => exact .inl ⟨_, fun _ => rfl⟩
  | some outer =>
    simp only
    cases ((Members.get? outer "credentialSubject").bind (·.get? "@context")).bind Json.object? with
    | none => exact .inl ⟨_, fun _ => rfl⟩
    | some terms =>
      cases (Members.get? outer "schema-id").bind Json.string? with
      | none => exact .inl ⟨_, fun _ => rfl⟩
      | some base =>
        simp only
        cases check base with
        | some fault => exact .inl ⟨_, fun _ => rfl⟩
        | none =>
          simp only
          split
          · exact .inl ⟨_, fun _ => rfl⟩
          next name _ _ =>
            cases check (base ++ name) with
            | some fault => exact .inl ⟨_, fun _ => rfl⟩
            | none => exact .inr ⟨terms, ⟨base ++ name, name⟩, fun _ => rfl⟩
          · exact .inl ⟨_, fun _ => rfl⟩

theorem flat_bound_of_subset (subset : fewer ⊆ names) {types : List TypeBinding}
    (bound : flat check names context = .bound types) : flat check fewer context = .bound types := by
  obtain ⟨fault, mismatch⟩ | ⟨terms, binding, only⟩ := flat_cases check context
  · exact nomatch (mismatch names).symm.trans bound
  · simp only [only, List.isEmpty_iff] at bound ⊢
    split at bound
    next covers => rw [if_pos (missing_eq_nil_of_subset subset covers), bound]
    next => exact nomatch bound

/-! ## Both layouts -/

theorem bindings_of_subset (subset : fewer ⊆ names) {types : List TypeBinding}
    (bound : bindings check names context = .ok types) :
    ∃ more, bindings check fewer context = .ok more ∧ types.Sublist more := by
  obtain nested | flat := bindings_eq_ok_iff.mp bound
  · obtain ⟨more, nested, sublist⟩ := nested_bound_of_subset subset nested
    exact ⟨more, bindings_eq_ok_iff.mpr (.inl nested), sublist⟩
  · exact ⟨types, bindings_eq_ok_iff.mpr (.inr (flat_bound_of_subset subset flat)), .refl types⟩

theorem bindings_eq_of_same_names {others : List String} (subset : others ⊆ names) (superset : names ⊆ others)
    {types : List TypeBinding} (bound : bindings check names context = .ok types) :
    bindings check others context = .ok types := by
  obtain ⟨more, boundToo, sublist⟩ := bindings_of_subset subset bound
  obtain ⟨again, boundAgain, sublistBack⟩ := bindings_of_subset superset boundToo
  obtain rfl := Except.ok.inj (bound.symm.trans boundAgain)
  rwa [sublist.antisymm sublistBack]

end Context

namespace Attribute

/-- A context that binds types to the subject of one schema binds types to that of another whose properties have no
other names: all of the former, in their order, and perhaps more in between. Where the names are the same, so are the
types. -/
theorem bindings_monotone {check : String → Option UriFault} {root other subject smaller : Attribute}
    (found : root.credentialSubject? = some subject) (foundToo : other.credentialSubject? = some smaller)
    (subset : smaller.propertyNames ⊆ subject.propertyNames) (context : Json) :
    (∀ types, root.bindings check context = .ok types →
      ∃ more, other.bindings check context = .ok more ∧ types.Sublist more) ∧
    (subject.propertyNames ⊆ smaller.propertyNames →
      ∀ types, root.bindings check context = .ok types ↔ other.bindings check context = .ok types) := by
  simp only [bindings_eq found, bindings_eq foundToo, Success.mapError_eq_ok]
  refine ⟨fun types => Context.bindings_of_subset subset, fun superset types => ?_⟩
  exact ⟨Context.bindings_eq_of_same_names subset superset, Context.bindings_eq_of_same_names superset subset⟩

def sampleAged : Attribute :=
  .record ⟨"", true, none, none⟩ [
    .record ⟨"credentialSubject", true, none, none⟩ [.string ⟨"age", true, none, none⟩ none none]]

theorem bindings_monotone_sample :
    ∃ subject smaller, sample.credentialSubject? = some subject ∧ sampleAged.credentialSubject? = some smaller ∧
      smaller.propertyNames ⊆ subject.propertyNames ∧
      ∃ types more, sample.bindings sampleUriFault? sampleContext = .ok types ∧ types.map TypeBinding.name = ["A", "C"] ∧
        sampleAged.bindings sampleUriFault? sampleContext = .ok more ∧ more.map TypeBinding.name = ["A", "B", "C"] ∧
        types.Sublist more := by
  have subset : ["age"] ⊆ ["tags", "age", "address"] := by decide
  obtain ⟨more, bound, sublist⟩ :=
    (@bindings_monotone sampleUriFault? sample sampleAged _ _ rfl rfl subset sampleContext).1 _ rfl
  refine ⟨_, _, rfl, rfl, subset, _, more, rfl, rfl, bound, ?_, sublist⟩
  obtain rfl := Except.ok.inj bound
  rfl

end Attribute

end Credential
