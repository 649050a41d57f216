import Credential.Proofs.Value.Stability

/-! The claims of a credential, checked alone or as a part of it.

Both ways lead to the same property, and acceptance does not depend on the
place. So they agree on what is accepted. They agree on what is rejected as well,
where nothing in front of the claims is rejected first.
-/

set_option autoImplicit false

namespace Credential

namespace Attribute

open Success

variable {path : Path} {info : Info} {properties : List Attribute} {property : Attribute} {members : Members}
  {value : Json} {node : Value}

theorem property?_of_acceptSupplied (regular : RegularRecord properties) (member : property ∈ properties)
    (given : members.get? property.name = some value)
    (accepted : (record info properties).acceptSupplied (.object members) path = .ok node) :
    ∃ child, property.accept (some value) = .ok child ∧ node.property? property.name = some child := by
  obtain ⟨_, nodes, ⟨⟩, -, children, rfl⟩ := (acceptSupplied_record regular).mp accepted
  obtain ⟨child, stored, taken⟩ := Pairing.exists_right children member
  rw [given] at taken
  have distinct : (nodes.map Value.name).Nodup := names_of_accept children ▸ regular.distinct
  exact ⟨child, taken, (find?_image_eq_some distinct).mpr ⟨stored, name_of_acceptAt taken⟩⟩

theorem acceptSupplied_eq_error {before after : Members} {rejection : Rejection} (regular : RegularRecord properties)
    (member : property ∈ properties)
    (passed : ∀ earlier ∈ before, ∃ other, (record info properties).property? earlier.1 = some other ∧
      ∃ child, other.accept (some earlier.2) = .ok child)
    (rejected : property.acceptAt (some value) (path.key property.name) = .error rejection) :
    (record info properties).acceptSupplied (.object (before ++ (property.name, value) :: after)) path =
      .error rejection := by
  have failed : acceptMember path property.name value properties = .error rejection := by
    rw [acceptMember_eq, (find?_name_eq_some regular.distinct).mpr ⟨member, rfl⟩]
    exact rejected
  have accepted : ∀ earlier ∈ before, ∃ child, acceptMember path earlier.1 earlier.2 properties = .ok child := by
    intro earlier inside
    obtain ⟨other, found, child, taken⟩ := passed earlier inside
    exact ⟨child, acceptMember_eq_ok.mpr ⟨other, found, taken⟩⟩
  simp only [acceptSupplied]
  rw [mapM_eq_error accepted failed]
  rfl

end Attribute

namespace Schema

open Success

theorem validate_object (schema : Schema) (members : Members) :
    schema.validate (.object members) = schema.root.acceptSupplied (.object members) [] :=
  rfl

theorem validateSubject_eq {schema : Schema} {subject : Attribute}
    (found : schema.root.credentialSubject? = some subject) (claims : Json) :
    schema.validateSubject claims =
      (subject.acceptAt (some claims) (Path.key [] "credentialSubject")).mapError Failure.value := by
  rw [validateSubject, found]

section

variable {schema : Schema} {subject : Attribute} {members : Members} {claims : Json} (regular : schema.root.Regular)
  (found : schema.root.credentialSubject? = some subject)

include regular found

theorem subject_of_validate {node : Value} (given : members.get? "credentialSubject" = some claims)
    (accepted : schema.validate (.object members) = .ok node) :
    ∃ part, schema.validateSubject claims = .ok part ∧ node.property? "credentialSubject" = some part := by
  obtain ⟨info, properties, root, member, named, -⟩ := Attribute.isSubjectOf_of_credentialSubject? found
  rw [validate_object, root] at accepted
  rw [root] at regular
  obtain ⟨part, taken, stored⟩ := Attribute.property?_of_acceptSupplied regular.record member (named ▸ given) accepted
  refine ⟨part, ?_, named ▸ stored⟩
  rw [validateSubject_eq found, mapError_eq_ok]
  exact Attribute.acceptAt_eq_ok.mpr taken

-- The claims are looked at in the place where they are reported when checked alone.
theorem validate_eq_error {before after : Members} {failure : Failure}
    (passed : ∀ member ∈ before, ∃ property, schema.root.property? member.1 = some property ∧
      ∃ child, property.accept (some member.2) = .ok child)
    (rejected : schema.validateSubject claims = .error failure) :
    (schema.validate (.object (before ++ ("credentialSubject", claims) :: after))).mapError Failure.value =
      .error failure := by
  obtain ⟨info, properties, root, member, named, -⟩ := Attribute.isSubjectOf_of_credentialSubject? found
  rw [validateSubject_eq found, ← named] at rejected
  obtain ⟨rejection, alone, rfl⟩ := mapError_eq_error.mp rejected
  rw [root] at regular passed
  rw [validate_object, root, ← named, Attribute.acceptSupplied_eq_error regular.record member passed alone]
  rfl

end

/-- A credential that is accepted holds the claims as they are accepted alone. Where the claims alone are rejected, so
is the credential, and for the same reason if the members in front of the claims are declared and pass. -/
theorem validateSubject_agrees {limit : Nat} {document : Json} {schema : Schema} {subject : Attribute}
    {members : Members} {claims : Json} (distinct : document.DistinctKeys)
    (read : ofDocument limit document = .ok schema) (found : schema.root.credentialSubject? = some subject)
    (given : members.get? "credentialSubject" = some claims) :
    (∀ node, schema.validate (.object members) = .ok node →
        ∃ part, schema.validateSubject claims = .ok part ∧ node.property? "credentialSubject" = some part) ∧
      ∀ failure, schema.validateSubject claims = .error failure →
        (∃ rejection, schema.validate (.object members) = .error rejection) ∧
          ∀ before after, members = before ++ ("credentialSubject", claims) :: after →
            (∀ member ∈ before, ∃ property, schema.root.property? member.1 = some property ∧
              ∃ child, property.accept (some member.2) = .ok child) →
            (schema.validate (.object members)).mapError Failure.value = .error failure := by
  have regular := regular_of_ofDocument distinct read
  refine ⟨fun node accepted => subject_of_validate regular found given accepted, fun failure rejected => ⟨?_, ?_⟩⟩
  · cases whole : schema.validate (.object members) with
    | error rejection => exact ⟨rejection, rfl⟩
    | ok node =>
      obtain ⟨part, taken, -⟩ := subject_of_validate regular found given whole
      exact nomatch rejected.symm.trans taken
  · rintro before after rfl passed
    exact validate_eq_error regular found passed rejected

def sampleDocument : Json :=
  .object [
    ("$metadata", .object [("uris", .object [("jsonLdContext", .string "https://example/ctx")])]),
    ("type", .string "object"),
    ("properties", .object [
      ("issuer", .object [("type", .string "string")]),
      ("credentialSubject", .object [
        ("type", .string "object"),
        ("properties", .object [("age", .object [("type", .string "integer")])])])])]

theorem validateSubject_agrees_sample :
    sampleDocument.DistinctKeys ∧ ∃ schema subject, ofDocument 4 sampleDocument = .ok schema ∧
      schema.root.credentialSubject? = some subject ∧
      (∃ node part, schema.validate (.object [("credentialSubject", .object [])]) = .ok node ∧
        schema.validateSubject (.object []) = .ok part ∧ node.property? "credentialSubject" = some part) ∧
      ∃ failure, schema.validateSubject (.object [("age", .bool true)]) = .error failure ∧
        (schema.validate (.object [("issuer", .string "a"),
          ("credentialSubject", .object [("age", .bool true)])])).mapError Failure.value = .error failure := by
  have distinct : sampleDocument.DistinctKeys := by
    simp [sampleDocument, Json.DistinctKeys, Json.DistinctKeysMembers]
  refine ⟨distinct, _, _, rfl, rfl, ?_, ?_⟩
  · obtain ⟨part, alone, stored⟩ := (@validateSubject_agrees 4 sampleDocument _ _ [("credentialSubject", .object [])]
      (.object []) distinct rfl rfl rfl).1 _ rfl
    exact ⟨_, part, rfl, alone, stored⟩
  · refine ⟨_, rfl, ((@validateSubject_agrees 4 sampleDocument _ _
      [("issuer", .string "a"), ("credentialSubject", .object [("age", .bool true)])]
      (.object [("age", .bool true)]) distinct rfl rfl rfl).2 _ rfl).2 [("issuer", .string "a")] [] rfl ?_⟩
    intro member inside
    obtain rfl := List.mem_singleton.mp inside
    exact ⟨_, rfl, _, rfl⟩

end Schema

end Credential
