import Credential.Proofs.Value.Acceptance

/-! Objects with declared properties.

Members are accepted in their own order and then put to the properties. Where
the names of the properties are distinct, this comes to accepting each property
on its own: with the member of its name, or with nothing.
-/

set_option autoImplicit false

namespace Credential.Attribute

open Success

variable {path : Path} {properties : List Attribute}

theorem find?_name_eq_some (distinct : (properties.map name).Nodup) {property : Attribute} {key : String} :
    (properties.find? fun other => other.name == key) = some property ↔ property ∈ properties ∧ property.name = key :=
  find?_image_eq_some distinct

theorem acceptMember_eq_ok {key : String} {member : Json} {node : Value} :
    acceptMember path key member properties = .ok node ↔
      ∃ property, (properties.find? fun other => other.name == key) = some property ∧
        property.accept (some member) = .ok node := by
  rw [acceptMember_eq]
  split
  next unknown => simp [Rejection.throw, unknown]
  next property found => simp [found, acceptAt_eq_ok]

theorem find?_supplied {members : Members} {supplied : List Value} {name : String}
    (each : List.Forall₂ (fun member node => ∃ property, (properties.find? fun other => other.name == member.1) =
      some property ∧ property.accept (some member.2) = .ok node) members supplied) :
    (members.get? name = none ∧ (supplied.find? fun node => node.name == name) = none) ∨
      ∃ member node property, members.get? name = some member ∧
        (supplied.find? fun node => node.name == name) = some node ∧
        (properties.find? fun other => other.name == name) = some property ∧
        property.accept (some member) = .ok node := by
  induction each with
  | nil => exact .inl ⟨rfl, rfl⟩
  | @cons member node members supplied first _ ih =>
    obtain ⟨key, document⟩ := member
    obtain ⟨property, found, accepted⟩ := first
    have named : node.name = key := by
      have taken := List.find?_some found
      exact (name_of_acceptAt accepted).trans (eq_of_beq taken)
    -- Either this member is the first of the name, or both lists are searched further.
    by_cases same : name = key
    · subst same
      refine .inr ⟨document, node, property, List.lookup_cons_self, ?_, found, accepted⟩
      exact List.find?_cons_of_pos (beq_iff_eq.mpr named)
    · have skipMember : Members.get? ((key, document) :: members) name = Members.get? members name := by
        simp [Members.get?, List.lookup_cons, beq_false_of_ne same]
      have skipNode : ((node :: supplied).find? fun node => node.name == name) =
          supplied.find? fun node => node.name == name :=
        List.find?_cons_of_neg (by simpa [named] using fun back => same back.symm)
      rw [skipMember, skipNode]
      exact ih

-- A property of a name of its own does not come before another of that name.
theorem fresh_cons {property : Attribute} {rest : List Attribute} {before : List String}
    (once : property.name ∉ rest.map name) (fresh : ∀ other ∈ rest, other.name ∉ before) :
    ∀ other ∈ rest, other.name ∉ property.name :: before := by
  intro other member
  refine List.not_mem_cons_of_ne_of_not_mem (fun same => once ?_) (fresh other member)
  exact same ▸ List.mem_map_of_mem member

theorem complete_eq_ok {supplied nodes : List Value} {before : List String}
    (distinct : (properties.map name).Nodup) (fresh : ∀ property ∈ properties, property.name ∉ before) :
    complete path supplied before properties = .ok nodes ↔
      List.Forall₂ (fun property node =>
        (supplied.find? fun node => node.name == property.name) = some node ∨
          (supplied.find? fun node => node.name == property.name) = none ∧
            property.accept none = .ok node) properties nodes := by
  induction properties generalizing before nodes with
  | nil => cases nodes <;> simp [complete]
  | cons property rest ih =>
    obtain ⟨new, fresh⟩ := List.forall_mem_cons.mp fresh
    obtain ⟨once, distinct⟩ := List.nodup_cons.mp distinct
    have later := fresh_cons once fresh
    simp only [complete, if_neg new, List.forall₂_cons_left_iff]
    split
    next node found =>
      simp only [bind_eq_ok, pure_eq_ok, ih distinct later, found, Except.ok.injEq, Option.some.injEq, reduceCtorEq,
        false_and, or_false]
      constructor
      · rintro ⟨_, rfl, others, tail, rfl⟩
        exact ⟨_, others, rfl, tail, rfl⟩
      · rintro ⟨_, others, rfl, tail, rfl⟩
        exact ⟨_, rfl, others, tail, rfl⟩
    next missing =>
      simp only [bind_eq_ok, pure_eq_ok, ih distinct later, missing, reduceCtorEq, true_and, false_or]
      constructor
      · rintro ⟨node, accepted, others, tail, rfl⟩
        exact ⟨node, others, acceptAbsent_eq_ok.mp accepted, tail, rfl⟩
      · rintro ⟨node, others, accepted, tail, rfl⟩
        exact ⟨node, acceptAbsent_eq_ok.mpr accepted, others, tail, rfl⟩

theorem objectsLast_nodes {given : Attribute → Option Json} {nodes : List Value} (regular : RegularRecord properties)
    (children : List.Forall₂ (fun property child => property.accept (given property) = .ok child) properties nodes) :
    objectsLast (fun node : Value => node.field.isObject) nodes = nodes := by
  apply objectsLast_eq_self_of_map_eq regular.ordered
  exact (Pairing.map_eq children fun _ _ accepted => by rw [field_of_acceptAt accepted]).symm

/-- An object is accepted if each member is by the property of its key, and each property is with its member or with
nothing. Its node has one child for each property, in their stored order. -/
theorem acceptSupplied_record {info : Info} (regular : RegularRecord properties) {document : Json} {node : Value} :
    (record info properties).acceptSupplied document path = .ok node ↔
      ∃ members nodes, document = .object members ∧
        (∀ member ∈ members, ∃ property ∈ properties, property.name = member.1 ∧
          ∃ child, property.accept (some member.2) = .ok child) ∧
        List.Forall₂ (fun property child => property.accept (Members.get? members property.name) = .ok child)
          properties nodes ∧
        node = .record (.record info properties) nodes := by
  cases document with
  | object members =>
    -- The members yield exactly what each property takes, since a name leads to one property.
    have each_iff {supplied : List Value}
        (each : List.Forall₂ (fun member node => ∃ property, (properties.find? fun other => other.name == member.1) =
          some property ∧ property.accept (some member.2) = .ok node) members supplied) (nodes : List Value) :
        complete path supplied [] properties = .ok nodes ↔
          List.Forall₂ (fun property child => property.accept (Members.get? members property.name) = .ok child)
            properties nodes := by
      rw [complete_eq_ok regular.distinct fun _ _ => List.not_mem_nil]
      apply Pairing.congr_left
      intro property inside child
      obtain ⟨lacking, missing⟩ | ⟨member, given, other, present, found, first, accepted⟩ :=
        @find?_supplied _ _ _ property.name each
      · simp [lacking, missing]
      · obtain rfl : property = other := by
          rw [(find?_name_eq_some regular.distinct).mpr ⟨inside, rfl⟩] at first
          exact Option.some.inj first
        simp [present, found, accepted]
    simp only [acceptSupplied, bind_eq_ok, pure_eq_ok, mapM_eq_ok, acceptMember_eq_ok]
    constructor
    · rintro ⟨supplied, each, nodes, completed, rfl⟩
      have children := (each_iff each nodes).mp completed
      refine ⟨members, nodes, rfl, fun member inside => ?_, children, ?_⟩
      · obtain ⟨child, -, property, found, accepted⟩ := Pairing.exists_right each inside
        obtain ⟨declared, named⟩ := (find?_name_eq_some regular.distinct).mp found
        exact ⟨property, declared, named, child, accepted⟩
      · rw [objectsLast_nodes regular children]
    · rintro ⟨_, nodes, ⟨⟩, declared, children, rfl⟩
      have accepts : ∀ member ∈ members, ∃ child property,
          (properties.find? fun other => other.name == member.1) = some property ∧
            property.accept (some member.2) = .ok child := by
        intro member inside
        obtain ⟨property, listed, named, child, accepted⟩ := declared member inside
        exact ⟨child, property, (find?_name_eq_some regular.distinct).mpr ⟨listed, named⟩, accepted⟩
      obtain ⟨supplied, each⟩ := Pairing.exists_pairing accepts
      refine ⟨supplied, each, nodes, (each_iff each nodes).mpr children, ?_⟩
      rw [objectsLast_nodes regular children]
  | _ => simp [acceptSupplied, mismatch, Rejection.throw]

end Credential.Attribute
