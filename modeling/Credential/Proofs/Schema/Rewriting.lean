import Credential.Proofs.Schema.Widening

/-! Attributes in the place of others.

One attribute rewrites another if it makes the same documents of all that the
other accepts. It then accepts nothing else either, unless the other has a union
with an empty list for each scalar candidate. The relation is put together from
the parts of the tree, one lemma for each kind of attribute with parts.
-/

set_option autoImplicit false

namespace Credential.Attribute

def KeptNode : Attribute → Prop
  | union _ candidates => ¬Emptied candidates
  | _ => True

def Kept (field : Attribute) : Prop := field.Everywhere KeptNode

theorem keptNode_of_typed {field : Attribute} (typed : field.type?.isSome = true) : field.KeptNode := by
  cases field with
  | union => simp [type?] at typed
  | _ => trivial

theorem kept_iff {field : Attribute} :
    field.Kept ↔ ¬∃ info candidates, field.HasNode (.union info candidates) ∧ Emptied candidates :=
  everywhere_iff_unions (fun _ _ => Iff.rfl) fun _ => keptNode_of_typed

theorem kept_of_plain {field : Attribute} (plain : field.isPlain = true) : field.Kept := by
  refine everywhere_of_plain plain (keptNode_of_typed ?_)
  cases field <;> simp_all [isPlain, type?]

theorem kept_arrayOf {info : Info} {items : Attribute} : (arrayOf info items).Kept ↔ items.Kept := by
  refine everywhere_iff.trans ((and_iff_right trivial).trans ?_)
  exact List.forall_mem_singleton

theorem kept_record {info : Info} {properties : List Attribute} :
    (record info properties).Kept ↔ ∀ property ∈ properties, property.Kept :=
  everywhere_iff.trans (and_iff_right trivial)

theorem kept_union {info : Info} {candidates : List Attribute} :
    (union info candidates).Kept ↔ ¬Emptied candidates ∧ ∀ candidate ∈ candidates, candidate.Kept :=
  everywhere_iff

/-- The other attribute stands for the one: it preserves what that takes, and takes more only if that is not kept. -/
structure Rewrites (field again : Attribute) : Prop where
  regular : field.Regular
  regularAgain : again.Regular
  info : again.info = field.info
  type : again.type? = field.type?
  admitsNull : again.admitsNull = field.admitsNull
  preserves : field.Preserves again
  sound : field.Kept → ∀ document, again.Takes document → field.Takes document
  exceeds : ¬field.Kept → ∃ document, again.Takes document ∧ ¬field.Takes document

variable {field again : Attribute} {document : Json} {info : Info}

namespace Rewrites

/-! ## Values that may be absent -/

section

variable (rewrites : field.Rewrites again)

include rewrites

theorem widens : field.Widens again where
  regular := rewrites.regular
  regularAgain := rewrites.regularAgain
  name := congrArg Info.name rewrites.info
  optional := fun required => (congrArg Info.required rewrites.info).symm.trans required
  type := rewrites.type
  admitsNull := rewrites.admitsNull
  preserves := rewrites.preserves

theorem name_eq : again.name = field.name := congrArg Info.name rewrites.info

theorem required_eq : again.required = field.required := congrArg Info.required rewrites.info

theorem lacks_eq (document : Json) : again.lacks document = field.lacks document := rewrites.widens.lacks_eq document

theorem accepts_of_kept (kept : field.Kept) {value : Option Json} (accepted : again.Accepts value) :
    field.Accepts value := by
  cases value with
  | none => rwa [accepts_none rewrites.regular, ← rewrites.required_eq, ← accepts_none rewrites.regularAgain]
  | some document =>
    rw [accepts_some rewrites.regularAgain, rewrites.lacks_eq, rewrites.required_eq] at accepted
    rw [accepts_some rewrites.regular]
    split
    next lacking => simpa [lacking] using accepted
    next present => exact rewrites.sound kept document (by simpa [present] using accepted)

theorem not_accepts_of_exceeds (taken : again.Takes document) (refused : ¬field.Takes document) :
    ¬field.Accepts (some document) := by
  obtain ⟨node, accepted⟩ := taken
  have present := not_lacks_of_acceptSupplied rewrites.regularAgain accepted
  rw [rewrites.lacks_eq] at present
  rwa [accepts_some rewrites.regular, present]

end

/-! ## Attributes without typed parts -/

theorem of_plain (plain : field.isPlain = true) (plainAgain : again.isPlain = true) (sameInfo : again.info = field.info)
    (sameType : again.type? = field.type?) (same : ∀ document, again.Takes document ↔ field.Takes document) :
    field.Rewrites again where
  regular := regular_of_plain plain
  regularAgain := regular_of_plain plainAgain
  info := sameInfo
  type := sameType
  admitsNull := admitsNull_eq_of_type? (by cases field <;> simp_all [isPlain, type?]) sameType
  preserves := preserves_of_plain plain plainAgain fun document => (same document).mpr
  sound := fun _ document => (same document).mp
  exceeds := fun lost => absurd (kept_of_plain plain) lost

/-! ## Arrays and objects -/

theorem arrayOf {items itemsAgain : Attribute} (rewrites : items.Rewrites itemsAgain) :
    (Attribute.arrayOf info items).Rewrites (.arrayOf info itemsAgain) where
  regular := everywhere_iff.mpr ⟨trivial, List.forall_mem_singleton.mpr rewrites.regular⟩
  regularAgain := everywhere_iff.mpr ⟨trivial, List.forall_mem_singleton.mpr rewrites.regularAgain⟩
  info := rfl
  type := rfl
  admitsNull := rfl
  preserves := preserves_arrayOf rewrites.widens
  sound := by
    intro kept document taken
    obtain ⟨elements, rfl, all⟩ := takes_arrayOf.mp taken
    refine takes_arrayOf.mpr ⟨elements, rfl, fun element inside => ?_⟩
    exact rewrites.accepts_of_kept (kept_arrayOf.mp kept) (all element inside)
  exceeds := by
    intro lost
    obtain ⟨document, taken, refused⟩ := rewrites.exceeds (mt kept_arrayOf.mpr lost)
    refine ⟨.array [document], takes_arrayOf.mpr ⟨_, rfl, ?_⟩, fun takenToo => ?_⟩
    · exact List.forall_mem_singleton.mpr (accepts_of_takes rewrites.regularAgain taken)
    · obtain ⟨_, ⟨⟩, all⟩ := takes_arrayOf.mp takenToo
      exact rewrites.not_accepts_of_exceeds taken refused (all document List.mem_cons_self)

theorem record {properties agains : List Attribute} (regular : (Attribute.record info properties).Regular)
    (regularAgain : (Attribute.record info agains).Regular) (each : List.Forall₂ Rewrites properties agains)
    (filled : ∀ again ∈ agains, ∃ document, again.Takes document) :
    (Attribute.record info properties).Rewrites (.record info agains) where
  regular := regular
  regularAgain := regularAgain
  info := rfl
  type := rfl
  admitsNull := rfl
  preserves := preserves_record regular.record regularAgain.record (each.imp fun _ _ => widens)
  sound := by
    intro kept document taken
    obtain ⟨members, rfl, declared, all⟩ := (takes_record regularAgain.record).mp taken
    have keptAll := kept_record.mp kept
    refine (takes_record regular.record).mpr ⟨members, rfl, fun member inside => ?_, fun property listed => ?_⟩
    · obtain ⟨again, listedAgain, named, accepted⟩ := declared member inside
      obtain ⟨property, listed, rewrites⟩ := Pairing.exists_left each listedAgain
      refine ⟨property, listed, rewrites.name_eq.symm.trans named, ?_⟩
      exact rewrites.accepts_of_kept (keptAll property listed) accepted
    · obtain ⟨again, listedAgain, rewrites⟩ := Pairing.exists_right each listed
      exact rewrites.accepts_of_kept (keptAll property listed) (rewrites.name_eq ▸ all again listedAgain)
  exceeds := by
    intro lost
    obtain ⟨property, listed, lostBelow⟩ : ∃ property ∈ properties, ¬property.Kept := by
      simpa [kept_record] using lost
    obtain ⟨lossy, listedAgain, rewrites⟩ := Pairing.exists_right each listed
    obtain ⟨document, taken, refused⟩ := rewrites.exceeds lostBelow
    -- All members but that of the one property are as every property takes them.
    choose! chosen takes using filled
    have takesAll : ∀ again ∈ agains, again.Takes (if again.name = lossy.name then document else chosen again) := by
      intro again inside
      split
      next same =>
        obtain rfl := List.inj_on_of_nodup_map regularAgain.record.distinct inside listedAgain same
        exact taken
      next => exact takes again inside
    refine ⟨_, takes_record_of_each regularAgain takesAll, fun takenToo => ?_⟩
    obtain ⟨_, ⟨⟩, -, all⟩ := (takes_record regular.record).mp takenToo
    have accepted := all property listed
    rw [← rewrites.name_eq, get?_of_written regularAgain.record listedAgain, if_pos rfl] at accepted
    exact rewrites.not_accepts_of_exceeds taken refused accepted

end Rewrites

/-! ## Unions -/

section

variable {candidates agains : List Attribute} (regular : (union info candidates).Regular)
  (regularAgain : (union info agains).Regular)

include regular regularAgain

theorem Rewrites.union_of_kept (kept : ¬Emptied candidates) (each : List.Forall₂ Rewrites candidates agains) :
    (union info candidates).Rewrites (union info agains) where
  regular := regular
  regularAgain := regularAgain
  info := rfl
  type := rfl
  admitsNull := admitsNull_union_eq (Pairing.map_eq each fun _ _ rewrites => rewrites.type.symm).symm
  preserves := preserves_union regularAgain.union fun _ inside =>
    (Pairing.exists_right each inside).imp fun _ => .imp_right Rewrites.preserves
  sound := by
    intro keptToo document taken
    obtain ⟨again, member, takenAgain⟩ := takes_union.mp taken
    obtain ⟨candidate, inside, rewrites⟩ := Pairing.exists_left each member
    have keptCandidate := (kept_union.mp keptToo).2 candidate inside
    exact takes_union.mpr ⟨candidate, inside, rewrites.sound keptCandidate document takenAgain⟩
  exceeds := by
    intro lost
    obtain ⟨candidate, inside, lostBelow⟩ : ∃ candidate ∈ candidates, ¬candidate.Kept := by
      simpa [kept_union, kept] using lost
    obtain ⟨again, member, rewrites⟩ := Pairing.exists_right each inside
    obtain ⟨document, taken, refused⟩ := rewrites.exceeds lostBelow
    refine ⟨document, takes_union.mpr ⟨again, member, taken⟩, fun takenToo => ?_⟩
    obtain ⟨other, insideToo, takenOther⟩ := takes_union.mp takenToo
    obtain ⟨otherAgain, memberToo, rewritesToo⟩ := Pairing.exists_right each insideToo
    -- If another candidate took the document, both would be scalars, and those are kept.
    obtain rfl | ⟨-, scalar⟩ :=
      regularAgain.union.eq_or_scalar memberToo member (rewritesToo.preserves.takes takenOther) taken
    · have same := List.inj_on_of_nodup_map regular.union.distinct insideToo inside
        (rewritesToo.type.symm.trans rewrites.type)
      exact refused (same ▸ takenOther)
    · rw [isScalar, rewrites.type] at scalar
      exact lostBelow (kept_of_plain (isPlain_of_isScalar scalar))

theorem Rewrites.union_of_emptied (emptied : Emptied candidates)
    (each : List.Forall₂ (fun candidate again => again.type? = candidate.type? ∧ candidate.Preserves again)
      candidates agains)
    (unrestricted : ∃ again ∈ agains, ∃ type, again.type? = some type ∧ type.supportsEnum = true ∧
      again.allowed? = none) : (union info candidates).Rewrites (union info agains) where
  regular := regular
  regularAgain := regularAgain
  info := rfl
  type := rfl
  admitsNull := admitsNull_union_eq (Pairing.map_eq each fun _ _ both => both.1.symm).symm
  preserves := preserves_union regularAgain.union fun _ inside =>
    (Pairing.exists_right each inside).imp fun _ => .imp_right And.right
  sound := fun kept => absurd emptied (kept_union.mp kept).1
  exceeds := by
    intro _
    obtain ⟨again, member, type, typed, scalar, free⟩ := unrestricted
    obtain ⟨document, shape⟩ := Json.exists_hasShape type
    have taken : again.Takes document := (takes_scalar typed scalar).mpr ⟨shape, by simp [free]⟩
    refine ⟨document, takes_union.mpr ⟨again, member, taken⟩, fun takenToo => ?_⟩
    obtain ⟨candidate, inside, takenCandidate⟩ := takes_union.mp takenToo
    obtain ⟨other, typedToo⟩ := Option.isSome_iff_exists.mp (regular.union.typed candidate inside)
    have shapeToo := hasShape_of_takes typedToo takenCandidate
    -- The value has the shape of a scalar, so that only scalars could take it.
    have scalarToo : other.supportsEnum = true := by
      obtain rfl | ⟨-, ⟨rfl, rfl⟩ | ⟨rfl, rfl⟩⟩ := Json.eq_or_numeric_of_hasShape shape shapeToo
      · exact scalar
      · rfl
      · rfl
    have empty := emptied.2 candidate inside (by simp [isScalar, typedToo, scalarToo])
    obtain ⟨entry, listed, -⟩ := ((takes_scalar typedToo scalarToo).mp takenCandidate).2 [] empty
    exact absurd listed List.not_mem_nil

end

end Credential.Attribute
