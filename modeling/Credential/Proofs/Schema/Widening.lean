import Credential.Proofs.Schema.RoundTrip
import Credential.Proofs.Value.Projection
import Credential.Proofs.Value.Taking

/-! Attributes that accept at least as much as others.

One attribute widens another if it makes the same documents of all that the
other accepts. It may accept other values too, and may be optional where the
other one is required. The lemmas go through the kinds of attributes: what parts
preserve, the whole preserves.
-/

set_option autoImplicit false

namespace Credential.Attribute

def Preserves (field again : Attribute) : Prop :=
  ∀ document node, field.acceptSupplied document [] = .ok node →
    ∃ other, again.acceptSupplied document [] = .ok other ∧ other.toJson? = node.toJson?

/-- The other attribute may stand where the one does: it preserves what that takes, and is not required unless that is.
-/
structure Widens (field again : Attribute) : Prop where
  regular : field.Regular
  regularAgain : again.Regular
  name : again.name = field.name
  optional : again.required = true → field.required = true
  type : again.type? = field.type?
  admitsNull : again.admitsNull = field.admitsNull
  preserves : field.Preserves again

variable {field again : Attribute} {document : Json} {info infoAgain : Info}

theorem Preserves.takes (preserves : field.Preserves again) (taken : field.Takes document) : again.Takes document := by
  obtain ⟨node, accepted⟩ := taken
  obtain ⟨other, acceptedAgain, -⟩ := preserves document node accepted
  exact ⟨other, acceptedAgain⟩

theorem admitsNull_eq_of_type? (typed : field.type?.isSome = true) (same : again.type? = field.type?) :
    again.admitsNull = field.admitsNull := by
  cases field <;> cases again <;> simp_all [type?, admitsNull]

/-! ## Values that may be absent -/

namespace Widens

section

variable (widens : field.Widens again)

include widens

theorem lacks_eq (document : Json) : again.lacks document = field.lacks document := by
  rw [lacks, lacks, widens.admitsNull]

theorem preserves_absent {node : Value} (accepted : field.acceptAbsent [] = .ok node) :
    ∃ other, again.acceptAbsent [] = .ok other ∧ other.toJson? = node.toJson? := by
  have optional := (exists_acceptAbsent_iff widens.regular).mp ⟨node, accepted⟩
  have optionalAgain : again.required = false := by
    rw [Bool.eq_false_iff]
    exact fun required => Bool.false_ne_true (optional.symm.trans (widens.optional required))
  obtain ⟨other, acceptedAgain⟩ := (exists_acceptAbsent_iff widens.regularAgain).mpr optionalAgain
  refine ⟨other, acceptedAgain, ?_⟩
  rw [(isAbsent_of_acceptAbsent acceptedAgain).2.1, (isAbsent_of_acceptAbsent accepted).2.1]

theorem preserves_accept {value : Option Json} {node : Value} (accepted : field.accept value = .ok node) :
    ∃ other, again.accept value = .ok other ∧ other.toJson? = node.toJson? := by
  cases value with
  | none => exact widens.preserves_absent accepted
  | some document =>
    simp only [accept, acceptAt, widens.lacks_eq] at accepted ⊢
    split at accepted
    next lacking =>
      rw [if_pos lacking]
      exact widens.preserves_absent accepted
    next present =>
      rw [if_neg present]
      exact widens.preserves document node accepted

theorem accepts {value : Option Json} (accepted : field.Accepts value) : again.Accepts value := by
  obtain ⟨node, accepted⟩ := accepted
  obtain ⟨other, acceptedAgain, -⟩ := widens.preserves_accept accepted
  exact ⟨other, acceptedAgain⟩

end

end Widens

/-! ## The kinds of attributes -/

theorem preserves_of_plain (plain : field.isPlain = true) (plainAgain : again.isPlain = true)
    (takes : ∀ document, field.Takes document → again.Takes document) : field.Preserves again := by
  intro document node accepted
  obtain ⟨other, acceptedAgain⟩ := takes document ⟨node, accepted⟩
  refine ⟨other, acceptedAgain, ?_⟩
  rw [(plain_of_acceptSupplied plainAgain acceptedAgain).1, (plain_of_acceptSupplied plain accepted).1]

theorem preserves_arrayOf {items itemsAgain : Attribute} (widens : items.Widens itemsAgain) :
    (arrayOf info items).Preserves (arrayOf infoAgain itemsAgain) := by
  intro document node accepted
  obtain ⟨elements, nodes, rfl, each, rfl⟩ := acceptSupplied_arrayOf.mp accepted
  obtain ⟨others, eachAgain, same⟩ : ∃ others,
      List.Forall₂ (fun element other => itemsAgain.accept (some element) = .ok other) elements others ∧
      List.Forall₂ (fun node other => other.toJson? = node.toJson?) nodes others :=
    Pairing.exists_third each fun _ _ accepted => widens.preserves_accept accepted
  refine ⟨_, acceptSupplied_arrayOf.mpr ⟨elements, others, rfl, eachAgain, rfl⟩, ?_⟩
  have parts : others.map (fun node => node.toJson?.getD .null) = nodes.map fun node => node.toJson?.getD .null :=
    (Pairing.map_eq same fun node other equal => by rw [equal]).symm
  rw [Value.toJson?, Value.toJson?, Value.itemsToJson_eq, Value.itemsToJson_eq, parts]

theorem preserves_record {properties agains : List Attribute} (regular : RegularRecord properties)
    (regularAgain : RegularRecord agains) (each : List.Forall₂ Widens properties agains) :
    (record info properties).Preserves (record infoAgain agains) := by
  intro document node accepted
  obtain ⟨members, nodes, rfl, declared, children, rfl⟩ := (acceptSupplied_record regular).mp accepted
  -- What a property makes of its member, its counterpart makes of it too.
  obtain ⟨others, childrenAgain, same⟩ : ∃ others,
      List.Forall₂ (fun again other => again.accept (Members.get? members again.name) = .ok other) agains others ∧
      List.Forall₂ (fun node other => node.name = other.name ∧ node.toJson? = other.toJson?) nodes others := by
    refine Pairing.exists_third (Pairing.of_common each children) fun again node related => ?_
    obtain ⟨property, -, widens, accepted⟩ := related
    obtain ⟨other, acceptedAgain, same⟩ := widens.preserves_accept accepted
    refine ⟨other, widens.name ▸ acceptedAgain, ?_, same.symm⟩
    rw [name_of_acceptAt accepted, name_of_acceptAt acceptedAgain, widens.name]
  refine ⟨_, (acceptSupplied_record regularAgain).mpr ⟨members, others, rfl, ?_, childrenAgain, rfl⟩, ?_⟩
  · intro member inside
    obtain ⟨property, listed, named, child, taken⟩ := declared member inside
    obtain ⟨again, listedAgain, widens⟩ := Pairing.exists_right each listed
    exact ⟨again, listedAgain, widens.name.trans named, widens.accepts ⟨child, taken⟩⟩
  · have parts : nodes.filterMap (fun node => node.toJson?.map (Prod.mk node.name)) =
        others.filterMap fun node => node.toJson?.map (Prod.mk node.name) :=
      Pairing.filterMap_eq same fun node other equal => by rw [equal.1, equal.2]
    rw [Value.toJson?, Value.toJson?, Value.propertiesToJson_eq, Value.propertiesToJson_eq, parts]

section

variable {candidates agains : List Attribute}

-- Two candidates that take a document are the same, or both scalars.
theorem RegularUnion.eq_or_scalar (regular : RegularUnion info candidates) {first second : Attribute}
    (member : first ∈ candidates) (memberToo : second ∈ candidates) (taken : first.Takes document)
    (takenToo : second.Takes document) : first = second ∨ first.isScalar = true ∧ second.isScalar = true := by
  obtain ⟨type, typed⟩ := Option.isSome_iff_exists.mp (regular.typed first member)
  obtain ⟨other, typedToo⟩ := Option.isSome_iff_exists.mp (regular.typed second memberToo)
  obtain same | ⟨-, numeric⟩ :=
    Json.eq_or_numeric_of_hasShape (hasShape_of_takes typed taken) (hasShape_of_takes typedToo takenToo)
  · exact .inl (List.inj_on_of_nodup_map regular.distinct member memberToo (typed.trans (same ▸ typedToo.symm)))
  · refine .inr ?_
    simp only [isScalar, typed, typedToo]
    obtain ⟨rfl, rfl⟩ | ⟨rfl, rfl⟩ := numeric <;> exact ⟨rfl, rfl⟩

theorem isPlain_of_isScalar {field : Attribute} (scalar : field.isScalar = true) : field.isPlain = true := by
  cases field <;> simp_all [isScalar, type?, JsonType.supportsEnum, isPlain]

theorem winner_of_union {node : Value} (accepted : (union info candidates).acceptSupplied document [] = .ok node) :
    ∃ candidate ∈ candidates, ∃ winner, candidate.acceptSupplied document [] = .ok winner ∧
      node.toJson? = winner.toJson? := by
  obtain ⟨before, candidate, after, winner, rfl, -, taken, rfl⟩ := acceptSupplied_union.mp accepted
  exact ⟨candidate, List.mem_append_right before List.mem_cons_self, winner, taken, rfl⟩

theorem preserves_union (regular : RegularUnion infoAgain agains)
    (each : ∀ candidate ∈ candidates, ∃ again ∈ agains, candidate.Preserves again) :
    (union info candidates).Preserves (union infoAgain agains) := by
  intro document node accepted
  obtain ⟨candidate, inside, winner, taken, same⟩ := winner_of_union accepted
  obtain ⟨again, member, preserves⟩ := each candidate inside
  obtain ⟨other, takenAgain, sameAgain⟩ := preserves document winner taken
  -- Another candidate may win now, but it makes the same of the document.
  obtain ⟨result, acceptedAgain⟩ := takes_union.mpr ⟨again, member, other, takenAgain⟩
  obtain ⟨second, memberToo, winnerToo, takenToo, sameToo⟩ := winner_of_union acceptedAgain
  refine ⟨result, acceptedAgain, ?_⟩
  rw [sameToo, same, ← sameAgain]
  obtain rfl | ⟨scalar, scalarToo⟩ := regular.eq_or_scalar memberToo member ⟨_, takenToo⟩ ⟨_, takenAgain⟩
  · rw [Except.ok.inj (takenToo.symm.trans takenAgain)]
  · rw [(plain_of_acceptSupplied (isPlain_of_isScalar scalar) takenToo).1,
      (plain_of_acceptSupplied (isPlain_of_isScalar scalarToo) takenAgain).1]

theorem admitsNull_union_eq (types : agains.map type? = candidates.map type?) :
    (union infoAgain agains).admitsNull = (union info candidates).admitsNull := by
  have ofTypes (fields : List Attribute) : fields.any isNull = (fields.map type?).any (· == some .null) := by
    rw [List.any_map]
    congr 1
    funext field
    cases field <;> rfl
  rw [admitsNull, admitsNull, ofTypes, ofTypes, types]

end

end Credential.Attribute
