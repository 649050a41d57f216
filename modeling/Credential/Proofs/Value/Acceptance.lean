import Credential.Proofs.Attribute.Regular
import Credential.Proofs.Value.Relocation
import Credential.Proofs.Value.Shape

/-! What each kind of attribute accepts, and as which node.

The statements leave places out, since an accepted value does not depend on
them. Those on objects and on missing values are about regular trees.
-/

set_option autoImplicit false

namespace Credential.Attribute

open Success

variable {path : Path} {node : Value} {document : Json}

/-! ## Missing values -/

theorem absentAs_eq_ok {field : Attribute} {type : JsonType} :
    field.absentAs type path = .ok node ↔ field.required = false ∧ node = .absent field type := by
  unfold absentAs
  split
  next required => simp [Rejection.throw, required]
  next optional =>
    rw [Bool.not_eq_true] at optional
    exact ⟨fun same => ⟨optional, (Except.ok.inj same).symm⟩, fun same => by rw [same.2]⟩

theorem acceptAbsent_union {info : Info} {candidates : List Attribute} :
    (union info candidates).acceptAbsent path = .ok node ↔
      info.required = false ∧ ∃ before candidate after winner, candidates = before ++ candidate :: after ∧
        (∀ earlier ∈ before, ∀ other, earlier.acceptAbsent [] ≠ .ok other) ∧
        candidate.acceptAbsent [] = .ok winner ∧ node = .union (.union info candidates) winner := by
  have first : (union info candidates).acceptAbsent path = .ok node ↔ info.required = false ∧
      ∃ winner, firstAbsent path candidates = some winner ∧ node = .union (.union info candidates) winner := by
    rw [acceptAbsent]
    cases info.required with
    | true => simp [Rejection.throw]
    | false => cases firstAbsent path candidates <;> simp [Rejection.throw, eq_comm]
  simp only [first, firstAbsent_eq, findSome?_toOption_eq_some, ne_eq, @acceptAbsent_eq_ok path]
  refine and_congr_right fun _ => ⟨?_, ?_⟩
  · rintro ⟨winner, ⟨before, candidate, after, split, taken, refused⟩, same⟩
    exact ⟨before, candidate, after, winner, split, refused, taken, same⟩
  · rintro ⟨before, candidate, after, winner, split, refused, taken, same⟩
    exact ⟨winner, ⟨before, candidate, after, split, taken, refused⟩, same⟩

theorem isAbsent_of_acceptAbsent {field : Attribute} (accepted : field.acceptAbsent path = .ok node) :
    node.isAbsent = true ∧ node.toJson? = none ∧ node.field = field := by
  induction field generalizing path node with
  | union info candidates ih =>
    obtain ⟨-, before, candidate, after, winner, rfl, -, taken, rfl⟩ := acceptAbsent_union.mp accepted
    obtain ⟨absent, nothing, -⟩ := ih candidate (by simp) taken
    exact ⟨absent, nothing, rfl⟩
  | _ =>
    obtain ⟨-, rfl⟩ := absentAs_eq_ok.mp accepted
    exact ⟨rfl, rfl, rfl⟩

theorem exists_acceptAbsent_iff {field : Attribute} (regular : field.Regular) :
    (∃ node, field.acceptAbsent path = .ok node) ↔ field.required = false := by
  induction field with
  | union info candidates ih =>
    obtain ⟨several, alike, -, -⟩ := regular.union
    simp only [acceptAbsent]
    split
    next required => simp [Rejection.throw, Attribute.required, Attribute.info, required]
    next optional =>
      rw [Bool.not_eq_true] at optional
      refine iff_of_true ?_ optional
      obtain ⟨first, rest, rfl⟩ := List.exists_cons_of_length_pos (Nat.lt_of_lt_of_le Nat.zero_lt_two several)
      have same : first.required = false := by rw [Attribute.required, alike first List.mem_cons_self, optional]
      obtain ⟨winner, accepted⟩ :=
        (ih first List.mem_cons_self (regular.candidate List.mem_cons_self)).mpr same
      simp [firstAbsent, accepted]
  | _ => simp [acceptAbsent, absentAs_eq_ok]

/-! ## Scalars -/

theorem within_eq_ok {α : Type} {allowed : Option (List α)} {accepts : α → Bool} {toJson : α → Json} {result : Value} :
    within allowed accepts toJson path document result = .ok node ↔
      (∀ values ∈ allowed, ∃ value ∈ values, accepts value = true) ∧ node = result := by
  unfold within
  split
  next => simp [@eq_comm _ result node]
  next values =>
    split
    next found =>
      simp only [List.any_eq_true] at found
      simp [found, @eq_comm _ result node]
    next missing =>
      simp only [List.any_eq_true] at missing
      simp [Rejection.throw, missing]

theorem acceptSupplied_scalar {field : Attribute} {type : JsonType} (typed : field.type? = some type)
    (scalar : type.supportsEnum = true) :
    (∃ node, field.acceptSupplied document path = .ok node) ↔
      document.hasShape type = true ∧
        ∀ entries ∈ field.allowed?, ∃ entry ∈ entries, entry.equals document = true := by
  cases field with
  | boolean info allowed =>
    obtain rfl := Option.some.inj typed
    cases document <;>
      simp [acceptSupplied, mismatch, Rejection.throw, within_eq_ok, Json.hasShape, allowed?, Json.equals]
  | integer info allowed =>
    obtain rfl := Option.some.inj typed
    cases document with
    | number value =>
      by_cases integral : value.isIntegral = true <;>
        simp [acceptSupplied, mismatch, Rejection.throw, within_eq_ok, Json.hasShape, allowed?, Json.equals, integral]
    | _ => simp [acceptSupplied, mismatch, Rejection.throw, Json.hasShape]
  | number info allowed =>
    obtain rfl := Option.some.inj typed
    cases document <;>
      simp [acceptSupplied, mismatch, Rejection.throw, within_eq_ok, Json.hasShape, allowed?, Json.equals]
  | string info format allowed =>
    obtain rfl := Option.some.inj typed
    cases document <;>
      simp [acceptSupplied, mismatch, Rejection.throw, within_eq_ok, Json.hasShape, allowed?, Json.equals]
  | union => simp [type?] at typed
  | _ =>
    obtain rfl := Option.some.inj typed
    simp [JsonType.supportsEnum] at scalar

/-! ## Shapes -/

theorem hasShape_of_acceptSupplied {field : Attribute} {type : JsonType} (typed : field.type? = some type)
    (accepted : field.acceptSupplied document path = .ok node) : document.hasShape type = true := by
  cases field with
  | boolean | integer | number | string =>
    exact ((acceptSupplied_scalar typed (by cases typed; rfl)).mp ⟨node, accepted⟩).1
  | union => simp [type?] at typed
  | _ =>
    obtain rfl := Option.some.inj typed
    cases document <;> simp_all [acceptSupplied, mismatch, Rejection.throw, Json.hasShape]

theorem plain_of_acceptSupplied {field : Attribute} (plain : field.isPlain = true)
    (accepted : field.acceptSupplied document path = .ok node) :
    node.toJson? = some document ∧ node.isAbsent = false ∧ node.field = field ∧
      field.type? = some node.effectiveType := by
  cases field with
  | arrayOf | record | union => simp [isPlain] at plain
  | integer info allowed =>
    cases document with
    | number value =>
      simp only [acceptSupplied] at accepted
      split at accepted
      · obtain ⟨-, rfl⟩ := within_eq_ok.mp accepted
        exact ⟨rfl, rfl, rfl, rfl⟩
      · simp [mismatch, Rejection.throw] at accepted
    | _ => simp [acceptSupplied, mismatch, Rejection.throw] at accepted
  | null | anyArray | anyObject =>
    cases document <;> simp [acceptSupplied, mismatch, Rejection.throw] at accepted
    subst accepted
    exact ⟨rfl, rfl, rfl, rfl⟩
  | _ =>
    cases document <;> simp [acceptSupplied, mismatch, Rejection.throw, within_eq_ok] at accepted
    obtain ⟨-, rfl⟩ := accepted
    exact ⟨rfl, rfl, rfl, rfl⟩

/-! ## Arrays -/

theorem acceptSupplied_arrayOf {info : Info} {items : Attribute} :
    (arrayOf info items).acceptSupplied document path = .ok node ↔
      ∃ elements nodes, document = .array elements ∧
        List.Forall₂ (fun element node => items.accept (some element) = .ok node) elements nodes ∧
        node = .arrayOf (.arrayOf info items) nodes := by
  -- Positions go into places only, and those do not matter.
  have traversal (elements : List Json) (nodes : List Value) :
      (elements.zipIdx.mapM fun placed => items.acceptAt (some placed.1) (path.index placed.2)) = .ok nodes ↔
      List.Forall₂ (fun element node => items.accept (some element) = .ok node) elements nodes := by
    have dropped := @List.forall₂_map_left_iff _ _ _
      (fun element node => items.accept (some element) = .ok node) Prod.fst (elements.zipIdx) nodes
    rw [List.zipIdx_map_fst] at dropped
    rw [dropped, mapM_eq_ok]
    simp only [acceptAt_eq_ok]
  cases document with
  | array elements =>
    have unfolded : (arrayOf info items).acceptSupplied (.array elements) path = do
        let nodes ← elements.zipIdx.mapM fun placed => items.acceptAt (some placed.1) (path.index placed.2)
        return .arrayOf (.arrayOf info items) nodes := by
      rw [acceptSupplied]
      rfl
    simp only [unfolded, bind_eq_ok, pure_eq_ok, traversal]
    constructor
    · rintro ⟨nodes, each, rfl⟩
      exact ⟨elements, nodes, rfl, each, rfl⟩
    · rintro ⟨_, nodes, ⟨⟩, each, rfl⟩
      exact ⟨nodes, each, rfl⟩
  | _ => simp [acceptSupplied, mismatch, Rejection.throw]

/-! ## Unions -/

theorem acceptSupplied_union {info : Info} {candidates : List Attribute} :
    (union info candidates).acceptSupplied document path = .ok node ↔
      ∃ before candidate after winner, candidates = before ++ candidate :: after ∧
        (∀ earlier ∈ before, ∀ other, earlier.acceptSupplied document [] ≠ .ok other) ∧
        candidate.acceptSupplied document [] = .ok winner ∧ node = .union (.union info candidates) winner := by
  -- The candidates before the winner are those that refuse the value.
  have first : (union info candidates).acceptSupplied document path = .ok node ↔
      ∃ winner, firstSupplied document path candidates = some winner ∧
        node = .union (.union info candidates) winner := by
    rw [acceptSupplied]
    cases firstSupplied document path candidates <;> simp [Rejection.throw, eq_comm]
  simp only [first, firstSupplied_eq, findSome?_toOption_eq_some, ne_eq, @acceptSupplied_eq_ok path]
  constructor
  · rintro ⟨winner, ⟨before, candidate, after, split, taken, refused⟩, same⟩
    exact ⟨before, candidate, after, winner, split, refused, taken, same⟩
  · rintro ⟨before, candidate, after, winner, split, refused, taken, same⟩
    exact ⟨winner, ⟨before, candidate, after, split, taken, refused⟩, same⟩

theorem exists_acceptSupplied_union {info : Info} {candidates : List Attribute} :
    (∃ node, (union info candidates).acceptSupplied document path = .ok node) ↔
      ∃ candidate ∈ candidates, ∃ winner, candidate.acceptSupplied document [] = .ok winner := by
  have some_iff : (firstSupplied document path candidates).isSome = true ↔
      ∃ candidate ∈ candidates, ∃ winner, candidate.acceptSupplied document [] = .ok winner := by
    rw [firstSupplied_eq, List.findSome?_isSome_iff]
    simp only [Option.isSome_iff_exists, toOption_eq_some, @acceptSupplied_eq_ok path]
  rw [← some_iff, acceptSupplied]
  cases firstSupplied document path candidates with
  | none => simp [Rejection.throw]
  | some winner => simp

-- What is no scalar is accepted by the candidate of its type alone.
theorem RegularUnion.eq_of_hasShape {info : Info} {candidates : List Attribute} (regular : RegularUnion info candidates)
    {candidate other : Attribute} (member : candidate ∈ candidates) (memberToo : other ∈ candidates) {type : JsonType}
    (typed : candidate.type? = some type) (structured : type.supportsEnum = false)
    (shape : document.hasShape type = true) (accepted : other.acceptSupplied document path = .ok node) :
    other = candidate := by
  obtain ⟨second, typedToo⟩ := Option.isSome_iff_exists.mp (regular.typed other memberToo)
  obtain rfl := Json.eq_of_hasShape structured shape (hasShape_of_acceptSupplied typedToo accepted)
  exact List.inj_on_of_nodup_map regular.distinct memberToo member (typedToo.trans typed.symm)

/-! ## The attribute of a node -/

theorem field_of_acceptSupplied {field : Attribute} (accepted : field.acceptSupplied document path = .ok node) :
    node.field = field := by
  cases field with
  | arrayOf info items =>
    obtain ⟨_, nodes, _, _, rfl⟩ := acceptSupplied_arrayOf.mp accepted
    rfl
  | record info properties =>
    cases document with
    | object members =>
      simp only [acceptSupplied, bind_eq_ok, pure_eq_ok] at accepted
      obtain ⟨supplied, -, nodes, -, rfl⟩ := accepted
      rfl
    | _ => simp [acceptSupplied, mismatch, Rejection.throw] at accepted
  | union info candidates =>
    obtain ⟨_, _, _, winner, _, _, _, rfl⟩ := acceptSupplied_union.mp accepted
    rfl
  | _ => exact (plain_of_acceptSupplied rfl accepted).2.2.1

theorem field_of_acceptAt {field : Attribute} {document : Option Json}
    (accepted : field.acceptAt document path = .ok node) : node.field = field := by
  unfold acceptAt at accepted
  split at accepted
  · exact (isAbsent_of_acceptAbsent accepted).2.2
  · split at accepted
    · exact (isAbsent_of_acceptAbsent accepted).2.2
    · exact field_of_acceptSupplied accepted

theorem name_of_acceptAt {field : Attribute} {document : Option Json}
    (accepted : field.acceptAt document path = .ok node) : node.name = field.name := by
  rw [Value.name, field_of_acceptAt accepted, name]

theorem admitsNull_of_acceptSupplied {field : Attribute} (regular : field.Regular)
    (accepted : field.acceptSupplied .null path = .ok node) : field.admitsNull = true := by
  have null {candidate : Attribute} {winner : Value} (typed : candidate.type?.isSome = true)
      (accepted : candidate.acceptSupplied .null path = .ok winner) : candidate.isNull = true := by
    obtain ⟨type, typed⟩ := Option.isSome_iff_exists.mp typed
    obtain rfl := Json.hasShape_null.mp (hasShape_of_acceptSupplied typed accepted)
    cases candidate <;> simp_all [type?, isNull]
  cases field with
  | union info candidates =>
    obtain ⟨candidate, member, winner, taken⟩ := exists_acceptSupplied_union.mp ⟨node, accepted⟩
    exact List.any_eq_true.mpr ⟨candidate, member, null (regular.union.typed candidate member)
      (acceptSupplied_eq_ok.mpr taken)⟩
  | null info => rfl
  | _ => exact absurd (null rfl accepted) (by simp [isNull])

theorem not_lacks_of_acceptSupplied {field : Attribute} (regular : field.Regular)
    (accepted : field.acceptSupplied document path = .ok node) : field.lacks document = false := by
  rw [Bool.eq_false_iff]
  intro lacking
  simp only [lacks, Bool.and_eq_true, Bool.not_eq_true'] at lacking
  obtain rfl := Json.eq_null_of_isNull lacking.1
  exact Bool.false_ne_true (lacking.2.symm.trans (admitsNull_of_acceptSupplied regular accepted))

theorem exists_supplied {field : Attribute} {document : Option Json}
    (accepted : field.acceptAt document path = .ok node) (present : node.isAbsent = false) :
    ∃ supplied, document = some supplied ∧ field.acceptSupplied supplied path = .ok node := by
  unfold acceptAt at accepted
  split at accepted
  · simp [(isAbsent_of_acceptAbsent accepted).1] at present
  next supplied =>
    split at accepted
    · simp [(isAbsent_of_acceptAbsent accepted).1] at present
    · exact ⟨supplied, rfl, accepted⟩

-- Candidates lack a value where their union does.
theorem RegularUnion.lacks_candidate {info : Info} {candidates : List Attribute}
    (regular : RegularUnion info candidates) {candidate : Attribute} (member : candidate ∈ candidates)
    (lacking : (union info candidates).lacks document = true) : candidate.lacks document = true := by
  simp only [lacks, Bool.and_eq_true, Bool.not_eq_true'] at lacking ⊢
  have other := List.any_eq_false.mp lacking.2 candidate member
  have typed := regular.typed candidate member
  refine ⟨lacking.1, ?_⟩
  cases candidate with
  | null => exact absurd rfl other
  | union => simp [type?] at typed
  | _ => rfl

theorem accept_of_lacks {field : Attribute} (lacking : field.lacks document = true) :
    field.accept (some document) = field.acceptAbsent [] :=
  if_pos lacking

theorem accept_of_not_lacks {field : Attribute} (present : field.lacks document = false) :
    field.accept (some document) = field.acceptSupplied document [] :=
  if_neg (Bool.eq_false_iff.mp present)

theorem lacks_of_ne_null {field : Attribute} (other : document ≠ .null) : field.lacks document = false := by
  cases document <;> simp_all [lacks, Json.isNull]

/-- A union accepts a value as one of its candidates does. Unless the value is `null`, that is the first candidate which
accepts it. -/
theorem exists_first_candidate {info : Info} {candidates : List Attribute} (regular : (union info candidates).Regular)
    {value : Option Json} (accepted : (union info candidates).accept value = .ok node) :
    ∃ before candidate after winner, candidates = before ++ candidate :: after ∧
      candidate.accept value = .ok winner ∧ node = .union (.union info candidates) winner ∧
      (value ≠ some .null → ∀ earlier ∈ before, ∀ other, earlier.accept value ≠ .ok other) := by
  cases value with
  | none =>
    obtain ⟨-, before, candidate, after, winner, split, refused, taken, same⟩ := acceptAbsent_union.mp accepted
    exact ⟨before, candidate, after, winner, split, taken, same, fun _ => refused⟩
  | some document =>
    cases lacking : (union info candidates).lacks document with
    | true =>
      rw [accept_of_lacks lacking] at accepted
      obtain ⟨-, before, candidate, after, winner, rfl, refused, taken, same⟩ := acceptAbsent_union.mp accepted
      have lacks (other : Attribute) (member : other ∈ before ++ candidate :: after) : other.lacks document = true :=
        regular.union.lacks_candidate member lacking
      refine ⟨before, candidate, after, winner, rfl, ?_, same, fun _ earlier inside => ?_⟩
      · rw [accept_of_lacks (lacks candidate (by simp)), taken]
      · rw [accept_of_lacks (lacks earlier (by simp [inside]))]
        exact refused earlier inside
    | false =>
      rw [accept_of_not_lacks lacking] at accepted
      obtain ⟨before, candidate, after, winner, rfl, refused, taken, same⟩ := acceptSupplied_union.mp accepted
      refine ⟨before, candidate, after, winner, rfl, ?_, same, fun other earlier inside => ?_⟩
      · have present := not_lacks_of_acceptSupplied (regular.candidate (by simp)) taken
        rw [accept_of_not_lacks present, taken]
      · rw [accept_of_not_lacks (lacks_of_ne_null (mt (congrArg some) other))]
        exact refused earlier inside

end Credential.Attribute
