import Credential.Proofs.Value.Record

/-! All conflicts of a value with an attribute, in the order of a walk that never stops.

The walk says where and why a value disagrees with its schema, node by node and
without a notion of failing. The main statement is that accepting a value comes
to taking the first conflict of the walk, if there is one.
-/

set_option autoImplicit false

namespace Credential

namespace Attribute

open Success

/-! ## The walk -/

def absentConflicts (field : Attribute) (path : Path) : List Rejection :=
  if field.required then [⟨path, .missing⟩] else []

def enumConflicts (allowed : Option (List Json)) (document : Json) (path : Path) : List Rejection :=
  match allowed with
  | none => []
  | some entries =>
    if entries.any fun entry => entry.equals document then [] else [⟨path, .outsideEnum document entries⟩]

/-- The conflicts of a value as a whole: with the declared type, or else with the allowed values. -/
def ownConflicts (field : Attribute) (document : Json) (path : Path) : List Rejection :=
  match field.type? with
  | none => []
  | some type =>
    if document.hasShape type then enumConflicts field.allowed? document path
    else [⟨path, .typeMismatch type document.type⟩]

mutual

def conflicts (field : Attribute) (value : Option Json) (path : Path) : List Rejection :=
  match value with
  | none => field.absentConflicts path
  | some document =>
    if field.lacks document then field.absentConflicts path else field.suppliedConflicts document path
termination_by (sizeOf field, 1)

/-- The conflicts of a value that is not absent. Members of an object come in their own order, and the properties that
have no member after them, in stored order. A union has one conflict, unless some candidate has none. -/
def suppliedConflicts (field : Attribute) (document : Json) (path : Path) : List Rejection :=
  match field, document with
  | .arrayOf _ items, .array elements =>
    elements.zipIdx.flatMap fun placed => items.conflicts (some placed.1) (path.index placed.2)
  | .record _ properties, .object members =>
    (members.flatMap fun member =>
      match _ : properties.find? fun property => property.name == member.1 with
      | none => [⟨path, .unknownKey member.1⟩]
      | some property => property.conflicts (some member.2) (path.key member.1)) ++
    properties.flatMap fun property =>
      if property.name ∈ Members.keys members then [] else property.conflicts none (path.key property.name)
  | .union _ candidates, document =>
    if [] ∈ candidates.map fun candidate => candidate.suppliedConflicts document path then []
    else [⟨path, .noMatchingType (candidates.filterMap type?)⟩]
  | field, document => field.ownConflicts document path
termination_by (sizeOf field, 0)
decreasing_by
  · exact Prod.Lex.left _ _ (sizeOf_of_mem_children List.mem_cons_self)
  · exact Prod.Lex.left _ _ (sizeOf_of_mem_children (List.mem_of_find?_eq_some ‹_›))
  · exact Prod.Lex.left _ _ (sizeOf_of_mem_children ‹property ∈ properties›)
  · exact Prod.Lex.left _ _ (sizeOf_of_mem_children ‹candidate ∈ candidates›)

end

variable {path : Path}

theorem conflicts_none (field : Attribute) (path : Path) : field.conflicts none path = field.absentConflicts path := by
  rw [conflicts]

theorem conflicts_some (field : Attribute) (document : Json) (path : Path) :
    field.conflicts (some document) path =
      if field.lacks document then field.absentConflicts path else field.suppliedConflicts document path := by
  rw [conflicts]

theorem suppliedConflicts_arrayOf (info : Info) (items : Attribute) (elements : List Json) (path : Path) :
    (arrayOf info items).suppliedConflicts (.array elements) path =
      elements.zipIdx.flatMap fun placed => items.conflicts (some placed.1) (path.index placed.2) := by
  rw [suppliedConflicts]

def memberConflicts (properties : List Attribute) (path : Path) (member : String × Json) : List Rejection :=
  match properties.find? fun property => property.name == member.1 with
  | none => [⟨path, .unknownKey member.1⟩]
  | some property => property.conflicts (some member.2) (path.key member.1)

theorem suppliedConflicts_record (info : Info) (properties : List Attribute) (members : Members) (path : Path) :
    (record info properties).suppliedConflicts (.object members) path =
      members.flatMap (memberConflicts properties path) ++ properties.flatMap fun property =>
        if property.name ∈ members.keys then [] else property.conflicts none (path.key property.name) := by
  rw [suppliedConflicts]
  congr 2
  funext member
  unfold memberConflicts
  split
  next unknown => rw [unknown]
  next property found => rw [found]

theorem suppliedConflicts_union (info : Info) (candidates : List Attribute) (document : Json) (path : Path) :
    (union info candidates).suppliedConflicts document path =
      if ∃ candidate ∈ candidates, candidate.suppliedConflicts document path = [] then []
      else [⟨path, .noMatchingType (candidates.filterMap type?)⟩] := by
  rw [suppliedConflicts]
  simp only [List.mem_map]

-- A value without typed parts, or of another shape, is looked at as a whole.
theorem suppliedConflicts_own {field : Attribute} {document : Json}
    (whole : field.isPlain = true ∨ ∃ type, field.type? = some type ∧ document.hasShape type = false) :
    field.suppliedConflicts document path = field.ownConflicts document path := by
  cases field with
  | arrayOf => cases document <;> simp_all [suppliedConflicts, isPlain, type?, Json.hasShape]
  | record => cases document <;> simp_all [suppliedConflicts, isPlain, type?, Json.hasShape]
  | union => simp [isPlain, type?] at whole
  | _ => simp [suppliedConflicts]

/-! ## How a conflict comes about -/

/-- The walk meets the rejection on its way over a value: at the node that it starts from, or below. -/
inductive Meets : Attribute → Option Json → Path → Rejection → Prop where
  | missing {field : Attribute} {value : Option Json} {path : Path} :
      (∀ document ∈ value, field.lacks document = true) → field.required = true →
      Meets field value path ⟨path, .missing⟩
  | mismatch {field : Attribute} {type : JsonType} {document : Json} {path : Path} :
      field.type? = some type → field.lacks document = false → document.hasShape type = false →
      Meets field (some document) path ⟨path, .typeMismatch type document.type⟩
  | outside {field : Attribute} {entries : List Json} {document : Json} {path : Path} :
      field.allowed? = some entries → (∀ entry ∈ entries, entry.equals document = false) →
      Meets field (some document) path ⟨path, .outsideEnum document entries⟩
  | refused {info : Info} {candidates : List Attribute} {document : Json} {path : Path} :
      (union info candidates).lacks document = false →
      (∀ candidate ∈ candidates, candidate.suppliedConflicts document path ≠ []) →
      Meets (union info candidates) (some document) path ⟨path, .noMatchingType (candidates.filterMap type?)⟩
  | unknown {info : Info} {properties : List Attribute} {members : Members} {key : String} {path : Path} :
      key ∈ members.keys → (record info properties).property? key = none →
      Meets (record info properties) (some (.object members)) path ⟨path, .unknownKey key⟩
  | element {info : Info} {items : Attribute} {elements : List Json} {position : Nat} {element : Json} {path : Path}
      {rejection : Rejection} :
      elements[position]? = some element → Meets items (some element) (path.index position) rejection →
      Meets (arrayOf info items) (some (.array elements)) path rejection
  | member {info : Info} {properties : List Attribute} {property : Attribute} {members : Members} {document : Json}
      {path : Path} {rejection : Rejection} :
      property ∈ properties → (property.name, document) ∈ members →
      Meets property (some document) (path.key property.name) rejection →
      Meets (record info properties) (some (.object members)) path rejection
  | unsupplied {info : Info} {properties : List Attribute} {property : Attribute} {members : Members} {path : Path}
      {rejection : Rejection} :
      property ∈ properties → property.name ∉ members.keys →
      Meets property none (path.key property.name) rejection →
      Meets (record info properties) (some (.object members)) path rejection

section

variable {field : Attribute} {document : Json} {rejection : Rejection}

theorem meets_of_own {type : JsonType} (typed : field.type? = some type) (supplied : field.lacks document = false)
    (member : rejection ∈ field.ownConflicts document path) : field.Meets (some document) path rejection := by
  unfold ownConflicts at member
  simp only [typed] at member
  split at member
  · unfold enumConflicts at member
    split at member
    · exact nomatch member
    next entries listed =>
      split at member
      · exact nomatch member
      next outside =>
        obtain rfl := List.mem_singleton.mp member
        exact .outside listed (by simpa using outside)
  next other =>
    obtain rfl := List.mem_singleton.mp member
    exact .mismatch typed supplied (Bool.eq_false_iff.mpr other)

-- A value that is missing, or counts as missing, has nothing below it to be met.
theorem meets_of_supplied {value : Option Json}
    (below : ∀ document ∈ value, field.lacks document = false → rejection ∈ field.suppliedConflicts document path →
      field.Meets (some document) path rejection)
    (member : rejection ∈ field.conflicts value path) : field.Meets value path rejection := by
  have absent (lacking : ∀ document ∈ value, field.lacks document = true)
      (member : rejection ∈ field.absentConflicts path) : field.Meets value path rejection := by
    unfold absentConflicts at member
    split at member
    next required =>
      obtain rfl := List.mem_singleton.mp member
      exact .missing lacking required
    · exact nomatch member
  cases value with
  | none =>
    rw [conflicts_none] at member
    exact absent (fun _ given => nomatch given) member
  | some document =>
    rw [conflicts_some] at member
    split at member
    next lacking => exact absent (fun _ given => Option.some.inj given ▸ lacking) member
    next present => exact below document rfl (Bool.eq_false_iff.mpr present) member

theorem meets_of_suppliedConflicts (supplied : field.lacks document = false)
    (member : rejection ∈ field.suppliedConflicts document path) : field.Meets (some document) path rejection := by
  induction field generalizing document path with
  | arrayOf info items ih =>
    cases document with
    | array elements =>
      rw [suppliedConflicts_arrayOf] at member
      obtain ⟨⟨element, position⟩, placed, inside⟩ := List.mem_flatMap.mp member
      exact .element (List.mem_zipIdx_iff_getElem?.mp placed) (meets_of_supplied (fun _ _ => ih) inside)
    | _ =>
      rw [suppliedConflicts_own (.inr ⟨.array, rfl, rfl⟩)] at member
      exact meets_of_own rfl supplied member
  | record info properties ih =>
    cases document with
    | object members =>
      rw [suppliedConflicts_record] at member
      obtain member | member := List.mem_append.mp member
      · obtain ⟨⟨key, value⟩, given, inside⟩ := List.mem_flatMap.mp member
        unfold memberConflicts at inside
        split at inside
        next unknown =>
          obtain rfl := List.mem_singleton.mp inside
          exact .unknown (List.mem_map_of_mem given) unknown
        next property found =>
          have declared := List.mem_of_find?_eq_some found
          have taken := List.find?_some found
          obtain rfl : property.name = key := eq_of_beq taken
          exact .member declared given (meets_of_supplied (fun _ _ => ih property declared) inside)
      · obtain ⟨property, declared, inside⟩ := List.mem_flatMap.mp member
        split at inside
        · exact nomatch inside
        next lacking => exact .unsupplied declared lacking (meets_of_supplied (fun _ _ => ih property declared) inside)
    | _ =>
      rw [suppliedConflicts_own (.inr ⟨.object, rfl, rfl⟩)] at member
      exact meets_of_own rfl supplied member
  | union info candidates =>
    rw [suppliedConflicts_union] at member
    split at member
    · exact nomatch member
    next refused =>
      obtain rfl := List.mem_singleton.mp member
      exact .refused supplied (by simpa using refused)
  | _ =>
    rw [suppliedConflicts_own (.inl rfl)] at member
    exact meets_of_own rfl supplied member

theorem meets_of_conflicts {value : Option Json} (member : rejection ∈ field.conflicts value path) :
    field.Meets value path rejection :=
  meets_of_supplied (fun _ _ => meets_of_suppliedConflicts) member

end

/-! ## Where accepting stops -/

theorem fault?_acceptAbsent {field : Attribute} (regular : field.Regular) :
    fault? (field.acceptAbsent path) = (field.absentConflicts path).head? := by
  unfold absentConflicts
  cases required : field.required with
  | false =>
    obtain ⟨node, accepted⟩ := (@exists_acceptAbsent_iff path field regular).mpr required
    rw [accepted]
    rfl
  | true =>
    have thrown : field.acceptAbsent path = Rejection.throw path .missing := by
      cases field <;> simp_all [acceptAbsent, absentAs, Attribute.required, Attribute.info]
    rw [thrown]
    rfl

theorem fault?_within {α : Type} {accepts : α → Bool} {toJson : α → Json} {document : Json}
    (same : ∀ value, (toJson value).equals document = accepts value) (allowed : Option (List α)) (node : Value) :
    fault? (within allowed accepts toJson path document node) =
      (enumConflicts (allowed.map (·.map toJson)) document path).head? := by
  cases allowed with
  | none => rfl
  | some values =>
    simp only [within, enumConflicts, Option.map_some, List.any_map, Function.comp_def, same]
    split <;> rfl

theorem fault?_acceptSupplied_plain {field : Attribute} (plain : field.isPlain = true) (document : Json) :
    fault? (field.acceptSupplied document path) = (field.ownConflicts document path).head? := by
  cases field with
  | arrayOf | record | union => simp [isPlain] at plain
  | boolean info allowed =>
    cases document with
    | bool value => exact fault?_within (fun entry => by simp [Json.equals]) allowed _
    | _ => rfl
  | integer info allowed =>
    cases document with
    | number value =>
      cases integral : value.isIntegral with
      | true =>
        simp only [acceptSupplied, ownConflicts, type?, Json.hasShape, integral, if_true]
        exact fault?_within (fun entry => by simp [Json.equals]) allowed _
      | false =>
        simp only [acceptSupplied, ownConflicts, type?, Json.hasShape, integral]
        rfl
    | _ => rfl
  | number info allowed =>
    cases document with
    | number value => exact fault?_within (fun entry => by simp [Json.equals]) allowed _
    | _ => rfl
  | string info format allowed =>
    cases document with
    | string value => exact fault?_within (fun entry => by simp [Json.equals]) allowed _
    | _ => rfl
  | null | anyArray | anyObject => cases document <;> rfl

theorem fault?_acceptAt_of_supplied {field : Attribute} (regular : field.Regular)
    (supplied : ∀ document,
      fault? (field.acceptSupplied document path) = (field.suppliedConflicts document path).head?)
    (value : Option Json) : fault? (field.acceptAt value path) = (field.conflicts value path).head? := by
  cases value with
  | none =>
    rw [conflicts_none]
    exact fault?_acceptAbsent regular
  | some document =>
    rw [conflicts_some]
    simp only [acceptAt]
    split
    · exact fault?_acceptAbsent regular
    · exact supplied document

theorem fault?_acceptMember {properties : List Attribute} (member : String × Json)
    (known : ∀ property ∈ properties, fault? (property.acceptAt (some member.2) (path.key member.1)) =
      (property.conflicts (some member.2) (path.key member.1)).head?) :
    fault? (acceptMember path member.1 member.2 properties) = (memberConflicts properties path member).head? := by
  rw [acceptMember_eq, memberConflicts]
  cases found : properties.find? fun property => property.name == member.1 with
  | none => rfl
  | some property => exact known property (List.mem_of_find?_eq_some found)

-- Once all members are accepted, the properties without a member are asked for in their order.
theorem fault?_complete {members : Members} {supplied : List Value} {properties rest : List Attribute}
    {before : List String}
    (each : List.Forall₂ (fun member node => ∃ property, (properties.find? fun other => other.name == member.1) =
      some property ∧ property.accept (some member.2) = .ok node) members supplied)
    (distinct : (rest.map name).Nodup) (fresh : ∀ property ∈ rest, property.name ∉ before)
    (regular : ∀ property ∈ rest, property.Regular) :
    fault? (complete path supplied before rest) = rest.findSome? fun property => List.head?
      (if property.name ∈ members.keys then [] else property.conflicts none (path.key property.name)) := by
  induction rest generalizing before with
  | nil => rfl
  | cons property rest ih =>
    obtain ⟨new, fresh⟩ := List.forall_mem_cons.mp fresh
    obtain ⟨once, distinct⟩ := List.nodup_cons.mp distinct
    obtain ⟨first, regular⟩ := List.forall_mem_cons.mp regular
    have later := fresh_cons once fresh
    simp only [complete, if_neg new, List.findSome?_cons]
    obtain ⟨lacking, missing⟩ | ⟨member, node, other, present, found, -, -⟩ :=
      @find?_supplied _ _ _ property.name each
    · rw [if_neg (Members.get?_eq_none_iff.mp lacking), conflicts_none, missing, ← fault?_acceptAbsent first,
        ← ih distinct later regular]
      cases property.acceptAbsent (path.key property.name) with
      | error fault => rfl
      | ok node => exact fault?_map ..
    · have inside : property.name ∈ members.keys := Members.mem_keys_of_mem (Members.mem_of_get? present)
      rw [if_pos inside, found, ← ih distinct later regular]
      exact fault?_map ..

theorem fault?_acceptSupplied {field : Attribute} (regular : field.Regular) (document : Json) :
    fault? (field.acceptSupplied document path) = (field.suppliedConflicts document path).head? := by
  induction field generalizing document path with
  | arrayOf info items ih =>
    cases document with
    | array elements =>
      rw [suppliedConflicts_arrayOf, List.head?_flatMap, acceptSupplied]
      refine (fault?_map ..).trans ((fault?_mapM ..).trans (findSome?_congr fun placed _ => ?_))
      exact fault?_acceptAt_of_supplied regular.items (ih regular.items) (some placed.1)
    | _ =>
      rw [suppliedConflicts_own (.inr ⟨.array, rfl, rfl⟩)]
      rfl
  | record info properties ih =>
    cases document with
    | object members =>
      have known (member : String × Json) := @fault?_acceptMember path properties member fun property inside =>
        fault?_acceptAt_of_supplied (regular.property inside) (ih property inside (regular.property inside)) _
      have first := fault?_mapM (fun member => acceptMember path member.1 member.2 properties) members
      simp only [known] at first
      rw [suppliedConflicts_record, List.head?_append, List.head?_flatMap, List.head?_flatMap, ← first, acceptSupplied]
      -- Either a member is at fault, or all of them are accepted and what is missing counts.
      cases each : members.mapM fun member => acceptMember path member.1 member.2 properties with
      | error fault => rfl
      | ok supplied =>
        have accepted := mapM_eq_ok.mp each
        simp only [acceptMember_eq_ok] at accepted
        refine (fault?_map ..).trans ?_
        exact fault?_complete accepted regular.record.distinct (fun _ _ => List.not_mem_nil) fun _ => regular.property
    | _ =>
      rw [suppliedConflicts_own (.inr ⟨.object, rfl, rfl⟩)]
      rfl
  | union info candidates ih =>
    have accepts : (firstSupplied document path candidates).isSome = true ↔
        ∃ candidate ∈ candidates, candidate.suppliedConflicts document path = [] := by
      have agree {candidate : Attribute} (member : candidate ∈ candidates) :
          (candidate.acceptSupplied document path).toOption.isSome = true ↔
            candidate.suppliedConflicts document path = [] := by
        rw [isSome_toOption, ih candidate member (regular.candidate member), Option.isNone_iff_eq_none,
          List.head?_eq_none_iff]
      rw [firstSupplied_eq, List.findSome?_isSome_iff]
      exact exists_congr fun candidate => and_congr_right agree
    rw [suppliedConflicts_union, acceptSupplied]
    cases found : firstSupplied document path candidates with
    | some winner => rw [if_pos (accepts.mp (by rw [found]; rfl))]; rfl
    | none => rw [if_neg (mt accepts.mpr (by simp [found]))]; rfl
  | _ =>
    rw [suppliedConflicts_own (.inl rfl)]
    exact fault?_acceptSupplied_plain rfl document

/-- Accepting stops at the first conflict of the walk. -/
theorem fault?_acceptAt {field : Attribute} (regular : field.Regular) (value : Option Json) (path : Path) :
    fault? (field.acceptAt value path) = (field.conflicts value path).head? :=
  fault?_acceptAt_of_supplied regular (fault?_acceptSupplied regular) value

theorem meets_of_rejected {field : Attribute} (regular : field.Regular) {value : Option Json} {rejection : Rejection}
    (rejected : field.acceptAt value path = .error rejection) : field.Meets value path rejection := by
  have first := fault?_acceptAt regular value path
  rw [rejected] at first
  exact meets_of_conflicts (List.mem_of_head? first.symm)

/-- A value is accepted at a place exactly if the walk over it meets no conflict, and is otherwise rejected for the
first one that the walk meets. -/
theorem first_conflict_decides {limit : Nat} {schema : Json} {name : String} {required : Bool} {field : Attribute}
    (distinct : schema.DistinctKeys) (read : Attribute.ofDocument limit schema name required = .ok field)
    (value : Option Json) (path : Path) :
    ((∃ node, field.acceptAt value path = .ok node) ↔ field.conflicts value path = []) ∧
      ∀ rejection, field.acceptAt value path = .error rejection ↔
        (field.conflicts value path).head? = some rejection := by
  have stops := fault?_acceptAt ((Node.ofDocument_eq_ok.mp read).regular distinct) value path
  constructor
  · rw [← fault?_eq_none, stops, List.head?_eq_none_iff]
  · intro rejection
    rw [← fault?_eq_some, stops]

end Attribute

def Json.sampleConflicting : Json :=
  .object [("credentialSubject", .object [("age", .string "30"), ("zip", .null)])]

def Attribute.sampleConflicts : List Rejection :=
  [⟨[.key "credentialSubject", .key "age"], .typeMismatch .integer .string⟩,
    ⟨[.key "credentialSubject"], .unknownKey "zip"⟩,
    ⟨[.key "credentialSubject", .key "tags"], .missing⟩]

theorem Attribute.first_conflict_decides_sample :
    Json.sampleSchema.DistinctKeys ∧ Attribute.ofDocument 4 Json.sampleSchema "" true = .ok Attribute.sample ∧
      Attribute.sample.conflicts (some Json.sampleConflicting) [] = Attribute.sampleConflicts ∧
      Attribute.sample.acceptAt (some Json.sampleConflicting) [] =
        .error ⟨[.key "credentialSubject", .key "age"], .typeMismatch .integer .string⟩ := by
  have walk : Attribute.sample.conflicts (some Json.sampleConflicting) [] = Attribute.sampleConflicts := by
    simp [Attribute.sample, Attribute.sampleConflicts, Json.sampleConflicting, conflicts_some, conflicts_none,
      suppliedConflicts_record, memberConflicts, suppliedConflicts, ownConflicts, absentConflicts, name,
      Attribute.required, info, lacks, admitsNull, Json.isNull, Members.keys, Path.key, type?, Json.hasShape, Json.type]
  have decided := @Attribute.first_conflict_decides 4 Json.sampleSchema "" true Attribute.sample
    Json.distinctKeys_sampleSchema rfl (some Json.sampleConflicting) []
  exact ⟨Json.distinctKeys_sampleSchema, rfl, walk, (decided.2 _).mpr (congrArg List.head? walk)⟩

end Credential
