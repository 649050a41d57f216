import Credential.Failure
import Credential.Proofs.Schema.Provenance

/-! How deep a schema may go.

The limit bounds the levels of the tree and does nothing else. A document that
is read under some limit is read as the same tree under every limit that the
tree keeps to. Under any other it fails, at a node just below the limit.
-/

set_option autoImplicit false

namespace Credential

/-- `schema.HasNode path level node`: the schema node lies on the level below the root, at the path. Items and
properties are schema nodes where the node above declares arrays or objects, whatever else it declares. -/
inductive Json.HasNode : Json → Path → Nat → Json → Prop where
  | root (schema : Json) : HasNode schema [] 0 schema
  | items {schema items node : Json} {path : Path} {level : Nat} : .array ∈ schema.declaredTypes →
      schema.get? "items" = some items → HasNode items path level node →
      HasNode schema (.key "items" :: path) (level + 1) node
  | property {schema property node : Json} {members : Members} {key : String} {path : Path} {level : Nat} :
      .object ∈ schema.declaredTypes → schema.get? "properties" = some (.object members) →
      (key, property) ∈ members → HasNode property path level node →
      HasNode schema (.key "properties" :: .key key :: path) (level + 1) node

namespace Attribute

theorem le_deepest (down : Nat) {part : Attribute} {parts : List Attribute} (member : part ∈ parts) :
    part.depth + down ≤ deepest down parts := by
  induction parts with
  | nil => exact nomatch member
  | cons first rest ih =>
    rw [deepest]
    rcases List.mem_cons.mp member with rfl | member
    · exact Nat.le_max_left ..
    · exact Nat.le_trans (ih member) (Nat.le_max_right ..)

theorem depth_candidate {info : Info} {candidate : Attribute} {candidates : List Attribute}
    (member : candidate ∈ candidates) : candidate.depth ≤ (union info candidates).depth := by
  rw [depth]
  exact le_deepest 0 member

theorem depth_child {field child : Attribute} (typed : field.type?.isSome = true) (member : child ∈ field.children) :
    child.depth < field.depth := by
  cases field with
  | arrayOf info items =>
    obtain rfl := List.mem_singleton.mp member
    rw [depth]
    exact Nat.lt_succ_self _
  | record info properties =>
    rw [depth]
    exact le_deepest 1 member
  | union => exact absurd typed Bool.false_ne_true
  | _ => exact absurd member List.not_mem_nil

end Attribute

namespace Node

open Attribute Success

variable {first second : Relation} {levels more limit : Nat} {node : Members} {info : Info} {inUnion : Bool}
  {type : JsonType} {field : Attribute} {document : Json} {name : String} {required : Bool}

/-! ## Limits that the tree keeps to -/

theorem ReadsAs.imp (reading : ReadsAs first node info inUnion type field)
    (below : ∀ child ∈ field.children, ∀ document name required,
      first document name required child → second document name required child) :
    ReadsAs second node info inUnion type field := by
  cases reading with
  | boolean listed => exact .boolean listed
  | integer listed => exact .integer listed
  | number listed => exact .number listed
  | string tagged listed => exact .string tagged listed
  | null => exact .null
  | anyArray absent => exact .anyArray absent
  | arrayOf present described => exact .arrayOf present (below _ List.mem_cons_self _ _ _ described)
  | anyObject requires absent => exact .anyObject requires absent
  | record requires present described =>
    refine .record requires present ((Pairing.with_members described).imp fun member property related => ?_)
    obtain ⟨-, inside, described⟩ := related
    exact below property (mem_objectsLast.mpr inside) _ _ _ described

theorem ReadsAs.of_depth_le
    (below : ∀ {document : Json} {name : String} {required : Bool} {field : Attribute},
      Describes more document name required field → field.depth < levels →
      Describes levels document name required field)
    (reading : ReadsAs (Describes more) node info inUnion type field) (shallow : field.depth ≤ levels) :
    ReadsAs (Describes levels) node info inUnion type field :=
  reading.imp fun child member _ _ _ described =>
    below described (Nat.lt_of_lt_of_le (depth_child (by simp [reading.type?_eq]) member) shallow)

theorem Describes.of_depth_lt (described : Describes more document name required field)
    (shallow : field.depth < levels) : Describes levels document name required field := by
  induction levels generalizing more document name required field with
  | zero => exact absurd shallow (Nat.not_lt_zero _)
  | succ levels ih =>
    cases more with
    | zero => exact described.elim
    | succ more =>
      obtain ⟨node, rfl, reads⟩ := described
      refine ⟨node, rfl, ?_⟩
      have shallow := Nat.le_of_lt_succ shallow
      cases reads with
      | single titled described present reading => exact .single titled described present (reading.of_depth_le ih shallow)
      | union titled described present several distinct each left =>
        refine .union titled described present several distinct ?_ left
        refine (Pairing.with_members each).imp fun type candidate related => ?_
        obtain ⟨-, member, reading⟩ := related
        exact reading.of_depth_le ih (Nat.le_trans (depth_candidate member) shallow)

theorem Describes.mono (described : Describes levels document name required field) (le : levels ≤ more) :
    Describes more document name required field :=
  described.of_depth_lt (Nat.lt_of_lt_of_le described.depth_lt le)

theorem ReadsAs.mono (reading : ReadsAs (Describes levels) node info inUnion type field) (le : levels ≤ more) :
    ReadsAs (Describes more) node info inUnion type field :=
  reading.imp fun _ _ _ _ _ described => described.mono le

theorem readAs_levels_eq_ok {path : Path} :
    readAs (readLevels limit levels) node info path inUnion type = .ok field ↔
      ReadsAs (Describes levels) node info inUnion type field :=
  @readAs_eq_ok _ (Describes levels) (fun _ _ _ _ _ => readLevels_eq_ok) ..

theorem readEach_levels_eq_ok {path : Path} {types : List JsonType} {candidates : List Attribute} :
    readEach (readLevels limit levels) node info path types = .ok candidates ↔
      List.Forall₂ (ReadsAs (Describes levels) node info true) types candidates :=
  @readEach_eq_ok _ (Describes levels) (fun _ _ _ _ _ => readLevels_eq_ok) ..

theorem Describes.unique {other : Attribute} (described : Describes levels document name required field)
    (describedToo : Describes more document name required other) : field = other := by
  have left := (@readLevels_eq_ok 0 _ _ _ _ [] _).mpr (described.mono (Nat.le_max_left levels more))
  have right := (@readLevels_eq_ok 0 _ _ _ _ [] _).mpr (describedToo.mono (Nat.le_max_right levels more))
  exact Except.ok.inj (left.symm.trans right)

theorem candidates_unique {types : List JsonType} {candidates others : List Attribute}
    (each : List.Forall₂ (ReadsAs (Describes levels) node info true) types candidates)
    (eachToo : List.Forall₂ (ReadsAs (Describes more) node info true) types others) : candidates = others := by
  have left := each.imp fun _ _ reading => reading.mono (Nat.le_max_left levels more)
  have right := eachToo.imp fun _ _ reading => reading.mono (Nat.le_max_right levels more)
  exact Except.ok.inj (((@readEach_levels_eq_ok _ 0 _ _ [] _ _).mpr left).symm.trans (readEach_levels_eq_ok.mpr right))

end Node

/-! ## Limits that it does not keep to -/

namespace SchemaFault

/-- The fault is that of a node on the given level of a schema, where the schema itself stands at the path. -/
def Overruns (limit : Nat) (schema : Json) (level : Nat) (path : Path) (fault : SchemaFault) : Prop :=
  ∃ rest node, schema.HasNode rest level node ∧ fault = ⟨path ++ rest, [.object], .tooDeep limit⟩

variable {limit level : Nat} {schema below : Json} {path : Path} {fault : SchemaFault}

theorem Overruns.items (declared : .array ∈ schema.declaredTypes) (present : schema.get? "items" = some below)
    (overruns : Overruns limit below level (path.key "items") fault) :
    Overruns limit schema (level + 1) path fault := by
  obtain ⟨rest, node, inside, rfl⟩ := overruns
  exact ⟨.key "items" :: rest, node, .items declared present inside, by simp [Path.key]⟩

theorem Overruns.property {members : Members} {key : String} (declared : .object ∈ schema.declaredTypes)
    (present : schema.get? "properties" = some (.object members)) (given : (key, below) ∈ members)
    (overruns : Overruns limit below level ((path.key "properties").key key) fault) :
    Overruns limit schema (level + 1) path fault := by
  obtain ⟨rest, node, inside, rfl⟩ := overruns
  exact ⟨.key "properties" :: .key key :: rest, node, .property declared present given inside, by simp [Path.key]⟩

end SchemaFault

namespace Node

open Attribute Success
open SchemaFault (Overruns)

variable {levels more limit : Nat} {node : Members} {info : Info} {inUnion : Bool} {type : JsonType}
  {field : Attribute}

theorem propertiesOf_eq (below : Below) (names : List String) (path : Path) (members : Members) :
    propertiesOf below names path members =
      members.mapM fun member => below member.2 member.1 (names.contains member.1) (path.key member.1) := by
  induction members with
  | nil => rfl
  | cons member rest ih =>
    rw [propertiesOf, List.mapM_cons, ih]

theorem readEach_eq (below : Below) (node : Members) (info : Info) (path : Path) (types : List JsonType) :
    readEach below node info path types = types.mapM (readAs below node info path true) := by
  induction types with
  | nil => rfl
  | cons type rest ih =>
    rw [readEach, List.mapM_cons, ih]

section

/-! The lemmas below take nodes one level down as failing for depth alone. -/

variable {path : Path} {fault : SchemaFault}
  (below : ∀ {document : Json} {name : String} {required : Bool} {path : Path} {field : Attribute},
    Describes more document name required field → readLevels limit levels document name required path = .error fault →
      Overruns limit document levels path fault)

include below

theorem ReadsAs.overruns (reading : ReadsAs (Describes more) node info inUnion type field)
    (declared : type ∈ (Json.object node).declaredTypes)
    (failed : readAs (readLevels limit levels) node info path inUnion type = .error fault) :
    Overruns limit (.object node) (levels + 1) path fault := by
  cases field with
  | arrayOf info items =>
    cases reading with
    | arrayOf present described =>
      simp only [readAs, present] at failed
      obtain failed | ⟨_, -, ⟨⟩⟩ := bind_eq_error.mp failed
      exact (below described failed).items declared present
  | record info properties =>
    cases reading with
    | record requires present described =>
      simp only [readAs, present, requiredNames_eq_ok.mpr requires, ok_bind, propertiesOf_eq] at failed
      obtain failed | ⟨_, -, ⟨⟩⟩ := bind_eq_error.mp failed
      obtain ⟨member, given, failed⟩ := exists_of_mapM_eq_error failed
      obtain ⟨property, -, describes⟩ := Pairing.exists_right described given
      exact (below describes failed).property declared present given
  | union => cases reading
  -- Nothing is read below a plain node.
  | _ =>
    have again : ReadsAs (Describes levels) node info inUnion type _ :=
      reading.imp fun _ member => absurd member List.not_mem_nil
    cases failed.symm.trans (readAs_levels_eq_ok.mpr again)

end

theorem Describes.overruns {document : Json} {name : String} {required : Bool} {path : Path} {fault : SchemaFault}
    (described : Describes more document name required field)
    (failed : readLevels limit levels document name required path = .error fault) :
    Overruns limit document levels path fault := by
  induction levels generalizing more document name required path field with
  | zero => exact ⟨[], document, .root document, by rw [← Except.error.inj failed, List.append_nil]⟩
  | succ levels ih =>
    cases more with
    | zero => exact described.elim
    | succ more =>
      obtain ⟨node, rfl, reads⟩ := described
      cases reads with
      | single titled described present reading =>
        simp only [readLevels, Node.read, text?_eq_ok.mpr titled, text?_eq_ok.mpr described,
          declared_eq_single.mpr present, ok_bind] at failed
        exact reading.overruns ih (by simp [Json.declaredTypes_of_single present]) failed
      | union titled described present several distinct each left =>
        simp only [readLevels, Node.read, text?_eq_ok.mpr titled, text?_eq_ok.mpr described,
          declared_eq_union.mpr ⟨present, several, distinct⟩, ok_bind] at failed
        obtain failed | ⟨others, read, failed⟩ := bind_eq_error.mp failed
        · rw [readEach_eq] at failed
          obtain ⟨type, listed, failed⟩ := exists_of_mapM_eq_error failed
          obtain ⟨candidate, -, reading⟩ := Pairing.exists_right each listed
          exact reading.overruns ih (Json.declaredTypes_of_union present ▸ listed) failed
        -- The candidates are the same under every limit, and leave enough of the list under `enum`.
        · obtain rfl := candidates_unique (readEach_levels_eq_ok.mp read) each
          split at failed
          next exhausted => exact absurd (by simpa using exhausted) left
          next => cases failed

end Node

namespace Attribute

/-- The limit is exact. What is read under a limit is read as the same tree under every higher one. What is read under
the higher one is read under the lower one as well if the tree keeps to that, and otherwise refused for its depth, at a
node just below the lower limit. -/
theorem depth_limit_exact {limit more : Nat} (le : limit ≤ more) (document : Json) (name : String) (required : Bool) :
    (∀ field, ofDocument limit document name required = .ok field →
      ofDocument more document name required = .ok field) ∧
    ∀ field, ofDocument more document name required = .ok field →
      (field.depth ≤ limit → ofDocument limit document name required = .ok field) ∧
      (limit < field.depth → ∃ fault, ofDocument limit document name required = .error fault ∧
        (Failure.schema fault).category = .invalidSchema ∧ fault.breach = .tooDeep limit ∧
        ∃ node, document.HasNode fault.path (limit + 1) node) := by
  simp only [Node.ofDocument_eq_ok]
  refine ⟨fun field described => ?_, fun field described => ⟨fun shallow => ?_, fun deep => ?_⟩⟩
  · exact described.of_depth_lt (Nat.lt_of_lt_of_le described.depth_lt (Nat.succ_le_succ le))
  · exact described.of_depth_lt (Nat.lt_succ_of_le shallow)
  · cases read : ofDocument limit document name required with
    | ok other =>
      obtain rfl := described.unique (Node.ofDocument_eq_ok.mp read)
      exact absurd (Node.ofDocument_eq_ok.mp read).depth_lt (Nat.not_lt_of_ge deep)
    | error fault =>
      obtain ⟨path, node, inside, rfl⟩ := described.overruns read
      exact ⟨_, rfl, rfl, rfl, node, inside⟩

theorem depth_limit_exact_sample :
    1 ≤ 4 ∧ ofDocument 4 Json.sampleSchema "" true = .ok Attribute.sample ∧ 1 < Attribute.sample.depth ∧
      ∃ fault, ofDocument 1 Json.sampleSchema "" true = .error fault ∧
        (Failure.schema fault).category = .invalidSchema ∧ fault.breach = .tooDeep 1 ∧
        ∃ node, Json.sampleSchema.HasNode fault.path 2 node := by
  have deep : 1 < Attribute.sample.depth := by decide
  exact ⟨by decide, rfl, deep, ((@depth_limit_exact 1 4 (by decide) Json.sampleSchema "" true).2 _ rfl).2 deep⟩

end Attribute

end Credential
