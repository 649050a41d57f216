import Credential.Proofs.Attribute.Tree
import Credential.Proofs.Success
import Credential.Value.Acceptance

/-! Accepting a value does not depend on where the value stands.

The place is carried down only to be named in a rejection. At a longer place a
value is accepted as the same node, or rejected for the same conflict at the
correspondingly longer place.
-/

set_option autoImplicit false

namespace Credential

def Rejection.below (base : Path) (rejection : Rejection) : Rejection :=
  ⟨base ++ rejection.path, rejection.conflict⟩

@[simp] theorem Path.append_key (base path : Path) (name : String) : base ++ path.key name = (base ++ path).key name :=
  (List.append_assoc base path _).symm

@[simp] theorem Path.append_index (base path : Path) (position : Nat) :
    base ++ path.index position = (base ++ path).index position :=
  (List.append_assoc base path _).symm

namespace Attribute

open Success

variable (base path : Path)

theorem firstAbsent_eq (candidates : List Attribute) :
    firstAbsent path candidates = candidates.findSome? fun candidate => (candidate.acceptAbsent path).toOption := by
  induction candidates with
  | nil => rfl
  | cons candidate rest ih =>
    rw [firstAbsent, List.findSome?_cons, ih]
    cases candidate.acceptAbsent path <;> rfl

theorem firstSupplied_eq (document : Json) (candidates : List Attribute) :
    firstSupplied document path candidates =
      candidates.findSome? fun candidate => (candidate.acceptSupplied document path).toOption := by
  induction candidates with
  | nil => rfl
  | cons candidate rest ih =>
    rw [firstSupplied, List.findSome?_cons, ih]
    cases candidate.acceptSupplied document path <;> rfl

theorem acceptMember_eq (key : String) (member : Json) (properties : List Attribute) :
    acceptMember path key member properties =
      match properties.find? fun property => property.name == key with
      | none => Rejection.throw path (.unknownKey key)
      | some property => property.acceptAt (some member) (path.key key) := by
  induction properties with
  | nil => rfl
  | cons property rest ih =>
    rw [acceptMember, List.find?_cons, ih]
    by_cases same : property.name = key
    · simp [same, acceptAt]
    · rw [if_neg same, beq_false_of_ne same]

theorem findSome?_congr {α β : Type} {first second : α → Option β} {items : List α}
    (same : ∀ item ∈ items, first item = second item) : items.findSome? first = items.findSome? second := by
  induction items with
  | nil => rfl
  | cons item rest ih =>
    obtain ⟨here, after⟩ := List.forall_mem_cons.mp same
    rw [List.findSome?_cons, List.findSome?_cons, here, ih after]

theorem absentAs_append (field : Attribute) (type : JsonType) :
    field.absentAs type (base ++ path) = (field.absentAs type path).mapError (Rejection.below base) := by
  unfold absentAs
  split <;> rfl

theorem acceptAbsent_append (field : Attribute) :
    field.acceptAbsent (base ++ path) = (field.acceptAbsent path).mapError (Rejection.below base) := by
  induction field with
  | union info candidates ih =>
    have same : firstAbsent (base ++ path) candidates = firstAbsent path candidates := by
      rw [firstAbsent_eq, firstAbsent_eq]
      exact findSome?_congr fun candidate member => by rw [ih candidate member, toOption_mapError]
    simp only [acceptAbsent, same]
    split
    · rfl
    · split <;> rfl
  | _ => exact absentAs_append base path _ _

theorem within_append {α : Type} (allowed : Option (List α)) (accepts : α → Bool) (toJson : α → Json)
    (document : Json) (node : Value) :
    within allowed accepts toJson (base ++ path) document node =
      (within allowed accepts toJson path document node).mapError (Rejection.below base) := by
  unfold within
  split
  · rfl
  · split <;> rfl

theorem complete_append (supplied : List Value) (before : List String) (properties : List Attribute) :
    complete (base ++ path) supplied before properties =
      (complete path supplied before properties).mapError (Rejection.below base) := by
  induction properties generalizing before with
  | nil => rfl
  | cons property rest ih =>
    simp only [complete]
    split
    · simp only [mapError_bind, ih]
      rfl
    · simp only [mapError_bind, ih, ← Path.append_key, acceptAbsent_append]
      rfl

-- Below an array or an object the place is longer by a step, which stays at its end.
theorem acceptSupplied_append (field : Attribute) (document : Json) :
    field.acceptSupplied document (base ++ path) =
      (field.acceptSupplied document path).mapError (Rejection.below base) := by
  induction field generalizing document path with
  | boolean | string =>
    simp only [acceptSupplied]
    split
    · exact within_append ..
    · rfl
  | integer =>
    simp only [acceptSupplied]
    split
    · split
      · exact within_append ..
      · rfl
    · rfl
  | number =>
    simp only [acceptSupplied]
    split
    · exact within_append ..
    · rfl
  | null | anyArray | anyObject =>
    simp only [acceptSupplied]
    split <;> rfl
  | arrayOf info items ih =>
    simp only [acceptSupplied]
    split
    · simp only [mapError_bind, mapM_mapError]
      congr 2
      funext ⟨item, position⟩
      rw [← Path.append_index]
      split
      · exact acceptAbsent_append ..
      · exact ih ..
    · rfl
  | record info properties ih =>
    simp only [acceptSupplied]
    split
    · simp only [mapError_bind, mapM_mapError, complete_append]
      congr 2
      funext ⟨key, member⟩
      simp only [acceptMember_eq]
      split
      · rfl
      next property found =>
        have inside := List.mem_of_find?_eq_some found
        rw [← Path.append_key]
        simp only [acceptAt]
        split
        · exact acceptAbsent_append ..
        · exact ih property inside ..
    · rfl
  | union info candidates ih =>
    have same : firstSupplied document (base ++ path) candidates = firstSupplied document path candidates := by
      rw [firstSupplied_eq, firstSupplied_eq]
      exact findSome?_congr fun candidate member => by rw [ih candidate member, toOption_mapError]
    simp only [acceptSupplied, same]
    split <;> rfl

theorem acceptAt_append (field : Attribute) (document : Option Json) :
    field.acceptAt document (base ++ path) = (field.acceptAt document path).mapError (Rejection.below base) := by
  unfold acceptAt
  split
  · exact acceptAbsent_append ..
  · split
    · exact acceptAbsent_append ..
    · exact acceptSupplied_append ..

theorem acceptAt_eq (field : Attribute) (document : Option Json) :
    field.acceptAt document base = (field.accept document).mapError (Rejection.below base) := by
  rw [accept, ← acceptAt_append, List.append_nil]

variable {path}

theorem acceptAbsent_eq_ok {field : Attribute} {node : Value} :
    field.acceptAbsent path = .ok node ↔ field.acceptAbsent [] = .ok node := by
  have moved := acceptAbsent_append path [] field
  rw [List.append_nil] at moved
  rw [moved, mapError_eq_ok]

theorem acceptSupplied_eq_ok {field : Attribute} {document : Json} {node : Value} :
    field.acceptSupplied document path = .ok node ↔ field.acceptSupplied document [] = .ok node := by
  have moved := acceptSupplied_append path [] field document
  rw [List.append_nil] at moved
  rw [moved, mapError_eq_ok]

theorem acceptAt_eq_ok {field : Attribute} {document : Option Json} {node : Value} :
    field.acceptAt document path = .ok node ↔ field.accept document = .ok node := by
  rw [acceptAt_eq, mapError_eq_ok]

/-- A longer place is only put in front. The same value is accepted as the same node, and what is rejected is rejected
for the same conflict, at its own place below the base. So the outcome at the root decides the outcome at every
place. -/
theorem acceptAt_relocated (field : Attribute) (document : Option Json) (base path : Path) :
    (∀ node, field.acceptAt document (base ++ path) = .ok node ↔ field.acceptAt document path = .ok node) ∧
      (∀ rejection, field.acceptAt document (base ++ path) = .error rejection ↔
        ∃ inner, field.acceptAt document path = .error inner ∧ rejection.conflict = inner.conflict ∧
          rejection.path = base ++ inner.path) ∧
      field.acceptAt document base = (field.accept document).mapError (Rejection.below base) := by
  refine ⟨fun node => ?_, fun rejection => ?_, acceptAt_eq base field document⟩
  · rw [acceptAt_append, mapError_eq_ok]
  · rw [acceptAt_append, mapError_eq_error]
    refine exists_congr fun inner => and_congr_right fun _ => ?_
    constructor
    · rintro rfl
      exact ⟨rfl, rfl⟩
    · rintro ⟨sameConflict, samePlace⟩
      rw [Rejection.below, ← sameConflict, ← samePlace]

end Attribute

end Credential
