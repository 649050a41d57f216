import Credential.Attribute.Basic
import Mathlib.Data.List.Nodup

/-! Attribute trees: induction over them, the nodes they consist of, and the order of properties. -/

set_option autoImplicit false

namespace Credential

namespace Attribute

/-- Induction over the tree, with one hypothesis for all properties and one for all candidates. -/
@[induction_eliminator]
theorem inductionOn {motive : Attribute → Prop}
    (boolean : ∀ info allowed, motive (.boolean info allowed))
    (integer : ∀ info allowed, motive (.integer info allowed))
    (number : ∀ info allowed, motive (.number info allowed))
    (string : ∀ info format allowed, motive (.string info format allowed))
    (null : ∀ info, motive (.null info))
    (anyArray : ∀ info, motive (.anyArray info))
    (arrayOf : ∀ info items, motive items → motive (.arrayOf info items))
    (anyObject : ∀ info, motive (.anyObject info))
    (record : ∀ info properties, (∀ property ∈ properties, motive property) → motive (.record info properties))
    (union : ∀ info candidates, (∀ candidate ∈ candidates, motive candidate) → motive (.union info candidates))
    (field : Attribute) : motive field :=
  @Attribute.rec motive (fun fields => ∀ field ∈ fields, motive field)
    boolean integer number string null anyArray arrayOf anyObject record union
    (fun _ member => nomatch member)
    (fun _ _ first rest => List.forall_mem_cons.mpr ⟨first, rest⟩)
    field

def children : Attribute → List Attribute
  | arrayOf _ items => [items]
  | record _ properties => properties
  | union _ candidates => candidates
  | _ => []

theorem sizeOf_of_mem_children {field child : Attribute} (member : child ∈ field.children) :
    sizeOf child < sizeOf field := by
  cases field with
  | arrayOf info items =>
    obtain rfl := List.mem_singleton.mp member
    simp only [arrayOf.sizeOf_spec]
    omega
  | record info properties =>
    have inside := @List.sizeOf_lt_of_mem _ _ _ properties member
    simp only [record.sizeOf_spec]
    omega
  | union info candidates =>
    have inside := @List.sizeOf_lt_of_mem _ _ _ candidates member
    simp only [union.sizeOf_spec]
    omega
  | _ => exact nomatch member

theorem types_of_type? {field : Attribute} {type : JsonType} (typed : field.type? = some type) :
    field.types = [type] := by
  cases field with
  | union => simp [type?] at typed
  | _ => simp_all [types, type?]

/-- Whether a value of the attribute is kept as a whole, with no parts that have attributes of their own. -/
def isPlain : Attribute → Bool
  | arrayOf .. | record .. | union .. => false
  | _ => true

/-- `field.HasNode node`: the node is the root of the tree or lies somewhere below it. -/
inductive HasNode : Attribute → Attribute → Prop where
  | root (field : Attribute) : HasNode field field
  | under {field child node : Attribute} : child ∈ field.children → HasNode child node → HasNode field node

theorem HasNode.trans {field middle node : Attribute} (first : field.HasNode middle) (second : middle.HasNode node) :
    field.HasNode node := by
  induction first with
  | root => exact second
  | under member _ ih => exact .under member (ih second)

/-- A property of all nodes of a tree. -/
def Everywhere (holds : Attribute → Prop) (field : Attribute) : Prop :=
  ∀ node, field.HasNode node → holds node

theorem everywhere_iff {holds : Attribute → Prop} {field : Attribute} :
    field.Everywhere holds ↔ holds field ∧ ∀ child ∈ field.children, child.Everywhere holds := by
  constructor
  · intro all
    exact ⟨all field (.root field), fun child member node inside => all node (.under member inside)⟩
  · rintro ⟨here, below⟩ node inside
    cases inside with
    | root => exact here
    | under member inside => exact below _ member node inside

theorem everywhere_iff_unions {holds : Attribute → Prop} {breaks : List Attribute → Prop}
    (unions : ∀ info candidates, holds (union info candidates) ↔ ¬breaks candidates)
    (others : ∀ node, node.type?.isSome = true → holds node) {field : Attribute} :
    field.Everywhere holds ↔ ¬∃ info candidates, field.HasNode (.union info candidates) ∧ breaks candidates := by
  constructor
  · rintro all ⟨info, candidates, inside, broken⟩
    exact (unions info candidates).mp (all _ inside) broken
  · intro none node inside
    cases node with
    | union info candidates => exact (unions info candidates).mpr fun broken => none ⟨info, candidates, inside, broken⟩
    | _ => exact others _ rfl

theorem children_eq_nil {field : Attribute} (plain : field.isPlain = true) : field.children = [] := by
  cases field <;> simp_all [isPlain, children]

theorem everywhere_of_plain {holds : Attribute → Prop} {field : Attribute} (plain : field.isPlain = true)
    (here : holds field) : field.Everywhere holds := by
  refine everywhere_iff.mpr ⟨here, ?_⟩
  rw [children_eq_nil plain]
  exact List.forall_mem_nil _

end Attribute

theorem find?_image_eq_some {α β : Type} [BEq β] [LawfulBEq β] {image : α → β} {items : List α}
    (distinct : (items.map image).Nodup) {item : α} {key : β} :
    (items.find? fun other => image other == key) = some item ↔ item ∈ items ∧ image item = key := by
  constructor
  · intro found
    have taken := List.find?_some found
    exact ⟨List.mem_of_find?_eq_some found, eq_of_beq taken⟩
  · rintro ⟨member, rfl⟩
    obtain ⟨before, after, rfl⟩ := List.append_of_mem member
    refine List.find?_eq_some_iff_append.mpr ⟨by simp, before, after, rfl, fun other inside => ?_⟩
    have disjoint : List.Disjoint (before.map image) ((item :: after).map image) :=
      List.disjoint_of_nodup_append (List.map_append ▸ distinct)
    have differs : image other ≠ image item := fun same =>
      disjoint (List.mem_map_of_mem inside) (by simp [same])
    simpa using differs

theorem filter_eq_singleton {α : Type} {items : List α} (distinct : items.Nodup) {holds : α → Bool} {item : α} :
    items.filter holds = [item] ↔ ∀ other, other ∈ items ∧ holds other = true ↔ other = item := by
  constructor
  · intro only other
    rw [← List.mem_filter, only, List.mem_singleton]
  · intro only
    refine List.perm_singleton.mp ((List.perm_ext_iff_of_nodup (distinct.filter _) (List.nodup_singleton _)).mpr ?_)
    intro other
    rw [List.mem_filter, only, List.mem_singleton]

/-! ## Objects after the rest -/

section

variable {α β : Type} {isObject : α → Bool}

theorem objectsLast_perm (items : List α) : (objectsLast isObject items).Perm items := by
  have split := List.filter_append_perm (fun item => !isObject item) items
  simpa [objectsLast] using split

theorem mem_objectsLast {item : α} {items : List α} : item ∈ objectsLast isObject items ↔ item ∈ items :=
  (objectsLast_perm items).mem_iff

theorem objectsLast_ordered (items : List α) :
    (objectsLast isObject items).Pairwise fun first second => isObject first = true → isObject second = true := by
  refine List.pairwise_append.mpr ⟨?_, ?_, ?_⟩
  · refine List.Pairwise.imp_mem.mpr (List.pairwise_of_forall fun first second inside _ object => ?_)
    simp [object] at inside
  · refine List.Pairwise.imp_mem.mpr (List.pairwise_of_forall fun first second _ inside _ => ?_)
    exact (List.mem_filter.mp inside).2
  · intro first _ second inside _
    exact (List.mem_filter.mp inside).2

theorem objectsLast_eq_self {items : List α}
    (ordered : items.Pairwise fun first second => isObject first = true → isObject second = true) :
    objectsLast isObject items = items := by
  induction items with
  | nil => rfl
  | cons item rest ih =>
    obtain ⟨after, ordered⟩ := List.pairwise_cons.mp ordered
    have kept := ih ordered
    unfold objectsLast at kept ⊢
    cases object : isObject item with
    | false => simp [object, kept]
    | true =>
      have none : rest.filter (fun item => !isObject item) = [] := by
        simpa [List.filter_eq_nil_iff] using fun other inside => after other inside object
      have all : rest.filter isObject = rest := List.filter_eq_self.mpr fun other inside => after other inside object
      simp [object, none, all]

theorem objectsLast_eq_self_of_map_eq {isObjectToo : β → Bool} {items : List α} {others : List β}
    (ordered : items.Pairwise fun first second => isObject first = true → isObject second = true)
    (same : others.map isObjectToo = items.map isObject) : objectsLast isObjectToo others = others := by
  have onImages : (items.map isObject).Pairwise fun first second => first = true → second = true :=
    List.pairwise_map.mpr ordered
  rw [← same] at onImages
  exact objectsLast_eq_self (List.pairwise_map.mp onImages)

end

end Credential
