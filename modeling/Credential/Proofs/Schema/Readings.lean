import Credential.Proofs.Attribute.Regular
import Mathlib.Logic.Relation

/-! The nodes of a tree next to the parts of a document that they stand for.

A reading pairs a node with its document. From there it leads on to the items,
the properties and the candidates, each with the part of the document that
belongs to it. Candidates share the document of their union.
-/

set_option autoImplicit false

namespace Credential

/-- A node and its document. A candidate of a union is a reading of the document as one of its types. -/
structure Reading where
  document : Json
  field : Attribute
  inUnion : Bool

namespace Reading

inductive Step : Reading → Reading → Prop where
  | items {document below : Json} {info : Info} {items : Attribute} {inUnion : Bool} :
      document.get? "items" = some below → Step ⟨document, .arrayOf info items, inUnion⟩ ⟨below, items, false⟩
  | property {document below : Json} {info : Info} {properties : List Attribute} {property : Attribute} {inUnion : Bool}
      {members : Members} : document.get? "properties" = some (.object members) → property ∈ properties →
      members.get? property.name = some below →
      Step ⟨document, .record info properties, inUnion⟩ ⟨below, property, false⟩
  | candidate {document : Json} {info : Info} {candidates : List Attribute} {candidate : Attribute} {inUnion : Bool} :
      candidate ∈ candidates → Step ⟨document, .union info candidates, inUnion⟩ ⟨document, candidate, true⟩

def Leads : Reading → Reading → Prop := Relation.ReflTransGen Step

/-- A property of all readings that a reading leads to. No part of a node is left without one. -/
structure Throughout (holds : Reading → Prop) (start : Reading) : Prop where
  holds : ∀ reading, start.Leads reading → holds reading
  reaches : ∀ reading, start.Leads reading →
    ∀ child ∈ reading.field.children, ∃ below, reading.Step below ∧ below.field = child

/-- What one step keeps, and what is enough for a reading of each part. -/
structure Invariant (kept : Reading → Prop) : Prop where
  step : ∀ first second, kept first → first.Step second → kept second
  reaches : ∀ reading, kept reading →
    ∀ child ∈ reading.field.children, ∃ below, reading.Step below ∧ below.field = child

theorem Invariant.leads {kept : Reading → Prop} (invariant : Invariant kept) {start reading : Reading}
    (first : kept start) (path : start.Leads reading) : kept reading := by
  induction path with
  | refl => exact first
  | tail _ step ih => exact invariant.step _ _ ih step

theorem Invariant.throughout {kept holds : Reading → Prop} (invariant : Invariant kept)
    (enough : ∀ reading, kept reading → holds reading) {start : Reading} (first : kept start) :
    start.Throughout holds := by
  constructor
  · intro reading path
    exact enough reading (invariant.leads first path)
  · intro reading path
    exact invariant.reaches reading (invariant.leads first path)

theorem Throughout.below {holds : Reading → Prop} {start next : Reading} (throughout : start.Throughout holds)
    (step : start.Step next) : next.Throughout holds :=
  ⟨fun reading path => throughout.holds reading (.head step path),
    fun reading path => throughout.reaches reading (.head step path)⟩

theorem Throughout.exists_reading {holds : Reading → Prop} {start : Reading} (throughout : start.Throughout holds)
    {node : Attribute} (inside : start.field.HasNode node) : ∃ reading, start.Leads reading ∧ reading.field = node := by
  generalize same : start.field = field at inside
  -- On the way down to the node, each part has a reading to start over from.
  induction inside generalizing start with
  | root => exact ⟨start, .refl, same⟩
  | under member _ ih =>
    obtain ⟨next, step, fits⟩ := throughout.reaches start .refl _ (same ▸ member)
    obtain ⟨reading, path, found⟩ := ih (throughout.below step) fits
    exact ⟨reading, .head step path, found⟩

end Reading

end Credential
