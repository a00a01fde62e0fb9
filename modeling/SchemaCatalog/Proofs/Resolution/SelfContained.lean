/-
  Self-contained documents
  ========================
  **Resolving a document until nothing is added makes it self-contained.**

  The result has a definition for every reference in it, and an entry that
  was added has its own definitions beside it in the same table.  So a
  further resolution has nothing to look up: it leaves the document as it
  is, whichever registry it is given.
-/
import SchemaCatalog.Proofs.Resolution.Passes

namespace SchemaCatalog.Schema

/-- **Resolution is complete.**  Whatever the document, the registry and the options, a result
    answers all of its references, every added schema has its definitions in the result's table,
    and resolving the result again changes nothing, against any registry. -/
theorem dereferenceTransitive_selfContained (entities : Registry) (o : ResolverOptions)
    (s out : Schema) (h : s.dereferenceTransitive entities o = .ok out) :
    (∃ tokens, out.refs o.maxDepth = .ok tokens ∧ ∀ token ∈ tokens,
      entityIdentifier token o.definitionsPrefix ∈ out.definitions.keys) ∧
    (∀ name e, out.definitions.get? name = some (.schema e) → name ∉ s.definitions.keys →
      ∀ key ∈ e.definitions.keys, key ∈ out.definitions.keys) ∧
    (∀ others : Registry, out.dereference others o = .ok out ∧
      out.dereferenceTransitive others o = .ok out) := by
  have hfix : out.SelfContained o := dereference_eq_self_iff.mp (dereferenceTransitive_fixpoint h)
  have hgrows : Grows entities s out := dereferencePasses_grows h
  refine ⟨?_, ?_, ?_⟩
  · obtain ⟨tokens, hrefs, hanswered⟩ := hfix
    exact ⟨tokens, hrefs, fun token ht => Table.mem_keys_iff.mpr (hanswered token ht)⟩
  · intro name e hget hnew key hkey
    have hfree : s.definitions.contains name = false := by
      rw [← Bool.not_eq_true]
      exact fun hcontains => hnew (Table.mem_keys_iff.mpr hcontains)
    exact Table.mem_keys_iff.mpr (hgrows.completes.closed name e hget hfree key hkey)
  · intro others
    exact ⟨dereference_eq_self_iff.mpr hfix, hfix.dereferenceTransitive others⟩

/-! ## Two entities that refer to each other -/

/-- An entity that refers to a second one, with a definition of its own. -/
def outerSchema : Schema where
  properties := ⟨[("inner", .schema (.reference "#/definitions/Inner"))]⟩
  definitions := ⟨[("Own", .flag true)]⟩

/-- An entity that refers back to the first. -/
def innerSchema : Schema where
  allOf := [.schema (.reference "#/definitions/Outer")]

def cyclicRegistry : Registry :=
  .ofEntities [
    { name := "Inner", schema := some (Bytes.ofString innerSchema.text) },
    { name := "Outer", schema := some (Bytes.ofString outerSchema.text) }]

/-- A reference to the first entity, resolved. -/
def cyclicDocument : Schema where
  ref := some "#/definitions/Outer"
  definitions := ⟨[("Inner", .schema innerSchema), ("Outer", .schema outerSchema),
    ("Own", .flag true)]⟩

theorem cyclicDocument_selfContained :
    (reference "#/definitions/Outer").dereferenceTransitive cyclicRegistry {} =
      .ok cyclicDocument ∧
    (∃ tokens, cyclicDocument.refs defaultMaxDepth = .ok tokens ∧ ∀ token ∈ tokens,
      entityIdentifier token definitionsPrefix ∈ cyclicDocument.definitions.keys) ∧
    (∀ name e, cyclicDocument.definitions.get? name = some (.schema e) →
      name ∉ (reference "#/definitions/Outer").definitions.keys →
      ∀ key ∈ e.definitions.keys, key ∈ cyclicDocument.definitions.keys) ∧
    (∀ others : Registry, cyclicDocument.dereference others {} = .ok cyclicDocument ∧
      cyclicDocument.dereferenceTransitive others {} = .ok cyclicDocument) := by
  have h : (reference "#/definitions/Outer").dereferenceTransitive cyclicRegistry {} =
      .ok cyclicDocument := by decide +kernel
  exact ⟨h, dereferenceTransitive_selfContained cyclicRegistry {} _ _ h⟩

end SchemaCatalog.Schema
