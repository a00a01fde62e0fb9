/-
  Larger registries
  =================
  **What is registered besides changes no resolution that succeeds.**

  A pass looks up the names of the references that the document does not
  answer, and if it succeeds it has found an entity for each.  A registry that
  answers these look-ups alike makes it look up the same names in the same order,
  and the next pass is given the same document.  So the two loops have the
  same course (`Repeats.of_extends`), although one of them could go on for
  longer.

  A look-up that fails may succeed in the larger registry, so nothing of the
  kind holds of resolutions that fail.
-/
import SchemaCatalog.Consistency
import SchemaCatalog.Validation.Sample
import SchemaCatalog.Proofs.Resolution.Repetition
import SchemaCatalog.Proofs.Resolution.SelfContained

namespace SchemaCatalog

variable {entities others : Registry} {o : ResolverOptions}

theorem Registry.Supplies.of_extends {name : String} {e : Schema} (h : entities.Supplies name e)
    (hextends : entities.Extends others) : others.Supplies name e := by
  obtain ⟨entity, bytes, hget, hbytes, hread⟩ := h
  exact ⟨entity, bytes, hextends name entity hget, hbytes, hread⟩

namespace Schema

/-! ## 1. One pass -/

theorem inlineTokens_of_extends (hextends : entities.Extends others) {s out : Schema}
    {tokens : List String} (h : inlineTokens entities o s tokens = .ok out) :
    inlineTokens others o s tokens = .ok out := by
  induction tokens generalizing s with
  | nil => exact h
  | cons token rest ih =>
    rcases inlineTokens_cons_ok_iff.mp h with ⟨htaken, hrest⟩ | ⟨hfree, e, hsupplies, hrest⟩
    · exact inlineTokens_cons_ok_iff.mpr (Or.inl ⟨htaken, ih hrest⟩)
    · exact inlineTokens_cons_ok_iff.mpr
        (Or.inr ⟨hfree, e, hsupplies.of_extends hextends, ih hrest⟩)

theorem dereference_of_extends (hextends : entities.Extends others) {s out : Schema}
    (h : s.dereference entities o = .ok out) : s.dereference others o = .ok out := by
  obtain ⟨tokens, hrefs, hinline⟩ := dereference_ok_iff.mp h
  exact dereference_ok_iff.mpr ⟨tokens, hrefs, inlineTokens_of_extends hextends hinline⟩

/-! ## 2. All passes -/

/-- **A loop that succeeds has the same course in a larger registry.** -/
theorem Repeats.of_extends (hextends : entities.Extends others) {s : Schema} {docs : List Schema}
    {result : Outcome Schema} (h : Repeats entities o s docs result) {out : Schema}
    (hok : result = .ok out) : Repeats others o s docs result := by
  induction h with
  | failed => exact nomatch hok
  | settled hpass hsize => exact .settled (dereference_of_extends hextends hpass) hsize
  | again hpass hsize _ ih => exact .again (dereference_of_extends hextends hpass) hsize (ih hok)

theorem dereferenceTransitive_of_extends (hextends : entities.Extends others) {s out : Schema}
    (h : s.dereferenceTransitive entities o = .ok out) :
    s.dereferenceTransitive others o = .ok out := by
  obtain ⟨docs, hcourse⟩ := repeats_dereferenceTransitive entities o s
  obtain ⟨docs', hcourse'⟩ := repeats_dereferenceTransitive others o s
  -- the course against the first registry is one against the second, which has only one
  rw [h] at hcourse
  exact ((hcourse.of_extends hextends rfl).unique hcourse').2

end Schema

/-! ## 3. Checks of an entity -/

/-- What is checked of an entity rests on its schema as it is resolved. -/
theorem Entity.check_of_extends (hextends : entities.Extends others) {o : ConsistencyOptions}
    {e : Entity} {s out : Schema} (hread : e.readSchema = .ok s)
    (h : s.dereferenceTransitive entities ⟨o.definitionsPrefix, o.maxDepth⟩ = .ok out) :
    e.check o others = e.check o entities := by
  have h' := Schema.dereferenceTransitive_of_extends hextends h
  cases hshape : e.shape with
  | none => simp only [Entity.check, hshape]
  | some shape => simp only [Entity.check, hshape, hread, bind, Except.bind, h, h']

theorem Entity.validateSample_of_extends (hextends : entities.Extends others) {e : Entity}
    {s out : Schema} (hread : e.readSchema = .ok s)
    (h : s.dereferenceTransitive entities o = .ok out) :
    e.validateSample o others = e.validateSample o entities := by
  have h' := Schema.dereferenceTransitive_of_extends hextends h
  simp only [Entity.validateSample, hread, bind, Except.bind, h, h']

/-- **Registering more never changes a resolution that succeeds.**  If a second registry answers
    every name of the first in the same way, then whatever the options and the document, a pass
    that succeeds against the first has the same result against the second, and so has resolution
    to the end.  An entity whose schema is resolved to the end against the first agrees with its
    shape, and its sample with its schema, to the same effect against both. -/
theorem Registry.resolution_of_extends (entities others : Registry)
    (hextends : entities.Extends others) :
    (∀ o s out, Schema.dereference entities o s = .ok out →
      Schema.dereference others o s = .ok out) ∧
    (∀ o s out, Schema.dereferenceTransitive entities o s = .ok out →
      Schema.dereferenceTransitive others o s = .ok out) ∧
    (∀ (o : ConsistencyOptions) (e : Entity) (s out : Schema), e.readSchema = .ok s →
      s.dereferenceTransitive entities ⟨o.definitionsPrefix, o.maxDepth⟩ = .ok out →
      e.check o others = e.check o entities) ∧
    (∀ (o : ResolverOptions) (e : Entity) (s out : Schema), e.readSchema = .ok s →
      s.dereferenceTransitive entities o = .ok out →
      e.validateSample o others = e.validateSample o entities) :=
  ⟨fun _ _ _ => Schema.dereference_of_extends hextends,
    fun _ _ _ => Schema.dereferenceTransitive_of_extends hextends,
    fun _ _ _ _ hread => Entity.check_of_extends hextends hread,
    fun _ _ _ _ hread => Entity.validateSample_of_extends hextends hread⟩

/-! ## 4. One entity more -/

/-- The two entities that refer to each other, and one that a definition of the first is named
    after. -/
def Schema.widerRegistry : Registry :=
  Schema.cyclicRegistry.insert "Own" { name := "Own", schema := some (Bytes.ofString "false") }

/-- An entity with the first of the two in it. -/
def Entity.holder : Entity where
  name := "Holder"
  schema := some (Bytes.ofString (Schema.reference "#/definitions/Outer").text)
  sample := Bytes.ofString "{}"
  shape := some { kind := .dynamic }

/-- The definition that the first entity brings with it stays the one of its name. -/
theorem Registry.widerRegistry_resolution :
    Schema.cyclicRegistry.Extends Schema.widerRegistry ∧
    (Schema.reference "#/definitions/Outer").dereferenceTransitive Schema.cyclicRegistry {} =
      .ok Schema.cyclicDocument ∧
    (Schema.reference "#/definitions/Outer").dereferenceTransitive Schema.widerRegistry {} =
      .ok Schema.cyclicDocument ∧
    Entity.holder.check {} Schema.widerRegistry = Entity.holder.check {} Schema.cyclicRegistry ∧
    Entity.holder.validateSample {} Schema.widerRegistry =
      Entity.holder.validateSample {} Schema.cyclicRegistry := by
  have hextends : Schema.cyclicRegistry.Extends Schema.widerRegistry :=
    Table.extends_insert _ (by decide +kernel)
  have hfull : (Schema.reference "#/definitions/Outer").dereferenceTransitive
      Schema.cyclicRegistry {} = .ok Schema.cyclicDocument := by decide +kernel
  have hread : Entity.holder.readSchema = .ok (Schema.reference "#/definitions/Outer") := by
    decide +kernel
  obtain ⟨_, htransitive, hcheck, hsample⟩ :=
    resolution_of_extends Schema.cyclicRegistry Schema.widerRegistry hextends
  exact ⟨hextends, hfull, htransitive {} _ _ hfull, hcheck {} _ _ _ hread hfull,
    hsample {} _ _ _ hread hfull⟩

end SchemaCatalog
