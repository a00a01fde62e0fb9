/-
  The check of a resolved document
  ================================
  **In a resolved document the check finds every reference answered.**

  Resolution walks a document from its root and its definitions; the check
  descends it beside a shape and jumps from each reference to the
  definition it names.  The two also read names differently: for
  resolution a token without the prefix is a name, for the check it is an
  error.

  What the check says about an unanswered reference is the only one of
  its errors without a position, so it can be told where the error comes
  from (`descend_error_cases`): from a reference at the place of some
  pair.  The places of all pairs are places that the walk visits, since
  the descent leaves a tree only for the tree of a definition of the root
  (`Occurs.standsFor`).  So a document whose references are answered fails
  the check in this way only where the answer is a flag.
-/
import SchemaCatalog.Proofs.Consistency.Acceptance
import SchemaCatalog.Proofs.Resolution.SelfContained
import SchemaCatalog.Proofs.Schema.Visiting

namespace SchemaCatalog

namespace Consistency

open Schema (Within Occurs RefersTo mem_childrenOfList_iff mem_childrenOfTable_iff)

variable {c : Context} {p : Position} {e : SchemaError}

/-! ## 1. Errors and where they are raised -/

/-- No schema stands under the name that the token carries. -/
def Unanswered (c : Context) (token id : String) : Prop :=
  token = c.options.definitionsPrefix ++ id ∧ ∀ s, c.root.definitions.get? id ≠ some (.schema s)

/-- An error that a pair meets by itself: it says at which position, or it is about a reference
    at the place, to which no schema answers. -/
inductive RaisedAt (c : Context) (p : Position) (schema : Option Schema) : SchemaError → Prop where
  | positional {e : SchemaError} : e.breadcrumb? = some p.breadcrumb → RaisedAt c p schema e
  | unresolved {s t : Schema} {token id : String} : schema = some s → Within s t →
      t.ref = some token → Unanswered c token id → RaisedAt c p schema (.unresolvedReference id)

theorem lookup_error {token : String} (h : lookup c p token = .error e) :
    e.breadcrumb? = some p.breadcrumb ∨
      ∃ id, Unanswered c token id ∧ e = .unresolvedReference id := by
  rw [lookup] at h
  split at h
  · cases h
    exact Or.inl rfl
  · next name hname =>
    split at h
    · cases h
    · next hnone =>
      cases h
      exact Or.inr ⟨name, ⟨stripPrefix?_eq_some_iff.mp hname, hnone⟩, rfl⟩

theorem targetAmong_error {found : Schema × Bool} {alternatives : List (Subschema Schema)}
    (h : targetAmong c p found alternatives = .error e) :
    ∃ member token, .schema member ∈ alternatives ∧ member.ref = some token ∧
      lookup c p token = .error e := by
  induction alternatives generalizing found with
  | nil => cases h
  | cons place rest ih =>
    have hrest {found : Schema × Bool} (h : targetAmong c p found rest = .error e) :
        ∃ member token, .schema member ∈ place :: rest ∧ member.ref = some token ∧
          lookup c p token = .error e := by
      obtain ⟨member, token, hmember, href, hlookup⟩ := ih h
      exact ⟨member, token, List.mem_cons_of_mem _ hmember, href, hlookup⟩
    obtain ⟨s, nullable⟩ := found
    cases place with
    | flag b => exact hrest h
    | schema member =>
      rw [targetAmong] at h
      split at h
      · exact hrest h
      · split at h
        · exact hrest h
        · next token href =>
          rcases bind_error_iff.mp h with hlookup | ⟨t, _, h⟩
          · exact ⟨member, token, List.mem_cons_self, href, hlookup⟩
          · exact hrest h

/-- The reference that cannot be followed stands at the place or in one of its alternatives. -/
theorem target_error {s : Schema} (h : target c p s = .error e) : RaisedAt c p (some s) e := by
  have hreference : ∃ t token, Within s t ∧ t.ref = some token ∧ lookup c p token = .error e := by
    rw [target] at h
    split at h
    · next token href =>
      rcases bind_error_iff.mp h with hlookup | ⟨t, _, h⟩
      · exact ⟨s, token, .self s, href, hlookup⟩
      · cases h
    · obtain ⟨member, token, hmember, href, hlookup⟩ := targetAmong_error h
      obtain ⟨segment, hsegment⟩ := mem_childrenOfList_iff.mpr hmember
      have hchild : (segment, member) ∈ s.children := by
        simp only [Schema.children, List.mem_append]
        exact Or.inl (Or.inr hsegment)
      exact ⟨member, token, .deeper hchild (.self member), href, hlookup⟩
  obtain ⟨t, token, ht, href, hlookup⟩ := hreference
  rcases lookup_error hlookup with hposition | ⟨id, hunanswered, rfl⟩
  · exact .positional hposition
  · exact .unresolved rfl ht href hunanswered

theorem typeOf_error {s : Schema} (h : typeOf p s = .error e) :
    e.breadcrumb? = some p.breadcrumb := by
  rw [typeOf] at h
  split at h
  · cases h
    rfl
  · simp only at h
    split at h
    · cases h
    · split at h
      · cases h
      · cases h
        rfl
    · cases h
      rfl

theorem checkNullable_error {shape : Shape} {nullable : Bool}
    (h : checkNullable c p shape nullable = .error e) : e.breadcrumb? = some p.breadcrumb := by
  rw [checkNullable] at h
  split at h
  · cases h
  · split at h
    · cases h
      rfl
    · split at h
      · cases h
        rfl
      · cases h

theorem checkFlat_error {typeName : String} {kind : Kind Shape}
    (h : checkFlat p typeName kind = .error e) : e.breadcrumb? = some p.breadcrumb := by
  have hrequire {b : Bool} (h : (if b then .ok () else .error (mismatch p typeName kind) :
      Outcome Unit) = .error e) : e.breadcrumb? = some p.breadcrumb := by
    split at h
    · cases h
    · cases h
      rfl
  unfold checkFlat at h
  split at h
  · exact hrequire h
  · exact hrequire h
  · exact hrequire h
  · exact hrequire h
  · cases h
    rfl
  · cases h
    rfl
  · cases h
    rfl

theorem checkField_error {t : Schema} {declaredName wireName : String}
    (h : checkField c p t declaredName wireName = .error e) :
    e.breadcrumb? = some p.breadcrumb := by
  rw [checkField] at h
  split at h
  · cases h
    rfl
  · simp only at h
    split at h
    · cases h
      rfl
    · split at h
      · cases h
        rfl
      · cases h

theorem checkProperties_error {t : Schema} {wireNames : List String}
    (h : checkProperties p t wireNames = .error e) : e.breadcrumb? = some p.breadcrumb := by
  rw [checkProperties] at h
  split at h
  · cases h
    rfl
  · cases h

theorem compareHead_error {shape : Shape} {schema : Option Schema}
    (h : compareHead c p shape schema = .error e) : RaisedAt c p schema e := by
  unfold compareHead at h
  split at h
  · cases h
    exact .positional rfl
  · split at h
    · split at h
      · cases h
      · cases h
        exact .positional rfl
    · rcases bind_error_iff.mp h with htarget | ⟨⟨t, nullableRef⟩, _, h⟩
      · exact target_error htarget
      rcases bind_error_iff.mp h with htype | ⟨⟨typeName, nullableType⟩, _, h⟩
      · exact .positional (typeOf_error htype)
      rcases bind_error_iff.mp h with hnullable | ⟨⟨⟩, _, h⟩
      · exact .positional (checkNullable_error hnullable)
      · split at h <;> cases h

/-! ## 2. Errors from below -/

theorem checkPlaces_error {check : Option Schema → Position → Outcome Unit}
    {places : List (Option Schema × Position)} (h : checkPlaces check places = .error e) :
    ∃ place ∈ places, check place.1 place.2 = .error e := by
  induction places with
  | nil => cases h
  | cons place rest ih =>
    rcases bind_error_iff.mp h with hfirst | ⟨⟨⟩, _, h⟩
    · exact ⟨place, List.mem_cons_self, hfirst⟩
    · obtain ⟨later, hlater, herror⟩ := ih h
      exact ⟨later, List.mem_cons_of_mem _ hlater, herror⟩

theorem descendFields_error {t : Schema} {fields : List (Field Shape)}
    (h : descendFields c t p fields = .error e) :
    e.breadcrumb? = some p.breadcrumb ∨
      ∃ f ∈ fields, ∃ property, t.properties.get? f.wireName = some (.schema property) ∧
        descend c (some property) (p.child ("." ++ f.wireName) f.skipWhenEmpty) f.type =
          .error e := by
  induction fields with
  | nil => cases h
  | cons f rest ih =>
    have hrest (h : descendFields c t p rest = .error e) :
        e.breadcrumb? = some p.breadcrumb ∨
          ∃ g ∈ f :: rest, ∃ property, t.properties.get? g.wireName = some (.schema property) ∧
            descend c (some property) (p.child ("." ++ g.wireName) g.skipWhenEmpty) g.type =
              .error e := by
      rcases ih h with hposition | ⟨g, hg, hbelow⟩
      · exact Or.inl hposition
      · exact Or.inr ⟨g, List.mem_cons_of_mem _ hg, hbelow⟩
    obtain ⟨declaredName, wireName, type, skipWhenEmpty⟩ := f
    rw [descendFields] at h
    split at h
    · next hfield =>
      cases h
      exact Or.inl (checkField_error hfield)
    · exact hrest h
    · next property hfield =>
      obtain ⟨_, _, _, hproperty⟩ := checkField_ok_iff.mp hfield
      split at h
      · next herror =>
        cases h
        exact Or.inr ⟨_, List.mem_cons_self, property,
          bind_schema?_eq_some_iff.mp hproperty, herror⟩
      · exact hrest h

/-- What a comparison with a kind fails with is about the position, or comes from below. -/
theorem descendKind_error {t : Schema} {typeName : String} {kind : Kind Shape}
    (h : descendKind c t typeName p kind = .error e) :
    e.breadcrumb? = some p.breadcrumb ∨
      ∃ schema' p' shape', BelowAt p t kind schema' p' shape' ∧
        descend c schema' p' shape' = .error e := by
  cases kind with
  | record fields =>
    rw [descendKind] at h
    split at h
    · rcases bind_error_iff.mp h with hfields | ⟨⟨⟩, _, h⟩
      · rcases descendFields_error hfields with hposition | ⟨f, hf, property, hproperty, herror⟩
        · exact Or.inl hposition
        · exact Or.inr ⟨_, _, _, .field hf hproperty, herror⟩
      · exact Or.inl (checkProperties_error h)
    · exact Or.inl (checkFlat_error h)
  | map value =>
    rw [descendKind] at h
    split at h
    · split at h
      · cases h
        exact Or.inl rfl
      · obtain ⟨place, hplace, herror⟩ := checkPlaces_error h
        exact Or.inr ⟨_, _, _, .map hplace, herror⟩
    · exact Or.inl (checkFlat_error h)
  | array element =>
    rw [descendKind] at h
    split at h
    · obtain ⟨place, hplace, herror⟩ := checkPlaces_error h
      exact Or.inr ⟨_, _, _, .array hplace, herror⟩
    · exact Or.inl (checkFlat_error h)
  | dynamic => cases h
  | boolean | integer | number | string | bytes | timestamp =>
    rw [descendKind] at h
    exact Or.inl (checkFlat_error h)

/-- **One step of a descent that fails.**  The error is met at the pair itself, or at one of the
    pairs below. -/
theorem descend_error_cases {schema : Option Schema} {shape : Shape}
    (h : descend c schema p shape = .error e) :
    RaisedAt c p schema e ∨ ∃ s t nullable, schema = some s ∧ StandsFor c s t nullable ∧
      ∃ schema' p' shape', BelowAt p t shape.kind schema' p' shape' ∧
        descend c schema' p' shape' = .error e := by
  obtain ⟨kind, optional, entity, exempt⟩ := shape
  rw [descend] at h
  split at h
  · cases h
  · split at h
    · next hhead =>
      cases h
      exact Or.inl (compareHead_error hhead)
    · cases h
    · next t typeName hhead =>
      obtain ⟨_, _, s, nullable, _, hs, htarget, _, _⟩ := compareHead_some_iff.mp hhead
      rcases descendKind_error h with hposition | hbelow
      · exact Or.inl (.positional hposition)
      · exact Or.inr ⟨s, t, nullable, hs, htarget, hbelow⟩

/-! ## 3. The descent stays within what a walk visits -/

theorem mem_children_of_belowAt {t s : Schema} {kind : Kind Shape} {p' : Position} {shape : Shape}
    (h : BelowAt p t kind (some s) p' shape) : ∃ segment, (segment, s) ∈ t.children := by
  have hproperty {name : String} (h : (name, .schema s) ∈ t.properties.entries) :
      ∃ segment, (segment, s) ∈ t.children := by
    obtain ⟨segment, hsegment⟩ : ∃ segment,
        (segment, s) ∈ Schema.childrenOfTable "properties" t.properties :=
      mem_childrenOfTable_iff.mpr ⟨name, h⟩
    exact ⟨segment, by simp [Schema.children, hsegment]⟩
  have hlist (keyword : String) {l : List (Subschema Schema)} (h : .schema s ∈ l)
      (hsub : Schema.childrenOfList keyword l ⊆ t.children) :
      ∃ segment, (segment, s) ∈ t.children := by
    obtain ⟨segment, hsegment⟩ : ∃ segment, (segment, s) ∈ Schema.childrenOfList keyword l :=
      mem_childrenOfList_iff.mpr h
    exact ⟨segment, hsub hsegment⟩
  have hplace {place : Subschema Schema} (h : some s = place.schema?) : place = .schema s := by
    cases place with
    | flag b => cases h
    | schema s' =>
      cases h
      rfl
  generalize hschema : some s = schema at h
  cases h with
  | field _ hget =>
    cases hschema
    exact hproperty (Table.mem_of_get? hget)
  | @map _ place hmem =>
    rcases mem_mapPlaces_iff.mp hmem with ⟨s', hadditional, rfl⟩ | ⟨name, sub, hentry, rfl⟩
    · cases hschema
      exact ⟨"additionalProperties", by simp [Schema.children, Schema.childOf, hadditional]⟩
    · rw [hplace hschema] at hentry
      exact hproperty hentry
  | @array _ place hmem =>
    rcases mem_arrayPlaces_iff.mp hmem with ⟨alternatives, hlists, hmem⟩ | ⟨sub, hitems, rfl⟩
    · obtain ⟨i, sub, hget, rfl⟩ := mem_alternativePlaces_iff.mp hmem
      have hsub : .schema s ∈ alternatives := by
        rw [← hplace hschema]
        exact List.mem_of_getElem? hget
      simp only [List.mem_cons, List.not_mem_nil, or_false] at hlists
      rcases hlists with rfl | rfl | rfl
      · exact hlist "allOf" hsub fun _ hx => by simp [Schema.children, hx]
      · exact hlist "oneOf" hsub fun _ hx => by simp [Schema.children, hx]
      · exact hlist "anyOf" hsub fun _ hx => by simp [Schema.children, hx]
    · rw [hplace hschema] at hitems
      rcases hitems with hitems | ⟨rest, hitems⟩
      · exact ⟨"items", by
          simp [Schema.children, Schema.childrenOfItems, Schema.childOf, hitems]⟩
      · refine hlist "items" (l := .schema s :: rest) List.mem_cons_self fun _ hx => ?_
        simp [Schema.children, Schema.childrenOfItems, hitems, hx]

/-- A place stands for a schema of the document. -/
theorem occurs_of_standsFor {s t : Schema} {nullable : Bool} (hs : c.root.Occurs s)
    (h : StandsFor c s t nullable) : c.root.Occurs t := by
  have hnames {token : String} (h : Names c token t) : c.root.Occurs t := by
    obtain ⟨name, _, hget⟩ := h
    exact Or.inr ⟨name, t, Table.mem_of_get? hget, .self t⟩
  cases h with
  | reference _ h => exact hnames h
  | itself => exact hs
  | alternative _ _ _ h => exact hnames h

/-- **An error of the descent is raised at a place of the document.** -/
theorem descend_error_raised {schema : Option Schema} {shape : Shape}
    (hplace : ∀ s, schema = some s → c.root.Occurs s) (h : descend c schema p shape = .error e) :
    ∃ schema' p', (∀ s, schema' = some s → c.root.Occurs s) ∧ RaisedAt c p' schema' e := by
  induction hn : sizeOf shape using Nat.strongRecOn generalizing schema p shape with
  | _ n ih =>
    rcases descend_error_cases h with hraised | ⟨s, t, nullable, hs, htarget, hbelow⟩
    · exact ⟨schema, p, hplace, hraised⟩
    · obtain ⟨schema', p', shape', hat, herror⟩ := hbelow
      have ht : c.root.Occurs t := occurs_of_standsFor (hplace s hs) htarget
      have hplace' : ∀ s', schema' = some s' → c.root.Occurs s' := by
        rintro s' rfl
        obtain ⟨segment, hchild⟩ := mem_children_of_belowAt hat
        exact ht.within (.deeper hchild (.self s'))
      have hlt : sizeOf shape' < n := by
        have hkind := sizeOf_lt_of_belowAt hat
        obtain ⟨kind, optional, entity, exempt⟩ := shape
        simp only [Shape.mk.sizeOf_spec] at hn hkind
        omega
      exact ih (sizeOf shape') hlt hplace' herror rfl

end Consistency

/-! ## 4. Resolution and the check agree -/

namespace Schema

open Consistency

/-- A check that leaves a reference unresolved names a reference of the document that no schema
    answers. -/
theorem unanswered_of_checkShape {o : ConsistencyOptions} {s : Schema} {shape : Shape}
    {rootName id : String} (h : s.checkShape o shape rootName = .error (.unresolvedReference id)) :
    ∃ token, s.RefersTo token ∧ Unanswered ⟨s, o⟩ token id := by
  have hroot : ∀ t, some s = some t → s.Occurs t := by
    rintro t ⟨⟩
    exact Or.inl (.self s)
  obtain ⟨schema', p', hplace, hraised⟩ := descend_error_raised (c := ⟨s, o⟩) hroot h
  cases hraised with
  | positional hposition => cases hposition
  | @unresolved s' t token _ hs ht href hunanswered =>
    exact ⟨token, ⟨t, (hplace s' hs).within ht, href⟩, hunanswered⟩

/-- **The check of a resolved document leaves nothing unresolved but flags.**  Whatever the
    document, the registry and the options: if the check of the resolved document fails with an
    unresolved reference, whatever the shape and the name, then the document does refer to
    that name and its definitions have a flag under it. -/
theorem checkShape_unresolved_flag (o : ConsistencyOptions) (entities : Registry) (s out : Schema)
    (shape : Shape) (rootName id : String)
    (hresolved : s.dereferenceTransitive entities ⟨o.definitionsPrefix, o.maxDepth⟩ = .ok out)
    (hcheck : out.checkShape o shape rootName = .error (.unresolvedReference id)) :
    out.RefersTo (o.definitionsPrefix ++ id) ∧ ∃ b, out.definitions.get? id = some (.flag b) := by
  obtain ⟨token, hrefers, rfl, hnone⟩ := unanswered_of_checkShape hcheck
  refine ⟨hrefers, ?_⟩
  obtain ⟨tokens, hrefs, hanswered⟩ :=
    dereference_eq_self_iff.mp (dereferenceTransitive_fixpoint hresolved)
  have hcontains := hanswered _ ((mem_refs_iff hrefs).mpr hrefers)
  -- the token carries the prefix, so both readings of it give the same name
  rw [entityIdentifier, stripPrefix?_eq_some_iff.mpr rfl, Option.getD_some] at hcontains
  obtain ⟨d, hd⟩ := Table.contains_iff.mp hcontains
  cases d with
  | flag b => exact ⟨b, hd⟩
  | schema e => exact absurd hd (hnone e)

/-- A document that refers to an entity and to a flag inside it. -/
def switchDocument : Schema where
  type := some (.single "object")
  properties := ⟨[("outer", .schema (.reference "#/definitions/Outer")),
    ("switch", .schema (.reference "#/definitions/Own"))]⟩

/-- A record with the fields of that document. -/
def switchShape : Shape :=
  .record [.ofName "switch" .boolean, .ofName "outer" .dynamic]

def resolvedSwitchDocument : Schema :=
  { switchDocument with definitions := cyclicDocument.definitions }

/-- The flag under which the check finds no schema. -/
theorem switchDocument_unresolved_flag :
    switchDocument.dereferenceTransitive cyclicRegistry {} = .ok resolvedSwitchDocument ∧
    resolvedSwitchDocument.checkShape {} switchShape "Switch" =
      .error (.unresolvedReference "Own") ∧
    resolvedSwitchDocument.RefersTo "#/definitions/Own" ∧
    ∃ b, resolvedSwitchDocument.definitions.get? "Own" = some (.flag b) := by
  have hresolved : switchDocument.dereferenceTransitive cyclicRegistry {} =
      .ok resolvedSwitchDocument := by decide +kernel
  have hcheck : resolvedSwitchDocument.checkShape {} switchShape "Switch" =
      .error (.unresolvedReference "Own") := by decide +kernel
  exact ⟨hresolved, hcheck, checkShape_unresolved_flag {} cyclicRegistry _ _ _ _ _ hresolved hcheck⟩

end Schema

end SchemaCatalog
