/-
  The twin of a shape
  ===================
  **Every plain shape is consistent with the schema that is made after it.**

  The twin of a shape has the type name that belongs to the kind of the shape,
  beside `null` exactly if the shape is optional or a map; its properties are
  the wire names of the fields, its `additionalProperties` the twin of the value of a map,
  its items the twin of the element of an array.  A shape is plain if nothing
  in it is dynamic or marked and the fields of each record can be told apart by
  their wire names.

  A twin holds no references and no alternatives, so the descent compares it as
  it stands (`descend_ok_iff_of_direct`).  With that the acceptance of a twin is
  an induction on the shape (`descend_twin`).
-/
import Mathlib.Data.List.Nodup
import SchemaCatalog.Proofs.Consistency.Acceptance

namespace SchemaCatalog

/-! ## 1. Twins and plain shapes -/

/-- The type name that belongs to a kind; there is none for `dynamic`. -/
def Kind.typeName {σ : Type} : Kind σ → Option String
  | boolean => some "boolean"
  | integer => some "integer"
  | number => some "number"
  | string | bytes | timestamp => some "string"
  | record _ | map _ => some "object"
  | array _ => some "array"
  | dynamic => none

namespace Shape

mutual

/-- The schema made after a shape. -/
def twin : Shape → Schema
  | ⟨kind, optional, _, _⟩ =>
    { twinContent kind with
      type := kind.typeName.map fun name =>
        if optional || kind.isMap then .union [name, "null"] else .single name }

def twinContent : Kind Shape → Schema
  | .record fields => { properties := .ofList (twinFields fields) }
  | .map value => { additionalProperties := some (.schema (twin value)) }
  | .array element => { items := some (.each (.schema (twin element))) }
  | .boolean | .integer | .number | .string | .bytes | .timestamp | .dynamic => {}

def twinFields : List (Field Shape) → List (String × Subschema Schema)
  | [] => []
  | ⟨_, wireName, type, _⟩ :: rest => (wireName, .schema (twin type)) :: twinFields rest

end

mutual

/-- How deep the shapes in a shape are nested. -/
def depth : Shape → Nat
  | ⟨kind, _, _, _⟩ => kindDepth kind

def kindDepth : Kind Shape → Nat
  | .record fields => fieldsDepth fields
  | .map value => depth value + 1
  | .array element => depth element + 1
  | .boolean | .integer | .number | .string | .bytes | .timestamp | .dynamic => 0

def fieldsDepth : List (Field Shape) → Nat
  | [] => 0
  | ⟨_, _, type, _⟩ :: rest => max (depth type + 1) (fieldsDepth rest)

end

/-- Nothing in the shape is dynamic, an entity, exempt or left out when empty, and in each record
    the wire names are different and not empty. -/
inductive Plain : Shape → Prop where
  | flat {kind : Kind Shape} {optional : Bool} :
      kind ∈ [.boolean, .integer, .number, .string, .bytes, .timestamp] →
      Plain ⟨kind, optional, none, false⟩
  | record {fields : List (Field Shape)} {optional : Bool} :
      (∀ f ∈ fields, f.wireName ≠ "" ∧ f.skipWhenEmpty = false) →
      (fields.map Field.wireName).Nodup → (∀ f ∈ fields, Plain f.type) →
      Plain ⟨.record fields, optional, none, false⟩
  | map {value : Shape} {optional : Bool} : Plain value → Plain ⟨.map value, optional, none, false⟩
  | array {element : Shape} {optional : Bool} : Plain element →
      Plain ⟨.array element, optional, none, false⟩

namespace Plain

variable {t : Shape}

theorem entity_eq_none (h : t.Plain) : t.entity = none := by cases h <;> rfl

theorem exempt_eq_false (h : t.Plain) : t.exempt = false := by cases h <;> rfl

theorem exists_typeName (h : t.Plain) : ∃ name, t.kind.typeName = some name := by
  cases h with
  | @flat kind optional hkind => cases kind <;> simp [Kind.typeName] at hkind ⊢
  | record | map | array => exact ⟨_, rfl⟩

theorem kind_ne_dynamic (h : t.Plain) : t.kind ≠ .dynamic := by
  obtain ⟨name, hname⟩ := h.exists_typeName
  intro hdynamic
  rw [hdynamic] at hname
  cases hname

theorem setOptional (h : t.Plain) (optional : Bool) : Plain { t with optional := optional } := by
  cases h with
  | flat hkind => exact .flat hkind
  | record hfields hnodup hplain => exact .record hfields hnodup hplain
  | map hplain => exact .map hplain
  | array hplain => exact .array hplain

theorem of_record {fields : List (Field Shape)} (h : t.Plain) (hkind : t.kind = .record fields) :
    (∀ f ∈ fields, f.wireName ≠ "" ∧ f.skipWhenEmpty = false) ∧
      (fields.map Field.wireName).Nodup ∧ ∀ f ∈ fields, f.type.Plain := by
  cases h with
  | flat hflat =>
    obtain rfl := hkind
    simp at hflat
  | record hfields hnodup hplain =>
    obtain rfl := Kind.record.inj hkind
    exact ⟨hfields, hnodup, hplain⟩
  | map | array => cases hkind

theorem of_map {value : Shape} (h : t.Plain) (hkind : t.kind = .map value) : value.Plain := by
  cases h with
  | flat hflat =>
    obtain rfl := hkind
    simp at hflat
  | map hplain => exact Kind.map.inj hkind ▸ hplain
  | record | array => cases hkind

theorem of_array {element : Shape} (h : t.Plain) (hkind : t.kind = .array element) :
    element.Plain := by
  cases h with
  | flat hflat =>
    obtain rfl := hkind
    simp at hflat
  | array hplain => exact Kind.array.inj hkind ▸ hplain
  | record | map => cases hkind

end Plain

/-! ## 2. What a twin says -/

theorem twinFields_eq_map (fields : List (Field Shape)) :
    twinFields fields = fields.map fun f => (f.wireName, .schema f.type.twin) := by
  induction fields with
  | nil => rfl
  | cons f rest ih => rw [twinFields, ih, List.map_cons]

theorem twin_ref (t : Shape) : t.twin.ref = none := by
  obtain ⟨kind, _, _, _⟩ := t
  cases kind <;> rfl

theorem twin_oneOf (t : Shape) : t.twin.oneOf = [] := by
  obtain ⟨kind, _, _, _⟩ := t
  cases kind <;> rfl

theorem twin_type {t : Shape} {name : String} (h : t.kind.typeName = some name) :
    t.twin.type =
      some (if Consistency.mayBeAbsent t then .union [name, "null"] else .single name) := by
  obtain ⟨kind, optional, _, _⟩ := t
  simp only at h
  rw [twin, h]
  rfl

/-- The properties of a twin belong to the fields of a record. -/
theorem of_twin_properties {t : Shape} {name : String} {place : Subschema Schema}
    (h : (name, place) ∈ t.twin.properties.entries) : ∃ fields f, t.kind = .record fields ∧
      f ∈ fields ∧ f.wireName = name ∧ place = .schema f.type.twin := by
  obtain ⟨kind, _, _, _⟩ := t
  cases kind with
  | record fields =>
    have hmem : (name, place) ∈ twinFields fields := Table.mem_of_mem_ofList h
    rw [twinFields_eq_map, List.mem_map] at hmem
    obtain ⟨f, hf, heq⟩ := hmem
    cases heq
    exact ⟨fields, f, rfl, hf, rfl, rfl⟩
  | boolean | integer | number | string | bytes | timestamp | map | array | dynamic => cases h

/-- A field of a record finds its twin under its wire name. -/
theorem twin_properties_get? {t : Shape} {fields : List (Field Shape)}
    (hkind : t.kind = .record fields) (hnodup : (fields.map Field.wireName).Nodup)
    {f : Field Shape} (hf : f ∈ fields) :
    t.twin.properties.get? f.wireName = some (.schema f.type.twin) := by
  have htable : t.twin.properties = .ofList (twinFields fields) := by
    obtain ⟨_, _, _, _⟩ := t
    obtain rfl := hkind
    rfl
  have hkeys : ((twinFields fields).map (·.1)).Nodup := by
    rw [twinFields_eq_map, List.map_map]
    exact hnodup
  have hsome : (Table.find? f.wireName (twinFields fields)).isSome := by
    rw [Table.find?_isSome_iff, twinFields_eq_map, List.map_map]
    exact List.mem_map.mpr ⟨f, hf, rfl⟩
  obtain ⟨place, hplace⟩ := Option.isSome_iff_exists.mp hsome
  rw [← Table.get?_ofList hkeys, ← htable] at hplace
  obtain ⟨_, f', hkind', hf', hname, rfl⟩ := of_twin_properties (Table.mem_of_get? hplace)
  obtain rfl := Kind.record.inj (hkind'.symm.trans hkind)
  obtain rfl := List.inj_on_of_nodup_map hnodup hf' hf hname
  exact hplace

theorem of_twin_additionalProperties {t : Shape} {place : Subschema Schema}
    (h : t.twin.additionalProperties = some place) :
    ∃ value, t.kind = .map value ∧ place = .schema value.twin := by
  obtain ⟨kind, _, _, _⟩ := t
  cases kind with
  | map value =>
    cases h
    exact ⟨value, rfl, rfl⟩
  | boolean | integer | number | string | bytes | timestamp | record | array | dynamic => cases h

theorem of_twin_items {t : Shape} {items : Items Schema} (h : t.twin.items = some items) :
    ∃ element, t.kind = .array element ∧ items = .each (.schema element.twin) := by
  obtain ⟨kind, _, _, _⟩ := t
  cases kind with
  | array element =>
    cases h
    exact ⟨element, rfl, rfl⟩
  | boolean | integer | number | string | bytes | timestamp | record | map | dynamic => cases h

end Shape

/-! ## 3. The descent through a twin -/

namespace Consistency

variable {c : Context} {p : Position}

/-- Without references and alternatives a schema stands for itself. -/
theorem standsFor_self_iff {s t : Schema} {nullable : Bool} (href : s.ref = none)
    (hone : s.oneOf = []) : StandsFor c s t nullable ↔ t = s ∧ nullable = false := by
  have hself : StandsFor c s s false := by
    have hitself : StandsFor c s s (nullAmong s.oneOf) := .itself href (by rw [hone]; rfl)
    rw [hone] at hitself
    exact hitself
  constructor
  · exact fun h => h.unique hself
  · rintro ⟨rfl, rfl⟩
    exact hself

/-- What a schema and a shape agree on if the schema stands for itself. -/
structure AgreesAsIs (c : Context) (s : Schema) (p : Position) (t : Shape) : Prop where
  type : ∃ name nullable, HasType s name nullable ∧
    NullabilityAgrees c (.at (some s) p t) nullable ∧ name ∈ typeNames t.kind
  content : ContentAgrees c s t.kind
  below : ∀ schema p' shape, BelowAt p s t.kind schema p' shape →
    descend c schema p' shape = .ok ()

/-- **One step of the descent at a schema that stands for itself.** -/
theorem descend_ok_iff_of_direct {s : Schema} {t : Shape} (href : s.ref = none)
    (hone : s.oneOf = []) (hexempt : t.exempt = false) (hkind : t.kind ≠ .dynamic) :
    descend c (some s) p t = .ok () ↔
      p.depth ≤ c.options.maxDepth ∧ AgreesAsIs c s p t := by
  rw [descend_ok_iff, or_iff_right (by rw [hexempt]; exact Bool.false_ne_true)]
  constructor
  · rintro ⟨⟨hdepth, _, hagrees⟩, hbelow⟩
    obtain ⟨t', nullableRef, name, nullable, hstands, htype, hnullable, hcontent⟩ :=
      hagrees s rfl
    have hrest := hbelow s t' nullableRef rfl hstands
    obtain ⟨rfl, rfl⟩ := (standsFor_self_iff href hone).mp hstands
    rw [Bool.false_or] at hnullable
    obtain ⟨hname, hcontent⟩ := hcontent.resolve_left hkind
    exact ⟨hdepth, ⟨name, nullable, htype, hnullable, hname⟩, hcontent, hrest⟩
  · rintro ⟨hdepth, ⟨name, nullable, htype, hnullable, hname⟩, hcontent, hbelow⟩
    have hself : StandsFor c s s false := (standsFor_self_iff href hone).mpr ⟨rfl, rfl⟩
    refine ⟨⟨hdepth, nofun, ?_⟩, ?_⟩
    · rintro _ ⟨⟩
      exact ⟨s, false, name, nullable, hself, htype, hnullable, Or.inr ⟨hname, hcontent⟩⟩
    · rintro _ t' nullable' ⟨⟩ hstands
      obtain ⟨rfl, _⟩ := (standsFor_self_iff href hone).mp hstands
      exact hbelow

/-- Below the root, where nullability is checked in both directions, a plain shape asks for exactly
    its own. -/
theorem nullabilityAgrees_iff {schema : Option Schema} {t : Shape} {nullable : Bool}
    (ht : t.Plain) (hskip : p.skipWhenEmpty = false)
    (hstrict : c.options.allowNullableRequired = false) :
    NullabilityAgrees c (.at schema p t) nullable ↔
      p.isRoot = true ∨ nullable = mayBeAbsent t := by
  have hkind := ht.kind_ne_dynamic
  have hentity := ht.entity_eq_none
  simp only [NullabilityAgrees, Pair.at, hentity, hskip, hstrict, hkind, mayBeAbsent]
  cases nullable <;> cases t.optional <;> cases t.kind.isMap <;> simp

theorem typeName_ne_null {kind : Kind Shape} {name : String}
    (h : kind.typeName = some name) : name ≠ "null" := by
  rintro rfl
  cases kind <;> simp [Kind.typeName] at h

/-- The type name of a kind describes its values. -/
theorem mem_typeNames_of_typeName {kind : Kind Shape} {name : String}
    (h : kind.typeName = some name) : name ∈ typeNames kind := by
  cases kind <;> simp_all [Kind.typeName, typeNames]

theorem twin_hasType {t : Shape} {name : String} (h : t.kind.typeName = some name) :
    HasType t.twin name (mayBeAbsent t) := by
  have hnull := typeName_ne_null h
  have htype := Shape.twin_type h
  cases hnullable : mayBeAbsent t with
  | true =>
    rw [hnullable, if_pos rfl] at htype
    have hnames : (TypeNames.union [name, "null"]).toList.filter (· ≠ "null") = [name] := by
      simp [TypeNames.toList, hnull]
    simpa [TypeNames.toList] using HasType.named htype hnames
  | false =>
    rw [hnullable, if_neg Bool.false_ne_true] at htype
    have hnames : (TypeNames.single name).toList.filter (· ≠ "null") = [name] := by
      simp [TypeNames.toList, hnull]
    simpa [TypeNames.toList, hnull.symm] using HasType.named htype hnames

theorem depth_le_fieldsDepth {fields : List (Field Shape)} {f : Field Shape} (hf : f ∈ fields) :
    f.type.depth + 1 ≤ Shape.fieldsDepth fields := by
  induction fields with
  | nil => cases hf
  | cons g rest ih =>
    rw [Shape.fieldsDepth]
    rcases List.mem_cons.mp hf with rfl | hf
    · exact Nat.le_max_left _ _
    · exact Nat.le_trans (ih hf) (Nat.le_max_right _ _)

/-- What a plain shape and its twin need apart from what lies below. -/
theorem twin_agrees {t : Shape} (ht : t.Plain) (hskip : p.skipWhenEmpty = false)
    (hstrict : c.options.allowNullableRequired = false) :
    ∃ name nullable, HasType t.twin name nullable ∧
      NullabilityAgrees c (.at (some t.twin) p t) nullable ∧ name ∈ typeNames t.kind := by
  obtain ⟨name, hname⟩ := ht.exists_typeName
  exact ⟨name, mayBeAbsent t, twin_hasType hname,
    (nullabilityAgrees_iff ht hskip hstrict).mpr (Or.inr rfl), mem_typeNames_of_typeName hname⟩

/-- **A plain shape is accepted against its twin**, at any position that is not too deep. -/
theorem descend_twin {t : Shape} (ht : t.Plain)
    (hstrict : c.options.allowNullableRequired = false) :
    ∀ p : Position, p.skipWhenEmpty = false → p.depth + t.depth ≤ c.options.maxDepth →
      descend c (some t.twin) p t = .ok () := by
  induction ht with
  | @flat kind optional hkind =>
    intro p hskip hdepth
    have ht : Shape.Plain ⟨kind, optional, none, false⟩ := .flat hkind
    rw [descend_ok_iff_of_direct (Shape.twin_ref _) (Shape.twin_oneOf _) rfl ht.kind_ne_dynamic]
    refine ⟨by omega, twin_agrees ht hskip hstrict, ?_, ?_⟩
    · cases kind <;> simp at hkind <;> trivial
    · intro _ _ _ hbelow
      cases hbelow <;> simp at hkind
  | @record fields optional hfields hnodup hplain ih =>
    intro p hskip hdepth
    have ht : Shape.Plain ⟨.record fields, optional, none, false⟩ := .record hfields hnodup hplain
    have hproperty {f : Field Shape} (hf : f ∈ fields) :=
      Shape.twin_properties_get? (t := ⟨.record fields, optional, none, false⟩) rfl hnodup hf
    rw [descend_ok_iff_of_direct (Shape.twin_ref _) (Shape.twin_oneOf _) rfl ht.kind_ne_dynamic]
    refine ⟨by omega, twin_agrees ht hskip hstrict, ⟨?_, ?_⟩, ?_⟩
    · intro f hf
      refine ⟨(hfields f hf).1, Or.inl (Table.contains_of_get? (hproperty hf)), ?_⟩
      rintro ⟨⟩
    · intro name hname
      obtain ⟨⟨_, place⟩, hmem, rfl⟩ := List.mem_map.mp hname
      obtain ⟨_, f, ⟨⟩, hf, hname, _⟩ := Shape.of_twin_properties hmem
      exact ⟨f, hf, hname⟩
    · rintro _ _ _ (⟨hf, hget⟩ | _ | _)
      rw [hproperty hf] at hget
      cases hget
      have hle := depth_le_fieldsDepth hf
      refine ih _ hf _ (hfields _ hf).2 ?_
      simp only [Shape.depth, Shape.kindDepth] at hdepth
      simp only [Position.child]
      omega
  | @map value optional hplain ih =>
    intro p hskip hdepth
    have ht : Shape.Plain ⟨.map value, optional, none, false⟩ := .map hplain
    rw [descend_ok_iff_of_direct (Shape.twin_ref _) (Shape.twin_oneOf _) rfl ht.kind_ne_dynamic]
    refine ⟨by omega, twin_agrees ht hskip hstrict, ?_, ?_⟩
    · rintro ⟨⟩
    · rintro _ _ _ (_ | hplace | _)
      obtain rfl := List.mem_singleton.mp hplace
      refine ih _ rfl ?_
      simp only [Shape.depth, Shape.kindDepth] at hdepth
      simp only [Position.child]
      omega
  | @array element optional hplain ih =>
    intro p hskip hdepth
    have ht : Shape.Plain ⟨.array element, optional, none, false⟩ := .array hplain
    rw [descend_ok_iff_of_direct (Shape.twin_ref _) (Shape.twin_oneOf _) rfl ht.kind_ne_dynamic]
    refine ⟨by omega, twin_agrees ht hskip hstrict, trivial, ?_⟩
    rintro _ _ _ (_ | _ | hplace)
    obtain rfl := List.mem_singleton.mp hplace
    refine ih _ rfl ?_
    simp only [Shape.depth, Shape.kindDepth] at hdepth
    simp only [Position.child]
    omega

end Consistency

end SchemaCatalog
