/-
  Sensitivity to a single change
  ==============================
  **A plain shape and its twin agree, and no longer agree after one change on
  either side.**

  `ShapeChange` and `SchemaChange` are the changes: a field or a property gets a new
  name, a shape becomes optional or ceases to be, `null` is added to a type or taken
  away, a shape gets another kind, a schema another type name.  Each is made at one place, at
  any depth; nullability is not looked at in the root, so there it is not changed.

  Two changes go unnoticed and are left out: an integer in the place of a number,
  on the side of the shape, and the type name `number` in the place of `integer` on that of
  the schema, because integers are numbers.
-/
import SchemaCatalog.Proofs.Consistency.Twin

namespace SchemaCatalog

/-! ## 1. Changes -/

/-- One change in a shape, in the root or below it. -/
inductive ShapeChange : Bool → Shape → Shape → Prop where
  /-- A field gets a wire name that no field of its record has. -/
  | rename {root optional exempt : Bool} {entity : Option String}
      {before after : List (Field Shape)} {f : Field Shape} {name : String} :
      name ∉ (before ++ f :: after).map Field.wireName →
      ShapeChange root ⟨.record (before ++ f :: after), optional, entity, exempt⟩
        ⟨.record (before ++ { f with wireName := name } :: after), optional, entity, exempt⟩
  /-- Below the root, a shape other than a map becomes optional or ceases to be. -/
  | optional {t : Shape} : t.kind.isMap = false →
      ShapeChange false t { t with optional := !t.optional }
  /-- A shape gets a kind with another type name; an integer is no change of a number. -/
  | kind {root : Bool} {t : Shape} {kind : Kind Shape} : kind ≠ .dynamic →
      kind.typeName ≠ t.kind.typeName → ¬ (t.kind = .number ∧ kind = .integer) →
      ShapeChange root t { t with kind := kind }
  | field {root optional exempt : Bool} {entity : Option String}
      {before after : List (Field Shape)} {f : Field Shape} {type : Shape} :
      ShapeChange false f.type type →
      ShapeChange root ⟨.record (before ++ f :: after), optional, entity, exempt⟩
        ⟨.record (before ++ { f with type := type } :: after), optional, entity, exempt⟩
  | value {root optional exempt : Bool} {entity : Option String} {value value' : Shape} :
      ShapeChange false value value' →
      ShapeChange root ⟨.map value, optional, entity, exempt⟩
        ⟨.map value', optional, entity, exempt⟩
  | element {root optional exempt : Bool} {entity : Option String} {element element' : Shape} :
      ShapeChange false element element' →
      ShapeChange root ⟨.array element, optional, entity, exempt⟩
        ⟨.array element', optional, entity, exempt⟩

/-- The names in a type other than `null`. -/
def TypeNames.concrete (type : TypeNames) : List String := type.toList.filter (· ≠ "null")

/-- One change in a schema, in the root or below it. -/
inductive SchemaChange : Bool → Schema → Schema → Prop where
  /-- A property gets a name that no property of its schema has. -/
  | rename {root : Bool} {s : Schema} {name name' : String} {place : Subschema Schema} :
      s.properties.get? name = some place → name' ∉ s.properties.keys →
      SchemaChange root s { s with properties := (s.properties.erase name).insert name' place }
  /-- Below the root, `null` is added to a type or taken away. -/
  | null {s : Schema} {type type' : TypeNames} : s.type = some type →
      type'.concrete = type.concrete → ("null" ∈ type'.toList ↔ "null" ∉ type.toList) →
      SchemaChange false s { s with type := some type' }
  /-- A type gets another name; `number` is no change of `integer`. -/
  | typeName {root : Bool} {s : Schema} {type type' : TypeNames} {name name' : String} :
      s.type = some type → type.concrete = [name] → type'.concrete = [name'] → name' ≠ name →
      ¬ (name = "integer" ∧ name' = "number") →
      SchemaChange root s { s with type := some type' }
  | property {root : Bool} {s p p' : Schema} {name : String} :
      s.properties.get? name = some (.schema p) → SchemaChange false p p' →
      SchemaChange root s { s with properties := s.properties.insert name (.schema p') }
  | value {root : Bool} {s p p' : Schema} : s.additionalProperties = some (.schema p) →
      SchemaChange false p p' →
      SchemaChange root s { s with additionalProperties := some (.schema p') }
  | element {root : Bool} {s p p' : Schema} : s.items = some (.each (.schema p)) →
      SchemaChange false p p' → SchemaChange root s { s with items := some (.each (.schema p')) }

namespace Consistency

variable {c : Context} {p : Position}

/-! ## 2. Type names -/

theorem mem_typeNames_iff {kind : Kind Shape} {name : String} :
    name ∈ typeNames kind ↔ kind.typeName = some name ∨ (kind = .integer ∧ name = "number") := by
  cases kind <;> simp [typeNames, Kind.typeName, eq_comm]

theorem eq_number_of_typeName {kind : Kind Shape} (h : kind.typeName = some "number") :
    kind = .number := by
  cases kind <;> simp [Kind.typeName] at h ⊢

/-! ## 3. Changes in the shape -/

theorem not_mem_of_nodup {before after : List (Field Shape)} {f : Field Shape}
    (h : ((before ++ f :: after).map Field.wireName).Nodup) :
    f.wireName ∉ (before ++ after).map Field.wireName := by
  rw [List.map_append, List.map_cons] at h
  rw [List.map_append]
  exact (List.nodup_cons.mp (List.nodup_middle.mp h)).1

/-- No change makes a shape exempt or dynamic. -/
theorem agrees_of_changedShape_ok (root : Bool) {t t' : Shape} (h : ShapeChange root t t')
    (ht : t.Plain) (hok : descend c (some t.twin) p t' = .ok ()) :
    AgreesAsIs c t.twin p t' := by
  have hchecked : t'.exempt = t.exempt ∧ t'.kind ≠ .dynamic := by
    cases h with
    | rename | field | value | element => exact ⟨rfl, nofun⟩
    | optional => exact ⟨rfl, ht.kind_ne_dynamic⟩
    | kind hdynamic => exact ⟨rfl, hdynamic⟩
  have hexempt : t'.exempt = false := hchecked.1.trans ht.exempt_eq_false
  exact ((descend_ok_iff_of_direct (Shape.twin_ref t) (Shape.twin_oneOf t) hexempt
    hchecked.2).mp hok).2

/-- **A changed shape is refused against the twin of the shape.** -/
theorem descend_shapeChange {root : Bool} {t t' : Shape} (h : ShapeChange root t t')
    (hstrict : c.options.allowNullableRequired = false) :
    t.Plain → ∀ p : Position, (p.isRoot = true → root = true) → p.skipWhenEmpty = false →
      descend c (some t.twin) p t' ≠ .ok () := by
  induction h with
  | @rename root optional exempt entity before after f name hname =>
    intro ht p _ _ hok
    obtain ⟨_, ⟨_, hnames⟩, _⟩ :=
      agrees_of_changedShape_ok root (.rename hname) ht hok
    obtain ⟨_, hnodup, _⟩ := ht.of_record rfl
    have hf : f ∈ before ++ f :: after := by simp
    -- the old name is still a property, but no field has it any more
    obtain ⟨g, hg, hgname⟩ := hnames f.wireName (Table.mem_keys_iff.mpr
      (Table.contains_of_get? (Shape.twin_properties_get? rfl hnodup hf)))
    have hother := not_mem_of_nodup hnodup
    rcases List.mem_append.mp hg with hg | hg
    · exact hother (List.mem_map.mpr ⟨g, List.mem_append_left _ hg, hgname⟩)
    · rcases List.mem_cons.mp hg with rfl | hg
      · exact hname (List.mem_map.mpr ⟨f, hf, hgname.symm⟩)
      · exact hother (List.mem_map.mpr ⟨g, List.mem_append_right _ hg, hgname⟩)
  | @optional t hmap =>
    intro ht p hroot hskip hok
    have hplain : Shape.Plain { t with optional := !t.optional } := ht.setOptional _
    obtain ⟨⟨name, nullable, htype, hnullable, _⟩, _⟩ :=
      agrees_of_changedShape_ok false (.optional hmap) ht hok
    obtain ⟨own, hown⟩ := ht.exists_typeName
    obtain ⟨_, rfl⟩ := htype.unique (twin_hasType hown)
    rcases (nullabilityAgrees_iff hplain hskip hstrict).mp hnullable with hatRoot | hsame
    · cases hroot hatRoot
    · simp [mayBeAbsent, hmap] at hsame
  | @kind root t kind hdynamic hne hnumber =>
    intro ht p _ _ hok
    obtain ⟨⟨name, nullable, htype, _, hname⟩, _⟩ :=
      agrees_of_changedShape_ok root (.kind hdynamic hne hnumber) ht hok
    obtain ⟨own, hown⟩ := ht.exists_typeName
    obtain ⟨rfl, _⟩ := htype.unique (twin_hasType hown)
    rcases mem_typeNames_iff.mp hname with hsame | ⟨hinteger, rfl⟩
    · exact hne (hsame.trans hown.symm)
    · exact hnumber ⟨eq_number_of_typeName hown, hinteger⟩
  | @field root optional exempt entity before after f type hchange ih =>
    intro ht p _ _ hok
    obtain ⟨_, _, hbelow⟩ := agrees_of_changedShape_ok root (.field hchange) ht hok
    obtain ⟨hfields, hnodup, hplain⟩ := ht.of_record rfl
    have hf : f ∈ before ++ f :: after := by simp
    have hchanged : { f with type := type } ∈ before ++ { f with type := type } :: after := by simp
    exact ih (hplain f hf) _ id (hfields f hf).2
      (hbelow _ _ _ (.field hchanged (Shape.twin_properties_get? rfl hnodup hf)))
  | @value root optional exempt entity value value' hchange ih =>
    intro ht p _ _ hok
    obtain ⟨_, _, hbelow⟩ := agrees_of_changedShape_ok root (.value hchange) ht hok
    exact ih (ht.of_map rfl) _ id rfl
      (hbelow _ _ _ (.map (mem_mapPlaces_iff.mpr (Or.inl ⟨_, rfl, rfl⟩))))
  | @element root optional exempt entity element element' hchange ih =>
    intro ht p _ _ hok
    obtain ⟨_, _, hbelow⟩ := agrees_of_changedShape_ok root (.element hchange) ht hok
    exact ih (ht.of_array rfl) _ id rfl
      (hbelow _ _ _ (.array (mem_arrayPlaces_iff.mpr (Or.inr ⟨.schema _, Or.inl rfl, rfl⟩))))

/-! ## 4. Changes in the schema -/

/-- The type of a twin names what its shape is, beside `null` if the value may be missing. -/
theorem concrete_of_twin_type {t : Shape} {type : TypeNames} {name : String}
    (hname : t.kind.typeName = some name) (htype : t.twin.type = some type) :
    type.concrete = [name] ∧ ("null" ∈ type.toList ↔ mayBeAbsent t = true) := by
  have hnull := typeName_ne_null hname
  rw [Shape.twin_type hname] at htype
  obtain rfl := Option.some.inj htype
  cases mayBeAbsent t <;> simp [TypeNames.concrete, TypeNames.toList, hnull, hnull.symm]

/-- No change brings in a reference or alternatives. -/
theorem agrees_of_changed_ok (root : Bool) {t : Shape} {s' : Schema}
    (h : SchemaChange root t.twin s') (ht : t.Plain) (hok : descend c (some s') p t = .ok ()) :
    AgreesAsIs c s' p t := by
  have hdirect : s'.ref = t.twin.ref ∧ s'.oneOf = t.twin.oneOf := by
    cases h <;> exact ⟨rfl, rfl⟩
  have href : s'.ref = none := hdirect.1.trans (Shape.twin_ref t)
  have hone : s'.oneOf = [] := hdirect.2.trans (Shape.twin_oneOf t)
  exact ((descend_ok_iff_of_direct href hone ht.exempt_eq_false ht.kind_ne_dynamic).mp hok).2

/-- **A changed twin is refused.** -/
theorem descend_schemaChange {root : Bool} {s s' : Schema} (h : SchemaChange root s s')
    (hstrict : c.options.allowNullableRequired = false) :
    ∀ t : Shape, t.Plain → s = t.twin → ∀ p : Position, (p.isRoot = true → root = true) →
      p.skipWhenEmpty = false → descend c (some s') p t ≠ .ok () := by
  induction h with
  | @rename root s name name' place hget hfresh =>
    rintro t ht rfl p _ _ hok
    obtain ⟨_, hcontent, _⟩ := agrees_of_changed_ok root (.rename hget hfresh) ht hok
    obtain ⟨fields, _, hkind, _⟩ := Shape.of_twin_properties (Table.mem_of_get? hget)
    obtain ⟨_, hnodup, _⟩ := ht.of_record hkind
    rw [hkind] at hcontent
    -- the new name is a property, so a field has it and the twin had it before
    have hnew : name' ∈ ((t.twin.properties.erase name).insert name' place).keys :=
      Table.mem_keys_iff.mpr (Table.contains_of_get? (v := place) (by simp))
    obtain ⟨f, hf, rfl⟩ := hcontent.2 name' hnew
    exact hfresh (Table.mem_keys_iff.mpr
      (Table.contains_of_get? (Shape.twin_properties_get? hkind hnodup hf)))
  | @null s type type' htype hsame hnull =>
    rintro t ht rfl p hroot hskip hok
    obtain ⟨⟨name, nullable, hhas, hnullable, _⟩, _⟩ :=
      agrees_of_changed_ok false (.null htype hsame hnull) ht hok
    obtain ⟨own, hown⟩ := ht.exists_typeName
    obtain ⟨hconcrete, habsent⟩ := concrete_of_twin_type hown htype
    obtain ⟨_, rfl⟩ := hhas.unique (.named rfl (hsame.trans hconcrete))
    rcases (nullabilityAgrees_iff ht hskip hstrict).mp hnullable with hatRoot | hnullable
    · cases hroot hatRoot
    · have hiff : "null" ∈ type'.toList ↔ "null" ∈ type.toList := by
        rw [habsent, ← hnullable, List.contains_iff_mem]
      tauto
  | @typeName root s type type' name name' htype hconcrete hconcrete' hne hinteger =>
    rintro t ht rfl p _ _ hok
    obtain ⟨⟨_, _, hhas, _, hmem⟩, _⟩ := agrees_of_changed_ok root
      (.typeName htype hconcrete hconcrete' hne hinteger) ht hok
    obtain ⟨own, hown⟩ := ht.exists_typeName
    obtain rfl : own = name :=
      List.head_eq_of_cons_eq ((concrete_of_twin_type hown htype).1.symm.trans hconcrete)
    obtain ⟨rfl, _⟩ := hhas.unique (.named rfl hconcrete')
    rcases mem_typeNames_iff.mp hmem with hsame | ⟨hkind, rfl⟩
    · exact hne (Option.some.inj (hsame.symm.trans hown))
    · rw [hkind] at hown
      exact hinteger ⟨(Option.some.inj hown).symm, rfl⟩
  | @property root s q q' name hget hchange ih =>
    rintro t ht rfl p _ _ hok
    obtain ⟨_, _, hbelow⟩ := agrees_of_changed_ok root (.property hget hchange) ht hok
    obtain ⟨fields, f, hkind, hf, rfl, hplace⟩ := Shape.of_twin_properties (Table.mem_of_get? hget)
    obtain ⟨hfields, _, hplain⟩ := ht.of_record hkind
    rw [hkind] at hbelow
    exact ih f.type (hplain f hf) (Subschema.schema.inj hplace) _ id (hfields f hf).2
      (hbelow _ _ _ (.field hf (by simp)))
  | @value root s q q' hget hchange ih =>
    rintro t ht rfl p _ _ hok
    obtain ⟨_, _, hbelow⟩ := agrees_of_changed_ok root (.value hget hchange) ht hok
    obtain ⟨value, hkind, hplace⟩ := Shape.of_twin_additionalProperties hget
    rw [hkind] at hbelow
    exact ih value (ht.of_map hkind) (Subschema.schema.inj hplace) _ id rfl
      (hbelow _ _ _ (.map (mem_mapPlaces_iff.mpr (Or.inl ⟨q', rfl, rfl⟩))))
  | @element root s q q' hget hchange ih =>
    rintro t ht rfl p _ _ hok
    obtain ⟨_, _, hbelow⟩ := agrees_of_changed_ok root (.element hget hchange) ht hok
    obtain ⟨element, hkind, hplace⟩ := Shape.of_twin_items hget
    rw [hkind] at hbelow
    exact ih element (ht.of_array hkind) (Subschema.schema.inj (Items.each.inj hplace)) _ id rfl
      (hbelow _ _ _ (.array (mem_arrayPlaces_iff.mpr (Or.inr ⟨.schema _, Or.inl rfl, rfl⟩))))

end Consistency

/-! ## 5. The check -/

/-- **A plain shape is consistent with its twin, and after one change on either side no longer
    is.** -/
theorem Shape.twin_sensitive (o : ConsistencyOptions) (t : Shape) (rootName : String)
    (ht : t.Plain) (hdepth : t.depth ≤ o.maxDepth) (hstrict : o.allowNullableRequired = false) :
    t.twin.checkShape o t rootName = .ok () ∧
      (∀ t', ShapeChange true t t' → t.twin.checkShape o t' rootName ≠ .ok ()) ∧
      ∀ s', SchemaChange true t.twin s' → s'.checkShape o t rootName ≠ .ok () := by
  refine ⟨?_, ?_, ?_⟩
  · apply Consistency.descend_twin ht hstrict (.root rootName) rfl
    simpa [Consistency.Position.root] using hdepth
  · intro t' hchange
    exact Consistency.descend_shapeChange hchange hstrict ht (.root rootName) (fun _ => rfl) rfl
  · intro s' hchange
    exact Consistency.descend_schemaChange hchange hstrict t ht rfl (.root rootName)
      (fun _ => rfl) rfl

namespace Shape

/-- Series of readings by sensor, which are missing for some sensors if `missing` holds; the
    moment of a reading has the wire name `moment`. -/
def readings (moment : String) (missing : Bool) : Shape :=
  map { array (record [⟨"moment", moment, timestamp, false⟩, .ofName "value" number]) with
    optional := missing }

theorem plain_readings : (readings "time" false).Plain := by
  refine .map (.array (.record ?_ (by decide) ?_))
  · simp [Field.ofName]
  · simp only [List.forall_mem_cons]
    exact ⟨.flat (by simp), .flat (by simp), nofun⟩

/-- A name changed at the bottom of the shape, and `null` added to the type of a series. -/
theorem readings_sensitive :
    (readings "time" false).Plain ∧ (readings "time" false).depth ≤ defaultMaxDepth ∧
    (readings "time" false).twin.checkShape {} (readings "time" false) "Log" = .ok () ∧
    (readings "time" false).twin.checkShape {} (readings "date" false) "Log" ≠ .ok () ∧
    (readings "time" true).twin.checkShape {} (readings "time" false) "Log" ≠ .ok () := by
  have hdepth : (readings "time" false).depth ≤ defaultMaxDepth := by decide
  obtain ⟨hok, hshape, hschema⟩ := twin_sensitive {} (readings "time" false) "Log"
    plain_readings hdepth rfl
  have hfresh : "date" ∉ (([] ++
      ⟨"moment", "time", timestamp, false⟩ :: [.ofName "value" number] :
        List (Field Shape)).map Field.wireName) := by decide
  refine ⟨plain_readings, hdepth, hok, ?_, ?_⟩
  · exact hshape _ (.value (.element (.rename hfresh)))
  · have hnull : ("null" ∈ (TypeNames.union ["array", "null"]).toList ↔
        "null" ∉ (TypeNames.single "array").toList) := by decide
    exact hschema _ (.value rfl (.null rfl rfl hnull))

/-- Integers are numbers, but numbers are not integers. -/
example : number.twin.checkShape {} integer "Size" = .ok () ∧
    integer.twin.checkShape {} number "Size" ≠ .ok () := by decide

end Shape

end SchemaCatalog
