/-
  Reordering
  ==========
  **Which lists the check reads without regard to their order.**

  The members of `allOf` and `anyOf`, the names of a type and the fields of a record can be
  put in any order, at any depth.  Among the members of a `oneOf` the order counts in one
  respect: where a schema is read through its alternatives, each reference takes
  the place of the one before, so the schema stands for what the last one names.  The check
  never reads a definition in that way, and never one that has a reference
  of its own; elsewhere the order of a `oneOf` is free as long as the last reference
  remains the last one (`checkShape_rearranged_iff`).

  Each rearrangement can be undone by another one.  So it is enough that the descent through
  one side simulates the descent through the other side, once for schemas and once for
  shapes.
-/
import SchemaCatalog.Proofs.Consistency.Acceptance
import SchemaCatalog.Proofs.Schema.Replacing

namespace SchemaCatalog

/-! ## 1. Rearranged schemas and shapes -/

namespace Schema

/-- The last reference among alternatives; the type `null` is not one of them. -/
def lastReference (alternatives : List (Subschema Schema)) : Option String :=
  (Consistency.referencesAmong alternatives).getLast?

/-- One of the lists of a schema in another order.  Unless the schema is an entry of `definitions`
    or has a reference of its own, the last reference among its alternatives stays the last. -/
inductive Permuted (entry : Bool) (s : Schema) : Schema → Prop where
  | allOf {members : List (Subschema Schema)} : s.allOf.Perm members →
      Permuted entry s { s with allOf := members }
  | anyOf {members : List (Subschema Schema)} : s.anyOf.Perm members →
      Permuted entry s { s with anyOf := members }
  | oneOf {members : List (Subschema Schema)} : s.oneOf.Perm members →
      (entry = false → s.ref = none → lastReference members = lastReference s.oneOf) →
      Permuted entry s { s with oneOf := members }
  | type {names names' : List String} : s.type = some (.union names) → names.Perm names' →
      Permuted entry s { s with type := some (.union names') }
  /-- Lists in keywords that are not fields; the check reads none of these keywords. -/
  | extra {extra : Table Json} : Permuted entry s { s with extra := extra }

/-- One list is in another order, in the schema or below it. -/
inductive Rearranged : Bool → Schema → Schema → Prop where
  | here {entry : Bool} {s s' : Schema} : s.Permuted entry s' → Rearranged entry s s'
  | inside {entry : Bool} {s t t' : Schema} {step : Step} : Rearranged step.isDefinition t t' →
      Rearranged entry (s.setPlace (.schema t) step) (s.setPlace (.schema t') step)

end Schema

/-- The fields of one record are in another order, in the shape or below it. -/
inductive Shape.Rearranged : Shape → Shape → Prop where
  | fields {fields fields' : List (Field Shape)} {optional exempt : Bool}
      {entity : Option String} : fields.Perm fields' →
      Rearranged ⟨.record fields, optional, entity, exempt⟩
        ⟨.record fields', optional, entity, exempt⟩
  | field {before after : List (Field Shape)} {f : Field Shape} {type : Shape}
      {optional exempt : Bool} {entity : Option String} : Rearranged f.type type →
      Rearranged ⟨.record (before ++ f :: after), optional, entity, exempt⟩
        ⟨.record (before ++ { f with type := type } :: after), optional, entity, exempt⟩
  | value {value value' : Shape} {optional exempt : Bool} {entity : Option String} :
      Rearranged value value' →
      Rearranged ⟨.map value, optional, entity, exempt⟩ ⟨.map value', optional, entity, exempt⟩
  | element {element element' : Shape} {optional exempt : Bool} {entity : Option String} :
      Rearranged element element' →
      Rearranged ⟨.array element, optional, entity, exempt⟩
        ⟨.array element', optional, entity, exempt⟩

namespace Schema

variable {entry : Bool} {s s' : Schema}

theorem Permuted.refl (entry : Bool) (s : Schema) : s.Permuted entry s := by
  cases s
  exact .extra

theorem Permuted.symm (h : s.Permuted entry s') : s'.Permuted entry s := by
  cases s
  cases h with
  | allOf h => exact .allOf h.symm
  | anyOf h => exact .anyOf h.symm
  | oneOf h hlast => exact .oneOf h.symm fun hentry href => (hlast hentry href).symm
  | type htype h =>
    obtain rfl := htype
    exact .type rfl h.symm
  | extra => exact .extra

theorem Rearranged.refl (entry : Bool) (s : Schema) : Rearranged entry s s := .here (.refl entry s)

theorem Rearranged.symm (h : Rearranged entry s s') : Rearranged entry s' s := by
  induction h with
  | here h => exact .here h.symm
  | inside _ ih => exact .inside ih

/-- More is allowed in an entry of `definitions` than elsewhere. -/
theorem Permuted.toEntry (h : s.Permuted entry s') : s.Permuted true s' := by
  cases h with
  | allOf h => exact .allOf h
  | anyOf h => exact .anyOf h
  | oneOf h _ => exact .oneOf h nofun
  | type htype h => exact .type htype h
  | extra => exact .extra

theorem Rearranged.toEntry (h : Rearranged entry s s') : Rearranged true s s' := by
  cases h with
  | here h => exact .here h.toEntry
  | inside h => exact .inside h

/-- A rearrangement of what lies in a place of the schema. -/
theorem Rearranged.setPlace {t t' : Schema} (step : Step)
    (hplace : s.place? step = some (.schema t)) (h : Rearranged step.isDefinition t t') :
    Rearranged entry s (s.setPlace (.schema t') step) := by
  have hinside : Rearranged entry (s.setPlace (.schema t) step) (s.setPlace (.schema t') step) :=
    .inside h
  rwa [setPlace_place hplace] at hinside

end Schema

theorem Shape.Rearranged.symm {t t' : Shape} (h : t.Rearranged t') : t'.Rearranged t := by
  induction h with
  | fields h => exact .fields h.symm
  | @field before after f type optional exempt entity _ ih =>
    exact @field before after { f with type := type } f.type optional exempt entity ih
  | value _ ih => exact .value ih
  | element _ ih => exact .element ih

/-! ## 2. What the check reads of a rearranged schema -/

section

variable {s t t' : Schema} {name : String} {nullable : Bool}

namespace Consistency

theorem HasType.congr (htype : t'.type = t.type) (h : HasType t name nullable) :
    HasType t' name nullable := by
  cases h with
  | named hsome honly => exact .named (htype.trans hsome) honly
  | null hsome hempty hnull => exact .null (htype.trans hsome) hempty hnull

/-- The order of the names in a type does not matter. -/
theorem HasType.perm {names names' : List String} (htype : t.type = some (.union names))
    (htype' : t'.type = some (.union names')) (hperm : names.Perm names')
    (h : HasType t name nullable) : HasType t' name nullable := by
  cases h with
  | named hsome honly =>
    obtain rfl := Option.some.inj (htype.symm.trans hsome)
    have honly' : names'.filter (· ≠ "null") = [name] := by
      rw [← List.perm_singleton, ← honly]
      exact (hperm.filter _).symm
    change HasType t' name (names.contains "null")
    rw [hperm.contains_eq]
    exact .named htype' honly'
  | null hsome hempty hnull =>
    obtain rfl := Option.some.inj (htype.symm.trans hsome)
    have hempty' : names'.filter (· ≠ "null") = [] := by
      rw [← List.perm_nil, ← hempty]
      exact (hperm.filter _).symm
    exact .null htype' hempty' (hperm.mem_iff.mp hnull)

end Consistency

end

namespace Schema

open Consistency

variable {entry : Bool} {s s' t t' : Schema}

/-- The same flag, or schemas that are rearrangements of each other. -/
abbrev SamePlace : Subschema Schema → Subschema Schema → Prop := Subschema.Rel (Rearranged false)

theorem SamePlace.refl (place : Subschema Schema) : SamePlace place place :=
  Subschema.Rel.refl (Rearranged.refl false) place

/-- Two schemas are read alike: they stand for what they are in the same way. -/
structure SameReading (s s' : Schema) : Prop where
  ref : s'.ref = s.ref
  null : nullAmong s'.oneOf = nullAmong s.oneOf
  references : (referencesAmong s'.oneOf).Perm (referencesAmong s.oneOf)
  last : s.ref = none → lastReference s'.oneOf = lastReference s.oneOf

/-- What the second schema says to a kind is what the first one says, up to the order of the
    alternatives and to rearrangements further down. -/
structure SameContent (t t' : Schema) : Prop where
  hasType : ∀ {name : String} {nullable : Bool}, HasType t name nullable → HasType t' name nullable
  properties : t.properties.Rel SamePlace t'.properties
  additionalProperties : Option.Rel SamePlace t.additionalProperties t'.additionalProperties
  items : Option.Rel (Items.Rel SamePlace) t.items t'.items
  alternatives : ∀ place ∈ t.allOf ++ t.oneOf ++ t.anyOf,
    ∃ place' ∈ t'.allOf ++ t'.oneOf ++ t'.anyOf, SamePlace place place'

/-! ### A list of the schema itself -/

namespace Permuted

theorem ref (h : s.Permuted entry s') : s'.ref = s.ref := by
  cases h <;> rfl

theorem definitions (h : s.Permuted entry s') : s'.definitions = s.definitions := by
  cases h <;> rfl

theorem oneOf_perm (h : s.Permuted entry s') : s.oneOf.Perm s'.oneOf := by
  cases h with
  | oneOf h _ => exact h
  | allOf | anyOf | type | extra => exact .refl _

theorem alternatives_perm (h : s.Permuted entry s') :
    (s.allOf ++ s.oneOf ++ s.anyOf).Perm (s'.allOf ++ s'.oneOf ++ s'.anyOf) := by
  cases h with
  | allOf h => exact (h.append_right _).append_right _
  | anyOf h => exact h.append_left _
  | oneOf h _ => exact (h.append_left _).append_right _
  | type | extra => exact .refl _

theorem sameReading (h : s.Permuted false s') : SameReading s s' where
  ref := h.ref
  null := h.oneOf_perm.any_eq.symm
  references := h.oneOf_perm.symm.filterMap _
  last := by
    intro href
    cases h with
    | oneOf _ hlast => exact hlast rfl href
    | allOf | anyOf | type | extra => rfl

theorem sameContent (h : t.Permuted entry t') : SameContent t t' where
  hasType := by
    intro name nullable htype
    cases h with
    | type hsome hperm => exact htype.perm hsome rfl hperm
    | allOf | anyOf | oneOf | extra => exact .congr (t := t) rfl htype
  properties := by
    have hsame : t'.properties = t.properties := by cases h <;> rfl
    rw [hsame]
    exact .refl .refl _
  additionalProperties := by
    have hsame : t'.additionalProperties = t.additionalProperties := by cases h <;> rfl
    rw [hsame]
    exact optionRel_refl .refl _
  items := by
    have hsame : t'.items = t.items := by cases h <;> rfl
    rw [hsame]
    exact optionRel_refl (Items.Rel.refl .refl) _
  alternatives := fun place hplace => ⟨place, h.alternatives_perm.mem_iff.mp hplace, .refl place⟩

end Permuted

/-! ### A list further down -/

namespace Rearranged

/-- A rearrangement in a place leaves the rest of the schema alone. -/
theorem sameFace {step : Step} (h : Rearranged step.isDefinition t t') (s : Schema) :
    SameFace SamePlace SamePlace (s.setPlace (.schema t) step) (s.setPlace (.schema t') step) := by
  refine sameFace_setPlace_setPlace .refl .refl s (fun hstep => .schema (hstep ▸ h)) ?_
  intro halternative
  have hstep : step.isDefinition = false := by
    cases step <;> first | rfl | cases halternative
  exact .schema (hstep ▸ h)

theorem ref (h : Rearranged entry s s') : s'.ref = s.ref := by
  cases h with
  | here h => exact h.ref
  | inside h => exact (h.sameFace _).ref

theorem isNullType (h : Rearranged entry s s') :
    Consistency.isNullType s' = Consistency.isNullType s := by
  cases h with
  | here h =>
    cases h with
    | type htype _ => simp only [Consistency.isNullType, htype]
    | allOf | anyOf | oneOf | extra => rfl
  | inside h => rw [Consistency.isNullType, Consistency.isNullType, (h.sameFace _).type]

end Rearranged

theorem referencesAmong_eq {l l' : List (Subschema Schema)} (h : List.Forall₂ SamePlace l l') :
    referencesAmong l' = referencesAmong l := by
  induction h with
  | nil => rfl
  | cons hplace _ ih =>
    cases hplace with
    | flag b => exact ih
    | schema h =>
      simp only [referencesAmong, List.filterMap_cons, Subschema.schema?, Option.bind_some,
        h.isNullType, h.ref] at ih ⊢
      rw [ih]

theorem nullAmong_eq {l l' : List (Subschema Schema)} (h : List.Forall₂ SamePlace l l') :
    nullAmong l' = nullAmong l := by
  induction h with
  | nil => rfl
  | cons hplace _ ih =>
    cases hplace with
    | flag b => exact ih
    | schema h =>
      simp only [nullAmong, List.any_cons, Subschema.schema?, Option.any_some,
        h.isNullType] at ih ⊢
      rw [ih]

namespace SameFace

theorem sameReading (h : SameFace SamePlace SamePlace s s') : SameReading s s' where
  ref := h.ref
  null := nullAmong_eq h.oneOf
  references := by rw [referencesAmong_eq h.oneOf]
  last := fun _ => by rw [lastReference, lastReference, referencesAmong_eq h.oneOf]

theorem sameContent (h : SameFace SamePlace SamePlace t t') : SameContent t t' where
  hasType := .congr h.type
  properties := h.properties
  additionalProperties := h.additionalProperties
  items := h.items
  alternatives := exists_mem_of_forall₂
    (List.rel_append (List.rel_append h.allOf h.oneOf) h.anyOf)

end SameFace

theorem Rearranged.sameReading (h : Rearranged false s s') : SameReading s s' := by
  cases h with
  | here h => exact h.sameReading
  | inside h => exact (h.sameFace _).sameReading

theorem Rearranged.sameContent (h : Rearranged entry t t') : SameContent t t' := by
  cases h with
  | here h => exact h.sameContent
  | inside h => exact (h.sameFace _).sameContent

end Schema

/-! ## 3. The descent through a rearranged schema -/

namespace Consistency

open Schema

variable {c c' : Context} {s s' t t' : Schema}

/-- The second context is the first one with something rearranged at most in one definition. -/
structure SameDefinitions (c c' : Context) : Prop where
  options : c'.options = c.options
  definitions : ∀ name, Option.Rel (Subschema.Rel (Rearranged true))
    (c.root.definitions.get? name) (c'.root.definitions.get? name)

theorem sameDefinitions (o : ConsistencyOptions) (h : Rearranged false s s') :
    SameDefinitions ⟨s, o⟩ ⟨s', o⟩ := by
  have hrefl : ∀ place, Subschema.Rel (Rearranged true) place place :=
    Subschema.Rel.refl (Rearranged.refl true)
  refine ⟨rfl, fun name => ?_⟩
  cases h with
  | here h =>
    simp only [h.definitions]
    exact optionRel_refl hrefl _
  | @inside _ s t t' step h =>
    cases hstep : step.isDefinition with
    | false =>
      simp only [definitions_setPlace _ hstep]
      exact optionRel_refl hrefl _
    | true =>
      cases step with
      | definition key => exact (Table.Rel.setEntry hrefl (.schema h) key _).get? name
      | _ => cases hstep

theorem Names.rearranged {token : String} (hc : SameDefinitions c c') (h : Names c token t) :
    ∃ t', Names c' token t' ∧ Rearranged true t t' := by
  obtain ⟨name, rfl, hget⟩ := h
  obtain ⟨t', hget', ht⟩ := exists_schema_of_optionRel (hc.definitions name) hget
  exact ⟨t', ⟨name, by rw [hc.options], hget'⟩, ht⟩

/-- **Places that are read alike stand for the same schema**, up to a rearrangement of that. -/
theorem StandsFor.rearranged {nullable : Bool} (hc : SameDefinitions c c')
    (hs : Rearranged false s s') (h : StandsFor c s t nullable) :
    ∃ t', StandsFor c' s' t' nullable ∧ Rearranged true t t' := by
  obtain ⟨href, hnull, hreferences, hlast⟩ := hs.sameReading
  cases h with
  | reference hsome hnames =>
    obtain ⟨t', hnames', ht⟩ := hnames.rearranged hc
    exact ⟨t', .reference (href.trans hsome) hnames', ht⟩
  | itself hnone hnil =>
    rw [hnil, List.perm_nil] at hreferences
    rw [← hnull]
    exact ⟨s', .itself (href.trans hnone) hreferences, hs.toEntry⟩
  | @alternative earlier token _ hnone hrefs hearlier hnames =>
    have hsome : lastReference s'.oneOf = some token := by
      rw [hlast hnone, lastReference, hrefs, List.getLast?_concat]
    obtain ⟨earlier', hrefs'⟩ := List.getLast?_eq_some_iff.mp hsome
    obtain ⟨t', hnames', ht⟩ := hnames.rearranged hc
    rw [← hnull]
    refine ⟨t', .alternative (href.trans hnone) hrefs' (fun u hu => ?_) hnames', ht⟩
    -- whatever comes before the last reference is one of the references on the other side
    have hmem : u ∈ earlier ++ [token] := by
      rw [← hrefs, ← hreferences.mem_iff, hrefs']
      exact List.mem_append_left _ hu
    have hnamed : ∃ d, Names c u d := by
      rcases List.mem_append.mp hmem with hu | hu
      · exact hearlier u hu
      · rw [List.mem_singleton.mp hu]
        exact ⟨_, hnames⟩
    obtain ⟨d, hd⟩ := hnamed
    obtain ⟨d', hd', _⟩ := hd.rearranged hc
    exact ⟨d', hd'⟩

theorem ContentAgrees.rearranged {kind : Kind Shape} (hc : SameDefinitions c c')
    (ht : SameContent t t') (h : ContentAgrees c t kind) : ContentAgrees c' t' kind := by
  have hflag (b : Bool) : t'.additionalProperties = some (.flag b) ↔
      t.additionalProperties = some (.flag b) := by
    rw [← additionalPropertiesFlag_eq_some_iff, ← additionalPropertiesFlag_eq_some_iff]
    exact Eq.congr_left (optionRel_flag? ht.additionalProperties)
  cases kind with
  | record fields =>
    obtain ⟨hfields, hproperties⟩ := h
    refine ⟨fun f hf => ?_, fun name hname => ?_⟩
    · obtain ⟨hname, hthere, hclosed⟩ := hfields f hf
      rw [← Table.mem_keys_iff] at hthere ⊢
      rw [ht.properties.keys, hc.options]
      exact ⟨hname, hthere, mt (hflag true).mp hclosed⟩
    · rw [ht.properties.keys] at hname
      exact hproperties name hname
  | map value => exact mt (hflag false).mp h
  | boolean | integer | number | string | bytes | timestamp | array | dynamic => trivial

/-- Pairs at the same place of the descent, one of them with the schema rearranged. -/
inductive SchemaRearranged : Pair → Pair → Prop where
  | mk {schema schema' : Option Schema} (shape : Shape) (depth : Nat)
      (isRoot skipWhenEmpty : Bool) : Option.Rel (Rearranged false) schema schema' →
      SchemaRearranged ⟨schema, shape, depth, isRoot, skipWhenEmpty⟩
        ⟨schema', shape, depth, isRoot, skipWhenEmpty⟩

theorem SchemaRearranged.symm {q q' : Pair} (h : SchemaRearranged q q') :
    SchemaRearranged q' q := by
  obtain ⟨shape, depth, isRoot, skipWhenEmpty, h⟩ := h
  refine .mk shape depth isRoot skipWhenEmpty ?_
  cases h with
  | none => exact .none
  | some h => exact .some h.symm

/-- What lies below a pair lies below the other one as well, up to a rearrangement. -/
theorem Child.rearranged {depth : Nat} {kind : Kind Shape} {r : Pair} (ht : SameContent t t')
    (h : Child t depth kind r) : ∃ r', Child t' depth kind r' ∧ SchemaRearranged r r' := by
  cases h with
  | field hf hproperty =>
    obtain ⟨_, hproperty', hs⟩ := exists_schema_of_optionRel (ht.properties.get? _) hproperty
    exact ⟨_, .field hf hproperty', .mk _ _ _ _ (.some hs)⟩
  | mapValue hvalue =>
    obtain ⟨_, hvalue', hs⟩ := exists_schema_of_optionRel ht.additionalProperties hvalue
    exact ⟨_, .mapValue hvalue', .mk _ _ _ _ (.some hs)⟩
  | mapProperty hentry =>
    obtain ⟨_, hentry', hplace⟩ := ht.properties.exists_entry hentry
    exact ⟨_, .mapProperty hentry', .mk _ _ _ _ hplace.schema?⟩
  | alternative hmem =>
    obtain ⟨_, hmem', hplace⟩ := ht.alternatives _ hmem
    exact ⟨_, .alternative hmem', .mk _ _ _ _ hplace.schema?⟩
  | items hitems =>
    obtain ⟨_, hitems', hplace⟩ := Items.Rel.exists_first ht.items hitems
    exact ⟨_, .items hitems', .mk _ _ _ _ hplace.schema?⟩

theorem LocallyConsistent.schemaRearranged {q q' : Pair} (hc : SameDefinitions c c')
    (hq : SchemaRearranged q q') (h : LocallyConsistent c q) : LocallyConsistent c' q' := by
  obtain ⟨shape, depth, isRoot, skipWhenEmpty, hschema⟩ := hq
  obtain ⟨hdepth, hdynamic, hagrees⟩ := h
  refine ⟨by rw [hc.options]; exact hdepth, ?_, ?_⟩
  · rintro rfl
    cases hschema
    exact hdynamic rfl
  · rintro s' rfl
    cases hschema with
    | some hs =>
      obtain ⟨t, nullableRef, name, nullableType, hstands, htype, hnullable, hcontent⟩ :=
        hagrees _ rfl
      obtain ⟨t', hstands', ht⟩ := hstands.rearranged hc hs
      refine ⟨t', nullableRef, name, nullableType, hstands', ht.sameContent.hasType htype, ?_, ?_⟩
      · simp only [NullabilityAgrees, hc.options] at hnullable ⊢
        exact hnullable
      · refine hcontent.imp_right ?_
        rintro ⟨hname, hcontent⟩
        exact ⟨hname, hcontent.rearranged hc ht.sameContent⟩

theorem Below.schemaRearranged {q q' r : Pair} (hc : SameDefinitions c c')
    (hq : SchemaRearranged q q') (h : Below c q r) :
    ∃ r', Below c' q' r' ∧ SchemaRearranged r r' := by
  obtain ⟨shape, depth, isRoot, skipWhenEmpty, hschema⟩ := hq
  obtain ⟨hexempt, s, t, nullable, rfl, hstands, hchild⟩ := h
  cases hschema with
  | some hs =>
    obtain ⟨t', hstands', ht⟩ := hstands.rearranged hc hs
    obtain ⟨r', hchild', hr⟩ := hchild.rearranged ht.sameContent
    exact ⟨r', ⟨hexempt, _, t', nullable, rfl, hstands', hchild'⟩, hr⟩

theorem simulates_schemaRearranged (hc : SameDefinitions c c') (hc' : SameDefinitions c' c) :
    Simulates c c' SchemaRearranged where
  exempt := fun ⟨_, _, _, _, _⟩ => rfl
  agrees := fun hq h => h.schemaRearranged hc hq
  below := fun hq h => by
    obtain ⟨r, hbelow, hr⟩ := h.schemaRearranged hc' hq.symm
    exact ⟨r, hbelow, hr.symm⟩

theorem checkShape_of_rearranged {o : ConsistencyOptions} {shape : Shape} {rootName : String}
    (h : Rearranged false s s') (hok : s.checkShape o shape rootName = .ok ()) :
    s'.checkShape o shape rootName = .ok () :=
  (simulates_schemaRearranged (sameDefinitions o h) (sameDefinitions o h.symm)).descend_ok
    (p := .root rootName) (.mk shape 0 true false (.some h)) hok

/-! ## 4. The descent beside a rearranged shape -/

/-- The same shape or a rearrangement of it. -/
abbrev SameShape : Shape → Shape → Prop := Relation.ReflGen Shape.Rearranged

theorem SameShape.symm {shape shape' : Shape} (h : SameShape shape shape') :
    SameShape shape' shape := by
  cases h with
  | refl => exact .refl
  | single h => exact .single h.symm

/-- Each field of the first record has a counterpart in the second one. -/
def FieldsIn (fields fields' : List (Field Shape)) : Prop :=
  ∀ f ∈ fields, ∃ f' ∈ fields', f'.wireName = f.wireName ∧ f'.skipWhenEmpty = f.skipWhenEmpty ∧
    SameShape f.type f'.type

theorem FieldsIn.of_perm {fields fields' : List (Field Shape)} (h : fields.Perm fields') :
    FieldsIn fields fields' :=
  fun f hf => ⟨f, h.mem_iff.mp hf, rfl, rfl, .refl⟩

theorem FieldsIn.of_type (before after : List (Field Shape)) {f f' : Field Shape}
    (hname : f'.wireName = f.wireName) (hskip : f'.skipWhenEmpty = f.skipWhenEmpty)
    (htype : SameShape f.type f'.type) :
    FieldsIn (before ++ f :: after) (before ++ f' :: after) := by
  intro g hg
  rcases List.mem_append.mp hg with hg | hg
  · exact ⟨g, List.mem_append_left _ hg, rfl, rfl, .refl⟩
  · rcases List.mem_cons.mp hg with rfl | hg
    · exact ⟨f', List.mem_append_right _ List.mem_cons_self, hname, hskip, htype⟩
    · exact ⟨g, List.mem_append_right _ (List.mem_cons_of_mem _ hg), rfl, rfl, .refl⟩

/-- The check tells the kinds apart only by the order of the fields, in them or below them. -/
inductive SameKind : Kind Shape → Kind Shape → Prop where
  | refl (kind : Kind Shape) : SameKind kind kind
  | record {fields fields' : List (Field Shape)} : FieldsIn fields fields' →
      FieldsIn fields' fields → SameKind (.record fields) (.record fields')
  | map {value value' : Shape} : SameShape value value' → SameKind (.map value) (.map value')
  | array {element element' : Shape} : SameShape element element' →
      SameKind (.array element) (.array element')

theorem SameShape.sameKind {shape shape' : Shape} (h : SameShape shape shape') :
    SameKind shape.kind shape'.kind := by
  cases h with
  | refl => exact .refl _
  | single h =>
    cases h with
    | fields h => exact .record (.of_perm h) (.of_perm h.symm)
    | field h =>
      exact .record (.of_type _ _ rfl rfl (.single h)) (.of_type _ _ rfl rfl (.single h.symm))
    | value h => exact .map (.single h)
    | element h => exact .array (.single h)

/-- The marks of a shape are not touched. -/
theorem SameShape.marks {shape shape' : Shape} (h : SameShape shape shape') :
    shape'.optional = shape.optional ∧ shape'.entity = shape.entity ∧
      shape'.exempt = shape.exempt := by
  cases h with
  | refl => exact ⟨rfl, rfl, rfl⟩
  | single h => cases h <;> exact ⟨rfl, rfl, rfl⟩

namespace SameKind

variable {kind kind' : Kind Shape}

theorem typeNames_eq (h : SameKind kind kind') : typeNames kind' = typeNames kind := by
  cases h <;> rfl

theorem isMap_eq (h : SameKind kind kind') : kind'.isMap = kind.isMap := by
  cases h <;> rfl

theorem eq_dynamic_iff (h : SameKind kind kind') : kind' = .dynamic ↔ kind = .dynamic := by
  cases h with
  | refl => exact Iff.rfl
  | record | map | array => exact ⟨nofun, nofun⟩

theorem contentAgrees (hkind : SameKind kind kind') (h : ContentAgrees c t kind) :
    ContentAgrees c t kind' := by
  cases hkind with
  | refl => exact h
  | record hin hback =>
    obtain ⟨hfields, hproperties⟩ := h
    refine ⟨fun f' hf' => ?_, fun name hname => ?_⟩
    · obtain ⟨f, hf, hwire, _⟩ := hback f' hf'
      rw [← hwire]
      exact hfields f hf
    · obtain ⟨f, hf, rfl⟩ := hproperties name hname
      obtain ⟨f', hf', hwire, _⟩ := hin f hf
      exact ⟨f', hf', hwire⟩
  | map => exact h
  | array => exact h

end SameKind

/-- Pairs at the same place of the descent, one of them with the shape rearranged. -/
inductive ShapeRearranged : Pair → Pair → Prop where
  | mk {shape shape' : Shape} (schema : Option Schema) (depth : Nat)
      (isRoot skipWhenEmpty : Bool) : SameShape shape shape' →
      ShapeRearranged ⟨schema, shape, depth, isRoot, skipWhenEmpty⟩
        ⟨schema, shape', depth, isRoot, skipWhenEmpty⟩

theorem ShapeRearranged.symm {q q' : Pair} (h : ShapeRearranged q q') : ShapeRearranged q' q := by
  obtain ⟨schema, depth, isRoot, skipWhenEmpty, h⟩ := h
  exact .mk schema depth isRoot skipWhenEmpty h.symm

theorem Child.sameKind {depth : Nat} {kind kind' : Kind Shape} {r : Pair}
    (hkind : SameKind kind kind') (h : Child t depth kind r) :
    ∃ r', Child t depth kind' r' ∧ ShapeRearranged r r' := by
  cases hkind with
  | refl => exact ⟨r, h, .mk _ _ _ _ .refl⟩
  | record hin _ =>
    cases h with
    | field hf hproperty =>
      obtain ⟨f', hf', hwire, hskip, htype⟩ := hin _ hf
      rw [← hwire] at hproperty
      rw [← hskip]
      exact ⟨_, .field hf' hproperty, .mk _ _ _ _ htype⟩
  | map hvalue =>
    cases h with
    | mapValue hplace => exact ⟨_, .mapValue hplace, .mk _ _ _ _ hvalue⟩
    | mapProperty hentry => exact ⟨_, .mapProperty hentry, .mk _ _ _ _ hvalue⟩
  | array helement =>
    cases h with
    | alternative hmem => exact ⟨_, .alternative hmem, .mk _ _ _ _ helement⟩
    | items hitems => exact ⟨_, .items hitems, .mk _ _ _ _ helement⟩

theorem LocallyConsistent.shapeRearranged {q q' : Pair} (hq : ShapeRearranged q q')
    (h : LocallyConsistent c q) : LocallyConsistent c q' := by
  obtain ⟨schema, depth, isRoot, skipWhenEmpty, hshape⟩ := hq
  obtain ⟨hdepth, hdynamic, hagrees⟩ := h
  obtain ⟨hoptional, hentity, _⟩ := hshape.marks
  have hkind := hshape.sameKind
  refine ⟨hdepth, fun hnone => hkind.eq_dynamic_iff.mpr (hdynamic hnone), fun s hs => ?_⟩
  obtain ⟨t, nullableRef, name, nullableType, hstands, htype, hnullable, hcontent⟩ := hagrees s hs
  refine ⟨t, nullableRef, name, nullableType, hstands, htype, ?_, ?_⟩
  · simp only [NullabilityAgrees, hoptional, hentity, hkind.isMap_eq, hkind.eq_dynamic_iff]
    exact hnullable
  · rw [hkind.eq_dynamic_iff, hkind.typeNames_eq]
    refine hcontent.imp_right ?_
    rintro ⟨hname, hcontent⟩
    exact ⟨hname, hkind.contentAgrees hcontent⟩

theorem Below.shapeRearranged {q q' r : Pair} (hq : ShapeRearranged q q') (h : Below c q r) :
    ∃ r', Below c q' r' ∧ ShapeRearranged r r' := by
  obtain ⟨schema, depth, isRoot, skipWhenEmpty, hshape⟩ := hq
  obtain ⟨hexempt, s, t, nullable, hs, hstands, hchild⟩ := h
  obtain ⟨_, _, hmark⟩ := hshape.marks
  obtain ⟨r', hchild', hr⟩ := hchild.sameKind hshape.sameKind
  exact ⟨r', ⟨hmark.trans hexempt, s, t, nullable, hs, hstands, hchild'⟩, hr⟩

theorem simulates_shapeRearranged (c : Context) : Simulates c c ShapeRearranged where
  exempt := fun ⟨_, _, _, _, h⟩ => h.marks.2.2
  agrees := fun hq h => h.shapeRearranged hq
  below := fun hq h => by
    obtain ⟨r, hbelow, hr⟩ := h.shapeRearranged hq.symm
    exact ⟨r, hbelow, hr.symm⟩

theorem checkShape_of_shapeRearranged {o : ConsistencyOptions} {shape shape' : Shape}
    {rootName : String} (h : shape.Rearranged shape')
    (hok : s.checkShape o shape rootName = .ok ()) : s.checkShape o shape' rootName = .ok () :=
  (simulates_shapeRearranged ⟨s, o⟩).descend_ok (p := .root rootName)
    (.mk (some s) 0 true false (.single h)) hok

end Consistency

/-! ## 5. The check -/

/-- **The order of lists does not change the verdict, the last reference apart.**  Whatever the
    schema, the shape, the name and the options, and however often lists are put in another
    order on either side: the check accepts before exactly if it accepts afterwards. -/
theorem Schema.checkShape_rearranged_iff (o : ConsistencyOptions) {s s' : Schema}
    {shape shape' : Shape} (rootName : String)
    (hschema : Relation.ReflTransGen (Schema.Rearranged false) s s')
    (hshape : Relation.ReflTransGen Shape.Rearranged shape shape') :
    s.checkShape o shape rootName = .ok () ↔ s'.checkShape o shape' rootName = .ok () := by
  trans s'.checkShape o shape rootName = .ok ()
  · induction hschema with
    | refl => exact Iff.rfl
    | tail _ hstep ih =>
      exact ih.trans ⟨Consistency.checkShape_of_rearranged hstep,
        Consistency.checkShape_of_rearranged hstep.symm⟩
  · induction hshape with
    | refl => exact Iff.rfl
    | tail _ hstep ih =>
      exact ih.trans ⟨Consistency.checkShape_of_shapeRearranged hstep,
        Consistency.checkShape_of_shapeRearranged hstep.symm⟩

/-- Alternatives that are references. -/
def eitherOf (tokens : List String) : List (Subschema Schema) :=
  tokens.map fun token => .schema (.reference token)

/-- An object with one property that has alternatives, and two definitions. -/
def amountSchema (alternatives : List (Subschema Schema)) : Schema where
  type := some (.single "object")
  properties := ⟨[("amount", .schema { oneOf := alternatives })]⟩
  definitions := ⟨[("Text", .schema (.ofType "string")), ("Count", .schema (.ofType "integer"))]⟩

def amountShape : Shape := .record [.ofName "amount" .string]

/-- **The last reference among the alternatives decides.** -/
theorem amountSchema_order_matters :
    (eitherOf ["#/definitions/Text", "#/definitions/Count"]).Perm
      (eitherOf ["#/definitions/Count", "#/definitions/Text"]) ∧
    (amountSchema (eitherOf ["#/definitions/Text", "#/definitions/Count"])).checkShape {}
      amountShape "Bill" = .error (.typeMismatch "integer" "string" "Bill.amount") ∧
    (amountSchema (eitherOf ["#/definitions/Count", "#/definitions/Text"])).checkShape {}
      amountShape "Bill" = .ok () := by
  exact ⟨.swap _ _ _, by decide, by decide⟩

/-- A visit to a place, with alternatives for the place and names for the type of its remark. -/
def visitSchema (alternatives : List (Subschema Schema)) (names : List String) : Schema where
  type := some (.single "object")
  properties := ⟨[("place", .schema { oneOf := alternatives })]⟩
  definitions := ⟨[("Place", .schema {
    type := some (.single "object")
    properties := ⟨[("name", .schema (.ofType "string")),
      ("remark", .schema { type := some (.union names) })]⟩ })]⟩

/-- A place that may be unknown. -/
def placeOrNull : List (Subschema Schema) :=
  [.schema (.ofType "null"), .schema (.reference "#/definitions/Place")]

def placeFields : List (Field Shape) :=
  [.ofName "name" .string, .ofName "remark" (.orAbsent .string)]

def visitShape (fields : List (Field Shape)) : Shape :=
  .record [.ofName "place" (.orAbsent (.record fields))]

/-- Alternatives, a type in a definition and fields below the root, all the other way round. -/
theorem visitSchema_rearranged :
    Relation.ReflTransGen (Schema.Rearranged false) (visitSchema placeOrNull ["string", "null"])
      (visitSchema placeOrNull.reverse ["null", "string"]) ∧
    Relation.ReflTransGen Shape.Rearranged (visitShape placeFields)
      (visitShape placeFields.reverse) ∧
    (visitSchema placeOrNull ["string", "null"]).checkShape {} (visitShape placeFields) "Visit" =
      .ok () ∧
    (visitSchema placeOrNull.reverse ["null", "string"]).checkShape {}
      (visitShape placeFields.reverse) "Visit" = .ok () := by
  have hplace : Schema.Rearranged false (visitSchema placeOrNull ["string", "null"])
      (visitSchema placeOrNull.reverse ["string", "null"]) :=
    .setPlace (.property "place") rfl
      (.here (.oneOf (.swap _ _ _) fun _ _ => by decide))
  have hremark : Schema.Rearranged false (visitSchema placeOrNull.reverse ["string", "null"])
      (visitSchema placeOrNull.reverse ["null", "string"]) :=
    .setPlace (.definition "Place") rfl
      (.setPlace (.property "remark") rfl (.here (.type rfl (.swap _ _ _))))
  have hschema : Relation.ReflTransGen (Schema.Rearranged false)
      (visitSchema placeOrNull ["string", "null"])
      (visitSchema placeOrNull.reverse ["null", "string"]) :=
    .tail (.single hplace) hremark
  have hshape : Relation.ReflTransGen Shape.Rearranged (visitShape placeFields)
      (visitShape placeFields.reverse) :=
    .single (@Shape.Rearranged.field [] [] _ _ _ _ _ (.fields (.swap _ _ _)))
  have hok : (visitSchema placeOrNull ["string", "null"]).checkShape {} (visitShape placeFields)
      "Visit" = .ok () := by
    decide
  exact ⟨hschema, hshape, hok,
    (Schema.checkShape_rearranged_iff {} "Visit" hschema hshape).mp hok⟩

end SchemaCatalog
