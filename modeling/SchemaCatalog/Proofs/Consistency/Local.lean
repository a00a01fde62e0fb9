/-
  Local consistency
  =================
  **What the consistency check asks of one pair of a schema and a shape.**

  The descent compares pairs of a place in the schema and a shape.  Which
  pairs lie below a pair is a relation, `Below`, and what has to hold at one
  pair alone is a predicate, `LocallyConsistent`; neither speaks of an order, of a first
  failure or of messages.

  Nothing lies below a pair whose reference is not answered, whose shape is
  exempt or whose shape is dynamic.  Below any other pair lie the places of the schema
  that the pair stands for, which is the one its reference names.

  Each function that the descent is made of succeeds exactly when the
  relation that belongs to it holds.
-/
import SchemaCatalog.Consistency
import SchemaCatalog.Proofs.Outcome
import SchemaCatalog.Proofs.Reference
import SchemaCatalog.Proofs.Table

namespace SchemaCatalog.Consistency

variable {c : Context} {p : Position}

/-! ## 1. What a schema says at one place -/

/-- A token under the prefix of the options that names a schema among the root definitions. -/
def Names (c : Context) (token : String) (s : Schema) : Prop :=
  ∃ name, token = c.options.definitionsPrefix ++ name ∧
    c.root.definitions.get? name = some (.schema s)

/-- The references among alternatives; the type `null` is not one of them. -/
def referencesAmong (alternatives : List (Subschema Schema)) : List String :=
  alternatives.filterMap fun place =>
    place.schema?.bind fun member => if isNullType member then none else member.ref

/-- Whether the type `null` is among alternatives. -/
def nullAmong (alternatives : List (Subschema Schema)) : Bool :=
  alternatives.any fun place => place.schema?.any isNullType

/-- The schema that a place stands for, and whether its alternatives allow `null`. -/
inductive StandsFor (c : Context) (s : Schema) : Schema → Bool → Prop where
  | reference {token : String} {t : Schema} : s.ref = some token → Names c token t →
      StandsFor c s t false
  | itself : s.ref = none → referencesAmong s.oneOf = [] →
      StandsFor c s s (nullAmong s.oneOf)
  /-- Every reference among the alternatives must name a schema; the last one counts. -/
  | alternative {earlier : List String} {token : String} {t : Schema} : s.ref = none →
      referencesAmong s.oneOf = earlier ++ [token] → (∀ u ∈ earlier, ∃ t', Names c u t') →
      Names c token t → StandsFor c s t (nullAmong s.oneOf)

/-- The one type name of a schema, and whether `null` is allowed beside it. -/
inductive HasType (s : Schema) : String → Bool → Prop where
  | named {type : TypeNames} {name : String} : s.type = some type →
      type.toList.filter (· ≠ "null") = [name] → HasType s name (type.toList.contains "null")
  | null {type : TypeNames} : s.type = some type → type.toList.filter (· ≠ "null") = [] →
      "null" ∈ type.toList → HasType s "null" false

/-- The type names of the schemas that describe values of a kind; an integer is also a number. -/
def typeNames : Kind Shape → List String
  | .boolean => ["boolean"]
  | .integer => ["integer", "number"]
  | .number => ["number"]
  | .string | .bytes | .timestamp => ["string"]
  | .record _ | .map _ => ["object"]
  | .array _ => ["array"]
  | .dynamic => []

/-! ## 2. Pairs -/

/-- A place in the schema, perhaps without a schema there, and the shape beside it. -/
structure Pair where
  schema : Option Schema
  shape : Shape
  depth : Nat
  isRoot : Bool := false
  /-- The shape is that of a field that is left out when it is empty. -/
  skipWhenEmpty : Bool := false

/-- The pair at the start. -/
def Pair.root (s : Schema) (shape : Shape) : Pair :=
  { schema := some s, shape, depth := 0, isRoot := true }

/-- The pair at a position. -/
def Pair.at (schema : Option Schema) (p : Position) (shape : Shape) : Pair :=
  ⟨schema, shape, p.depth, p.isRoot, p.skipWhenEmpty⟩

/-- The pairs of the places in a schema and the shapes in a kind, at a depth. -/
inductive Child (t : Schema) (depth : Nat) : Kind Shape → Pair → Prop where
  /-- Beside a field lies the property of its wire name; flags are passed over. -/
  | field {fields : List (Field Shape)} {f : Field Shape} {property : Schema} : f ∈ fields →
      t.properties.get? f.wireName = some (.schema property) →
      Child t depth (.record fields)
        ⟨some property, f.type, depth + 1, false, f.skipWhenEmpty⟩
  | mapValue {value : Shape} {s : Schema} : t.additionalProperties = some (.schema s) →
      Child t depth (.map value) ⟨some s, value, depth + 1, false, false⟩
  | mapProperty {value : Shape} {name : String} {place : Subschema Schema} :
      (name, place) ∈ t.properties.entries →
      Child t depth (.map value) ⟨place.schema?, value, depth + 2, false, false⟩
  | alternative {element : Shape} {place : Subschema Schema} :
      place ∈ t.allOf ++ t.oneOf ++ t.anyOf →
      Child t depth (.array element) ⟨place.schema?, element, depth + 1, false, false⟩
  /-- The items are those of all elements or of the first one. -/
  | items {element : Shape} {place : Subschema Schema} :
      (t.items = some (.each place) ∨ ∃ rest, t.items = some (.tuple (place :: rest))) →
      Child t depth (.array element) ⟨place.schema?, element, depth + 1, false, false⟩

/-- The second pair lies below the first one in the descent. -/
def Below (c : Context) (p q : Pair) : Prop :=
  p.shape.exempt = false ∧ ∃ s t nullable, p.schema = some s ∧ StandsFor c s t nullable ∧
    Child t p.depth p.shape.kind q

/-- Nullability agrees in both directions, or is free: at the root, for entities and for fields
    left out when empty. -/
def NullabilityAgrees (c : Context) (p : Pair) (nullable : Bool) : Prop :=
  p.isRoot ∨ p.shape.entity ≠ none ∨ p.skipWhenEmpty ∨
    ((p.shape.optional ∨ p.shape.kind.isMap → nullable) ∧
      (nullable → p.shape.optional ∨ p.shape.kind.isMap ∨ p.shape.kind = .dynamic ∨
        c.options.allowNullableRequired))

/-- What a schema of the fitting type says about the names in a record and about the values in a
    map. -/
def ContentAgrees (c : Context) (t : Schema) : Kind Shape → Prop
  | .record fields =>
    (∀ f ∈ fields, f.wireName ≠ "" ∧
      (t.properties.contains f.wireName ∨ f.wireName ∈ c.options.serverDefinedFields) ∧
      t.additionalProperties ≠ some (.flag true)) ∧
    ∀ name ∈ t.properties.keys, ∃ f ∈ fields, f.wireName = name
  | .map _ => t.additionalProperties ≠ some (.flag false)
  | _ => True

/-- What has to hold at one pair, whatever holds at the others. -/
structure LocallyConsistent (c : Context) (p : Pair) : Prop where
  depth_le : p.depth ≤ c.options.maxDepth
  /-- Only dynamic shapes go without a schema. -/
  dynamic_of_none : p.schema = none → p.shape.kind = .dynamic
  agrees : ∀ s, p.schema = some s → ∃ t nullableRef typeName nullableType,
    StandsFor c s t nullableRef ∧ HasType t typeName nullableType ∧
    NullabilityAgrees c p (nullableRef || nullableType) ∧
    (p.shape.kind = .dynamic ∨ typeName ∈ typeNames p.shape.kind ∧ ContentAgrees c t p.shape.kind)

/-! ## 3. The functions of the check say what the relations say -/

theorem lookup_ok_iff {token : String} {s : Schema} :
    lookup c p token = .ok s ↔ Names c token s := by
  simp only [lookup, Names]
  constructor
  · intro h
    split at h
    · cases h
    · next name hname =>
      split at h
      · next found hfound =>
        cases h
        exact ⟨name, stripPrefix?_eq_some_iff.mp hname, hfound⟩
      · cases h
  · rintro ⟨name, htoken, hget⟩
    rw [stripPrefix?_eq_some_iff.mpr htoken]
    simp only [hget]

/-- Where a list of tokens leads that are followed one after the other, each from the root: to the
    schema that the last one names. -/
def LeadTo (c : Context) : Schema → List String → Schema → Prop
  | s, [], t => t = s
  | _, token :: rest, t => ∃ s, Names c token s ∧ LeadTo c s rest t

theorem leadTo_concat {s t : Schema} {earlier : List String} {token : String} :
    LeadTo c s (earlier ++ [token]) t ↔
      (∀ u ∈ earlier, ∃ t', Names c u t') ∧ Names c token t := by
  induction earlier generalizing s with
  | nil =>
    simp only [List.nil_append, LeadTo, List.not_mem_nil, false_implies, implies_true, true_and]
    constructor
    · rintro ⟨s', hnames, rfl⟩
      exact hnames
    · intro hnames
      exact ⟨t, hnames, rfl⟩
  | cons u earlier ih =>
    rw [List.cons_append, LeadTo]
    constructor
    · rintro ⟨s', hnames, hlead⟩
      obtain ⟨hearlier, htoken⟩ := ih.mp hlead
      exact ⟨List.forall_mem_cons.mpr ⟨⟨s', hnames⟩, hearlier⟩, htoken⟩
    · rintro ⟨hearlier, htoken⟩
      obtain ⟨⟨s', hnames⟩, hearlier⟩ := List.forall_mem_cons.mp hearlier
      exact ⟨s', hnames, ih.mpr ⟨hearlier, htoken⟩⟩

theorem targetAmong_ok_iff {s t : Schema} {seen nullable : Bool}
    {alternatives : List (Subschema Schema)} :
    targetAmong c p (s, seen) alternatives = .ok (t, nullable) ↔
      LeadTo c s (referencesAmong alternatives) t ∧
        nullable = (seen || nullAmong alternatives) := by
  induction alternatives generalizing s seen with
  | nil =>
    simp only [targetAmong, referencesAmong, nullAmong, List.filterMap_nil, List.any_nil, LeadTo,
      Bool.or_false, Except.ok.injEq, Prod.mk.injEq]
    exact and_congr eq_comm eq_comm
  | cons place rest ih =>
    cases place with
    | flag b =>
      rw [targetAmong, ih]
      rfl
    | schema member =>
      by_cases hnull : isNullType member
      · have hrefs : referencesAmong (.schema member :: rest) = referencesAmong rest := by
          simp [referencesAmong, Subschema.schema?, hnull]
        have hany : nullAmong (.schema member :: rest) = true := by
          simp [nullAmong, Subschema.schema?, hnull]
        rw [targetAmong, if_pos hnull, ih, hrefs, hany, Bool.true_or, Bool.or_true]
      · have hany : nullAmong (.schema member :: rest) = nullAmong rest := by
          simp [nullAmong, Subschema.schema?, hnull]
        rw [targetAmong, if_neg hnull, hany]
        cases href : member.ref with
        | none =>
          have hrefs : referencesAmong (.schema member :: rest) = referencesAmong rest := by
            simp [referencesAmong, Subschema.schema?, hnull, href]
          rw [hrefs]
          exact ih
        | some token =>
          have hrefs : referencesAmong (.schema member :: rest) =
              token :: referencesAmong rest := by
            simp [referencesAmong, Subschema.schema?, hnull, href]
          rw [hrefs, LeadTo]
          constructor
          · intro h
            obtain ⟨found, hfound, h⟩ := bind_ok_iff.mp h
            obtain ⟨hlead, hnullable⟩ := ih.mp h
            exact ⟨⟨found, lookup_ok_iff.mp hfound, hlead⟩, hnullable⟩
          · rintro ⟨⟨found, hfound, hlead⟩, hnullable⟩
            exact bind_ok_iff.mpr
              ⟨found, lookup_ok_iff.mpr hfound, ih.mpr ⟨hlead, hnullable⟩⟩

theorem target_ok_iff {s t : Schema} {nullable : Bool} :
    target c p s = .ok (t, nullable) ↔ StandsFor c s t nullable := by
  rw [target]
  cases href : s.ref with
  | some token =>
    constructor
    · intro h
      obtain ⟨found, hfound, h⟩ := bind_ok_iff.mp h
      cases h
      exact .reference href (lookup_ok_iff.mp hfound)
    · rintro (⟨hsome, hnames⟩ | ⟨hnone, _⟩ | ⟨hnone, _, _, _⟩)
      · obtain rfl : token = _ := Option.some.inj (href.symm.trans hsome)
        exact bind_ok_iff.mpr ⟨t, lookup_ok_iff.mpr hnames, rfl⟩
      · rw [href] at hnone
        cases hnone
      · rw [href] at hnone
        cases hnone
  | none =>
    simp only
    rw [targetAmong_ok_iff, Bool.false_or]
    constructor
    · rintro ⟨hlead, rfl⟩
      rcases List.eq_nil_or_concat (referencesAmong s.oneOf) with hnil | ⟨earlier, token, hrefs⟩
      · rw [hnil] at hlead
        cases hlead
        exact .itself href hnil
      · rw [List.concat_eq_append] at hrefs
        rw [hrefs] at hlead
        obtain ⟨hearlier, hnames⟩ := leadTo_concat.mp hlead
        exact .alternative href hrefs hearlier hnames
    · rintro (⟨hsome, _⟩ | ⟨_, hnil⟩ | ⟨_, hrefs, hearlier, hnames⟩)
      · rw [href] at hsome
        cases hsome
      · rw [hnil]
        exact ⟨rfl, rfl⟩
      · rw [hrefs]
        exact ⟨leadTo_concat.mpr ⟨hearlier, hnames⟩, rfl⟩

theorem typeOf_ok_iff {s : Schema} {name : String} {nullable : Bool} :
    typeOf p s = .ok (name, nullable) ↔ HasType s name nullable := by
  rw [typeOf]
  cases htype : s.type with
  | none =>
    constructor
    · intro h
      cases h
    · rintro (⟨hsome, _⟩ | ⟨hsome, _, _⟩)
      · rw [htype] at hsome
        cases hsome
      · rw [htype] at hsome
        cases hsome
  | some type =>
    simp only
    constructor
    · intro h
      split at h
      · next only honly =>
        cases h
        exact .named htype honly
      · next hempty =>
        split at h
        · next hnull =>
          cases h
          exact .null htype hempty (List.contains_iff_mem.mp hnull)
        · cases h
      · cases h
    · rintro (⟨hsome, honly⟩ | ⟨hsome, hempty, hnull⟩)
      · obtain rfl : type = _ := Option.some.inj (htype.symm.trans hsome)
        rw [honly]
      · obtain rfl : type = _ := Option.some.inj (htype.symm.trans hsome)
        rw [hempty, List.contains_iff_mem.mpr hnull]
        rfl

theorem checkNullable_ok_iff {shape : Shape} {schema : Option Schema} {nullable : Bool} :
    checkNullable c p shape nullable = .ok () ↔
      NullabilityAgrees c (.at schema p shape) nullable := by
  have hdynamic : shape.kind.isDynamic = true ↔ shape.kind = .dynamic := by
    cases shape.kind <;> simp [Kind.isDynamic]
  have hfree : nullabilityIsFree p shape = true ↔
      p.isRoot ∨ shape.entity ≠ none ∨ p.skipWhenEmpty := by
    simp [nullabilityIsFree, Shape.isEntity, Option.isSome_iff_ne_none, or_assoc]
  have habsent : mayBeAbsent shape = true ↔ shape.optional ∨ shape.kind.isMap := by
    simp [mayBeAbsent]
  rw [checkNullable]
  simp only [NullabilityAgrees, Pair.at]
  by_cases hf : nullabilityIsFree p shape = true
  · rw [if_pos hf]
    rcases hfree.mp hf with h | h | h <;> simp [h]
  · rw [if_neg hf]
    have hbound : ¬ (p.isRoot = true) ∧ ¬ (shape.entity ≠ none) ∧ ¬ (p.skipWhenEmpty = true) :=
      ⟨fun h => hf (hfree.mpr (Or.inl h)), fun h => hf (hfree.mpr (Or.inr (Or.inl h))),
        fun h => hf (hfree.mpr (Or.inr (Or.inr h)))⟩
    rw [or_iff_right hbound.1, or_iff_right hbound.2.1, or_iff_right hbound.2.2, ← habsent,
      ← hdynamic, ← or_assoc (a := shape.optional = true), ← habsent]
    cases mayBeAbsent shape <;> cases nullable <;> cases shape.kind.isDynamic <;>
      cases c.options.allowNullableRequired <;> simp

/-- Flat kinds are compared with the type name alone. -/
theorem checkFlat_ok_iff {typeName : String} {kind : Kind Shape} :
    checkFlat p typeName kind = .ok () ↔
      typeName ∈ typeNames kind ∧ typeName ≠ "object" ∧ typeName ≠ "array" := by
  unfold checkFlat
  split
  · cases kind <;> simp [typeNames]
  · cases kind <;> simp [typeNames]
  · cases kind <;> simp [typeNames]
  · cases kind <;> simp [typeNames]
  · simp
  · simp
  · next hboolean hinteger hnumber hstring hobject harray =>
    constructor
    · intro h
      cases h
    · rintro ⟨hfits, -, -⟩
      cases kind <;> simp_all [typeNames]

theorem additionalPropertiesFlag_eq_some_iff {t : Schema} {b : Bool} :
    t.additionalPropertiesFlag = some b ↔ t.additionalProperties = some (.flag b) := by
  rcases hadditional : t.additionalProperties with _ | (b' | s) <;>
    simp [Schema.additionalPropertiesFlag, hadditional, Subschema.flag?]

theorem checkField_ok_iff {t : Schema} {declaredName wireName : String}
    {property : Option Schema} :
    checkField c p t declaredName wireName = .ok property ↔
      wireName ≠ "" ∧
      (t.properties.contains wireName ∨ wireName ∈ c.options.serverDefinedFields) ∧
      t.additionalProperties ≠ some (.flag true) ∧
      (t.properties.get? wireName).bind Subschema.schema? = property := by
  have hmissing : ((t.properties.get? wireName).isNone &&
        !c.options.serverDefinedFields.contains wireName) = true ↔
      ¬ (t.properties.contains wireName ∨ wireName ∈ c.options.serverDefinedFields) := by
    cases hget : t.properties.get? wireName <;> simp [Table.contains, hget]
  rw [checkField]
  split
  · next hempty => simp [hempty]
  · next hempty =>
    simp only
    split
    · next hnone => simp [hmissing.mp hnone]
    · next hsome =>
      rw [hmissing, Classical.not_not] at hsome
      split
      · next hflag => simp [additionalPropertiesFlag_eq_some_iff.mp hflag]
      · next hflag => simp [hempty, hsome, mt additionalPropertiesFlag_eq_some_iff.mpr hflag]

theorem checkProperties_ok_iff {t : Schema} {wireNames : List String} :
    checkProperties p t wireNames = .ok () ↔ ∀ name ∈ t.properties.keys, name ∈ wireNames := by
  rw [checkProperties]
  split
  · next name hfind =>
    constructor
    · intro h
      cases h
    · intro h
      have hmem := h name (List.mem_of_find?_eq_some hfind)
      have hnot := List.find?_some hfind
      simp [hmem] at hnot
  · next hfind =>
    constructor
    · intro _ name hname
      have hnot := List.find?_eq_none.mp hfind name hname
      simpa using hnot
    · intro _
      rfl

theorem checkPlaces_ok_iff {check : Option Schema → Position → Outcome Unit}
    {places : List (Option Schema × Position)} :
    checkPlaces check places = .ok () ↔ ∀ place ∈ places, check place.1 place.2 = .ok () := by
  induction places with
  | nil => simp [checkPlaces]
  | cons place rest ih =>
    obtain ⟨s, p⟩ := place
    rw [checkPlaces, bind_ok_iff, List.forall_mem_cons, ← ih]
    constructor
    · rintro ⟨⟨⟩, hfirst, hrest⟩
      exact ⟨hfirst, hrest⟩
    · rintro ⟨hfirst, hrest⟩
      exact ⟨(), hfirst, hrest⟩

theorem HasType.unique {s : Schema} {name name' : String} {nullable nullable' : Bool}
    (h : HasType s name nullable) (h' : HasType s name' nullable') :
    name = name' ∧ nullable = nullable' := by
  have htype := typeOf_ok_iff (p := .root "").mpr h
  rw [typeOf_ok_iff (p := .root "").mpr h'] at htype
  cases htype
  exact ⟨rfl, rfl⟩

end SchemaCatalog.Consistency
