/-
  Acceptance by the consistency check
  ===================================
  **What the check accepts, without its order and its early exit.**

  One step of the descent accepts a pair exactly if the pair is locally
  consistent and everything below it is accepted (`descend_ok_iff`).  So the
  check accepts exactly if every pair that can be reached from the root is
  locally consistent, pairs with an exempt shape apart
  (`checkShape_ok_iff`): in one direction by induction on how a pair is reached,
  in the other by induction on the size of the shape.

  Two descents can be compared by a relation between what they reach
  (`Simulates`): one that is simulated by an accepting descent accepts as well.
-/
import Mathlib.Logic.Relation
import SchemaCatalog.Proofs.Consistency.Local

namespace SchemaCatalog

namespace Consistency

variable {c : Context} {p : Position}

/-! ## 1. One step of the descent -/

/-- What lies below a position, where `t` is the schema that the position stands for. -/
inductive BelowAt (p : Position) (t : Schema) :
    Kind Shape → Option Schema → Position → Shape → Prop where
  | field {fields : List (Field Shape)} {f : Field Shape} {property : Schema} : f ∈ fields →
      t.properties.get? f.wireName = some (.schema property) →
      BelowAt p t (.record fields) (some property)
        (p.child ("." ++ f.wireName) f.skipWhenEmpty) f.type
  | map {value : Shape} {place : Option Schema × Position} : place ∈ mapPlaces p t →
      BelowAt p t (.map value) place.1 place.2 value
  | array {element : Shape} {place : Option Schema × Position} : place ∈ arrayPlaces p t →
      BelowAt p t (.array element) place.1 place.2 element

theorem bind_schema?_eq_some_iff {place : Option (Subschema Schema)} {s : Schema} :
    place.bind Subschema.schema? = some s ↔ place = some (.schema s) := by
  rcases place with _ | (b | s') <;> simp [Subschema.schema?]

theorem descendFields_ok_iff {t : Schema} {fields : List (Field Shape)} :
    descendFields c t p fields = .ok () ↔ ∀ f ∈ fields,
      (f.wireName ≠ "" ∧
        (t.properties.contains f.wireName ∨ f.wireName ∈ c.options.serverDefinedFields) ∧
        t.additionalProperties ≠ some (.flag true)) ∧
      ∀ property, t.properties.get? f.wireName = some (.schema property) →
        descend c (some property) (p.child ("." ++ f.wireName) f.skipWhenEmpty) f.type =
          .ok () := by
  induction fields with
  | nil => simp [descendFields]
  | cons f rest ih =>
    obtain ⟨declaredName, wireName, type, skipWhenEmpty⟩ := f
    rw [descendFields, List.forall_mem_cons, ← ih]
    cases hfield : checkField c p t declaredName wireName with
    | error e =>
      constructor
      · intro h
        cases h
      · rintro ⟨⟨⟨hname, hthere, hclosed⟩, _⟩, _⟩
        rw [checkField_ok_iff.mpr ⟨hname, hthere, hclosed, rfl⟩] at hfield
        cases hfield
    | ok place =>
      obtain ⟨hname, hthere, hclosed, hplace⟩ := checkField_ok_iff.mp hfield
      cases place with
      | none =>
        constructor
        · intro hrest
          refine ⟨⟨⟨hname, hthere, hclosed⟩, ?_⟩, hrest⟩
          intro property hproperty
          rw [bind_schema?_eq_some_iff.mpr hproperty] at hplace
          cases hplace
        · exact And.right
      | some property =>
        rw [bind_schema?_eq_some_iff] at hplace
        simp only
        split
        · next e hdescend =>
          constructor
          · intro h
            cases h
          · rintro ⟨⟨_, hbelow⟩, _⟩
            rw [hbelow property hplace] at hdescend
            cases hdescend
        · next hdescend =>
          constructor
          · intro hrest
            refine ⟨⟨⟨hname, hthere, hclosed⟩, ?_⟩, hrest⟩
            intro property' hproperty
            rw [hplace] at hproperty
            cases hproperty
            exact hdescend
          · exact And.right

/-- A type name that fits no kind is refused, whatever else holds. -/
theorem checkFlat_ok_iff_of_not_mem {typeName : String} {kind : Kind Shape} {holds : Prop}
    (h : typeName ∉ typeNames kind) :
    checkFlat p typeName kind = .ok () ↔ (typeName ∈ typeNames kind ∧ holds) := by
  rw [checkFlat_ok_iff]
  constructor
  · rintro ⟨hfits, _⟩
    exact absurd hfits h
  · rintro ⟨hfits, _⟩
    exact absurd hfits h

theorem descendRecord_ok_iff {t : Schema} {typeName : String} {fields : List (Field Shape)} :
    descendKind c t typeName p (.record fields) = .ok () ↔
      (typeName ∈ typeNames (.record fields) ∧ ContentAgrees c t (.record fields)) ∧
      ∀ schema p' shape, BelowAt p t (.record fields) schema p' shape →
        descend c schema p' shape = .ok () := by
  rw [descendKind]
  split
  · next hobject =>
    rw [bind_ok_iff]
    constructor
    · rintro ⟨⟨⟩, hfields, hproperties⟩
      rw [descendFields_ok_iff] at hfields
      rw [checkProperties_ok_iff] at hproperties
      refine ⟨⟨by simp [typeNames, hobject], fun f hf => (hfields f hf).1, ?_⟩, ?_⟩
      · intro name hname
        exact List.mem_map.mp (hproperties name hname)
      · rintro _ _ _ (⟨hf, hproperty⟩ | _ | _)
        exact (hfields _ hf).2 _ hproperty
    · rintro ⟨⟨_, hfields, hproperties⟩, hbelow⟩
      refine ⟨(), descendFields_ok_iff.mpr fun f hf => ⟨hfields f hf, ?_⟩,
        checkProperties_ok_iff.mpr ?_⟩
      · intro property hproperty
        exact hbelow _ _ _ (.field hf hproperty)
      · intro name hname
        exact List.mem_map.mpr (hproperties name hname)
  · next hobject =>
    rw [and_assoc]
    exact checkFlat_ok_iff_of_not_mem (by simpa [typeNames] using hobject)

theorem descendMap_ok_iff {t : Schema} {typeName : String} {value : Shape} :
    descendKind c t typeName p (.map value) = .ok () ↔
      (typeName ∈ typeNames (.map value) ∧ ContentAgrees c t (.map value)) ∧
      ∀ schema p' shape, BelowAt p t (.map value) schema p' shape →
        descend c schema p' shape = .ok () := by
  rw [descendKind]
  split
  · next hobject =>
    split
    · next hflag =>
      constructor
      · intro h
        cases h
      · rintro ⟨⟨_, hcontent⟩, _⟩
        exact absurd (additionalPropertiesFlag_eq_some_iff.mp hflag) hcontent
    · next hflag =>
      rw [checkPlaces_ok_iff]
      constructor
      · intro hplaces
        refine ⟨⟨by simp [typeNames, hobject],
          mt additionalPropertiesFlag_eq_some_iff.mpr hflag⟩, ?_⟩
        rintro _ _ _ (_ | hplace | _)
        exact hplaces _ hplace
      · rintro ⟨_, hbelow⟩ place hplace
        exact hbelow _ _ _ (.map hplace)
  · next hobject =>
    rw [and_assoc]
    exact checkFlat_ok_iff_of_not_mem (by simpa [typeNames] using hobject)

theorem descendArray_ok_iff {t : Schema} {typeName : String} {element : Shape} :
    descendKind c t typeName p (.array element) = .ok () ↔
      (typeName ∈ typeNames (.array element) ∧ ContentAgrees c t (.array element)) ∧
      ∀ schema p' shape, BelowAt p t (.array element) schema p' shape →
        descend c schema p' shape = .ok () := by
  rw [descendKind]
  split
  · next harray =>
    rw [checkPlaces_ok_iff]
    constructor
    · intro hplaces
      refine ⟨⟨by simp [typeNames, harray], trivial⟩, ?_⟩
      rintro _ _ _ (_ | _ | hplace)
      exact hplaces _ hplace
    · rintro ⟨_, hbelow⟩ place hplace
      exact hbelow _ _ _ (.array hplace)
  · next harray =>
    rw [and_assoc]
    exact checkFlat_ok_iff_of_not_mem (by simpa [typeNames] using harray)

/-- **The comparison with a kind is local, apart from the descents below.** -/
theorem descendKind_ok_iff {t : Schema} {typeName : String} {kind : Kind Shape}
    (hkind : kind ≠ .dynamic) :
    descendKind c t typeName p kind = .ok () ↔
      (typeName ∈ typeNames kind ∧ ContentAgrees c t kind) ∧
      ∀ schema p' shape, BelowAt p t kind schema p' shape → descend c schema p' shape = .ok () := by
  cases kind with
  | record fields => exact descendRecord_ok_iff
  | map value => exact descendMap_ok_iff
  | array element => exact descendArray_ok_iff
  | dynamic => exact absurd rfl hkind
  | boolean | integer | number | string | bytes | timestamp =>
    rw [descendKind, checkFlat_ok_iff]
    constructor
    · rintro ⟨hfits, -, -⟩
      refine ⟨⟨hfits, trivial⟩, ?_⟩
      intro _ _ _ hbelow
      cases hbelow
    · rintro ⟨⟨hfits, -⟩, -⟩
      refine ⟨hfits, ?_, ?_⟩ <;> rintro rfl <;> simp [typeNames] at hfits

theorem mem_mapPlaces_iff {t : Schema} {place : Option Schema × Position} :
    place ∈ mapPlaces p t ↔
      (∃ s, t.additionalProperties = some (.schema s) ∧
        place = (some s, p.child "[key]" false)) ∨
      ∃ name sub, (name, sub) ∈ t.properties.entries ∧
        place = (sub.schema?, (p.child "[key]" false).child ("." ++ name) false) := by
  rw [mapPlaces, List.mem_append]
  apply or_congr
  · rcases t.additionalProperties with _ | (b | s) <;> simp
  · rw [List.mem_map]
    constructor
    · rintro ⟨⟨name, sub⟩, hmem, rfl⟩
      exact ⟨name, sub, hmem, rfl⟩
    · rintro ⟨name, sub, hmem, rfl⟩
      exact ⟨(name, sub), hmem, rfl⟩

theorem mem_alternativePlaces_iff {alternatives : List (Subschema Schema)}
    {place : Option Schema × Position} :
    place ∈ alternativePlaces p alternatives ↔
      ∃ i sub, alternatives[i]? = some sub ∧
        place = (sub.schema?, p.child ("." ++ Nat.repr i) false) := by
  rw [alternativePlaces, List.mem_map]
  constructor
  · rintro ⟨⟨sub, i⟩, hmem, rfl⟩
    exact ⟨i, sub, List.mem_zipIdx_iff_getElem?.mp hmem, rfl⟩
  · rintro ⟨i, sub, hget, rfl⟩
    exact ⟨(sub, i), List.mem_zipIdx_iff_getElem?.mpr hget, rfl⟩

theorem mem_alternatives_iff {t : Schema} {place : Subschema Schema} :
    place ∈ t.allOf ++ t.oneOf ++ t.anyOf ↔
      ∃ alternatives ∈ [t.allOf, t.oneOf, t.anyOf], place ∈ alternatives := by
  simp

theorem mem_arrayPlaces_iff {t : Schema} {place : Option Schema × Position} :
    place ∈ arrayPlaces p t ↔
      (∃ alternatives ∈ [t.allOf, t.oneOf, t.anyOf], place ∈ alternativePlaces p alternatives) ∨
      ∃ sub, (t.items = some (.each sub) ∨ ∃ rest, t.items = some (.tuple (sub :: rest))) ∧
        place = (sub.schema?, p.child ".0" false) := by
  rw [arrayPlaces, List.mem_append]
  apply or_congr
  · simp
  · rcases t.items with _ | (sub | (_ | ⟨sub, rest⟩)) <;> simp

/-- The places that the check visits below a position are those of the pairs below. -/
theorem child_iff_belowAt {t : Schema} {kind : Kind Shape} {q : Pair} :
    Child t p.depth kind q ↔
      ∃ schema p' shape, BelowAt p t kind schema p' shape ∧ q = .at schema p' shape := by
  constructor
  · intro h
    cases h with
    | field hf hproperty => exact ⟨_, _, _, .field hf hproperty, rfl⟩
    | mapValue hvalue =>
      exact ⟨_, _, _, .map (mem_mapPlaces_iff.mpr (Or.inl ⟨_, hvalue, rfl⟩)), rfl⟩
    | mapProperty hentry =>
      exact ⟨_, _, _, .map (mem_mapPlaces_iff.mpr (Or.inr ⟨_, _, hentry, rfl⟩)), rfl⟩
    | alternative hplace =>
      obtain ⟨alternatives, hlist, hplace⟩ := mem_alternatives_iff.mp hplace
      obtain ⟨i, hi⟩ := List.mem_iff_getElem?.mp hplace
      exact ⟨_, _, _, .array (mem_arrayPlaces_iff.mpr (Or.inl
        ⟨alternatives, hlist, mem_alternativePlaces_iff.mpr ⟨i, _, hi, rfl⟩⟩)), rfl⟩
    | items hitems =>
      exact ⟨_, _, _, .array (mem_arrayPlaces_iff.mpr (Or.inr ⟨_, hitems, rfl⟩)), rfl⟩
  · rintro ⟨_, _, _, ⟨hf, hproperty⟩ | hplace | hplace, rfl⟩
    · exact .field hf hproperty
    · rcases mem_mapPlaces_iff.mp hplace with ⟨s, hvalue, rfl⟩ | ⟨name, sub, hentry, rfl⟩
      · exact .mapValue hvalue
      · exact .mapProperty hentry
    · rcases mem_arrayPlaces_iff.mp hplace with
        ⟨alternatives, hlist, hmem⟩ | ⟨sub, hitems, rfl⟩
      · obtain ⟨i, sub, hi, rfl⟩ := mem_alternativePlaces_iff.mp hmem
        exact .alternative
          (mem_alternatives_iff.mpr ⟨alternatives, hlist, List.mem_of_getElem? hi⟩)
      · exact .items hitems

theorem StandsFor.unique {s t t' : Schema} {nullable nullable' : Bool}
    (h : StandsFor c s t nullable) (h' : StandsFor c s t' nullable') :
    t = t' ∧ nullable = nullable' := by
  have htarget := target_ok_iff (p := .root "").mpr h
  rw [target_ok_iff (p := .root "").mpr h'] at htarget
  cases htarget
  exact ⟨rfl, rfl⟩

theorem isDynamic_iff {kind : Kind Shape} : kind.isDynamic = true ↔ kind = .dynamic := by
  cases kind <;> simp [Kind.isDynamic]

/-- Nothing is left to compare: the shape is dynamic and nothing else is wrong. -/
theorem compareHead_none_iff {schema : Option Schema} {shape : Shape} :
    compareHead c p shape schema = .ok none ↔
      shape.kind = .dynamic ∧ LocallyConsistent c (.at schema p shape) := by
  unfold compareHead
  constructor
  · intro h
    split at h
    · cases h
    · next hdepth =>
      split at h
      · split at h
        · next hdynamic =>
          exact ⟨isDynamic_iff.mp hdynamic, Nat.le_of_not_lt hdepth,
            fun _ => isDynamic_iff.mp hdynamic, fun _ => nofun⟩
        · cases h
      · next s =>
        obtain ⟨⟨t, nullableRef⟩, htarget, h⟩ := bind_ok_iff.mp h
        obtain ⟨⟨typeName, nullableType⟩, htype, h⟩ := bind_ok_iff.mp h
        obtain ⟨⟨⟩, hnullable, h⟩ := bind_ok_iff.mp h
        by_cases hdynamic : shape.kind.isDynamic = true
        · refine ⟨isDynamic_iff.mp hdynamic, Nat.le_of_not_lt hdepth, nofun, ?_⟩
          rintro _ ⟨⟩
          exact ⟨t, nullableRef, typeName, nullableType, target_ok_iff.mp htarget,
            typeOf_ok_iff.mp htype, checkNullable_ok_iff.mp hnullable,
            Or.inl (isDynamic_iff.mp hdynamic)⟩
        · rw [if_neg hdynamic] at h
          cases h
  · rintro ⟨hdynamic, hlocal⟩
    have hdepth : p.depth ≤ c.options.maxDepth := hlocal.depth_le
    rw [if_neg (Nat.not_lt.mpr hdepth)]
    cases schema with
    | none => exact if_pos (isDynamic_iff.mpr hdynamic)
    | some s =>
      obtain ⟨t, nullableRef, typeName, nullableType, htarget, htype, hnullable, _⟩ :=
        hlocal.agrees s rfl
      refine bind_ok_iff.mpr ⟨_, target_ok_iff.mpr htarget, ?_⟩
      refine bind_ok_iff.mpr ⟨_, typeOf_ok_iff.mpr htype, ?_⟩
      refine bind_ok_iff.mpr ⟨(), checkNullable_ok_iff.mpr hnullable, ?_⟩
      rw [if_pos (isDynamic_iff.mpr hdynamic)]
      rfl

/-- The schema and the type name with which the kind is to be compared. -/
theorem compareHead_some_iff {schema : Option Schema} {shape : Shape} {t : Schema}
    {typeName : String} :
    compareHead c p shape schema = .ok (some (t, typeName)) ↔
      shape.kind ≠ .dynamic ∧ p.depth ≤ c.options.maxDepth ∧
      ∃ s nullableRef nullableType, schema = some s ∧ StandsFor c s t nullableRef ∧
        HasType t typeName nullableType ∧
        NullabilityAgrees c (.at schema p shape) (nullableRef || nullableType) := by
  unfold compareHead
  constructor
  · intro h
    split at h
    · cases h
    · next hdepth =>
      split at h
      · split at h <;> cases h
      · next s =>
        obtain ⟨⟨t', nullableRef⟩, htarget, h⟩ := bind_ok_iff.mp h
        obtain ⟨⟨typeName', nullableType⟩, htype, h⟩ := bind_ok_iff.mp h
        obtain ⟨⟨⟩, hnullable, h⟩ := bind_ok_iff.mp h
        by_cases hdynamic : shape.kind.isDynamic = true
        · rw [if_pos hdynamic] at h
          cases h
        · rw [if_neg hdynamic] at h
          cases h
          exact ⟨mt isDynamic_iff.mpr hdynamic, Nat.le_of_not_lt hdepth, s, nullableRef,
            nullableType, rfl, target_ok_iff.mp htarget, typeOf_ok_iff.mp htype,
            checkNullable_ok_iff.mp hnullable⟩
  · rintro ⟨hkind, hdepth, s, nullableRef, nullableType, rfl, htarget, htype, hnullable⟩
    rw [if_neg (Nat.not_lt.mpr hdepth)]
    refine bind_ok_iff.mpr ⟨_, target_ok_iff.mpr htarget, ?_⟩
    refine bind_ok_iff.mpr ⟨_, typeOf_ok_iff.mpr htype, ?_⟩
    refine bind_ok_iff.mpr ⟨(), checkNullable_ok_iff.mpr hnullable, ?_⟩
    rw [if_neg (mt isDynamic_iff.mp hkind)]
    rfl

/-- A locally consistent pair passes what is checked before its kind. -/
theorem exists_compareHead_ok {schema : Option Schema} {shape : Shape}
    (h : LocallyConsistent c (.at schema p shape)) :
    ∃ head, compareHead c p shape schema = .ok head := by
  by_cases hdynamic : shape.kind = .dynamic
  · exact ⟨none, compareHead_none_iff.mpr ⟨hdynamic, h⟩⟩
  · cases schema with
    | none => exact absurd (h.dynamic_of_none rfl) hdynamic
    | some s =>
      obtain ⟨t, nullableRef, typeName, nullableType, htarget, htype, hnullable, _⟩ :=
        h.agrees s rfl
      exact ⟨some (t, typeName), compareHead_some_iff.mpr ⟨hdynamic, h.depth_le, s, nullableRef,
        nullableType, rfl, htarget, htype, hnullable⟩⟩

/-- **One step of the descent.**  The check accepts a pair whose shape is exempt, and any other
    pair exactly if it is locally consistent and everything below is accepted. -/
theorem descend_ok_iff {schema : Option Schema} {shape : Shape} :
    descend c schema p shape = .ok () ↔ shape.exempt = true ∨
      (LocallyConsistent c (.at schema p shape) ∧
        ∀ s t nullable, schema = some s → StandsFor c s t nullable →
          ∀ schema' p' shape', BelowAt p t shape.kind schema' p' shape' →
            descend c schema' p' shape' = .ok ()) := by
  obtain ⟨kind, optional, entity, exempt⟩ := shape
  rw [descend]
  by_cases hexempt : exempt = true
  · simp [hexempt]
  rw [if_neg hexempt, or_iff_right hexempt]
  cases hhead : compareHead c p ⟨kind, optional, entity, exempt⟩ schema with
  | error e =>
    constructor
    · intro h
      cases h
    · rintro ⟨hlocal, _⟩
      obtain ⟨head, hok⟩ := exists_compareHead_ok hlocal
      rw [hok] at hhead
      cases hhead
  | ok head =>
    cases head with
    | none =>
      obtain ⟨hdynamic, hlocal⟩ := compareHead_none_iff.mp hhead
      simp only at hdynamic
      subst hdynamic
      constructor
      · intro _
        exact ⟨hlocal, fun _ _ _ _ _ _ _ _ => nofun⟩
      · intro _
        rfl
    | some head =>
      obtain ⟨t, typeName⟩ := head
      obtain ⟨hkind, hdepth, s, nullableRef, nullableType, rfl, htarget, htype, hnullable⟩ :=
        compareHead_some_iff.mp hhead
      simp only
      rw [descendKind_ok_iff hkind]
      constructor
      · rintro ⟨hcontent, hbelow⟩
        refine ⟨⟨hdepth, nofun, ?_⟩, ?_⟩
        · rintro _ ⟨⟩
          exact ⟨t, nullableRef, typeName, nullableType, htarget, htype, hnullable,
            Or.inr hcontent⟩
        · rintro _ t' _ ⟨⟩ htarget'
          obtain ⟨rfl, _⟩ := htarget.unique htarget'
          exact hbelow
      · rintro ⟨hlocal, hbelow⟩
        refine ⟨?_, hbelow s t nullableRef rfl htarget⟩
        obtain ⟨t', _, typeName', _, htarget', htype', _, hdynamic | hcontent⟩ :=
          hlocal.agrees s rfl
        · exact absurd hdynamic hkind
        · obtain ⟨rfl, _⟩ := htarget.unique htarget'
          obtain ⟨rfl, _⟩ := htype.unique htype'
          exact hcontent

/-! ## 2. The whole descent -/

theorem sizeOf_lt_of_belowAt {t : Schema} {kind : Kind Shape} {schema : Option Schema}
    {p' : Position} {shape : Shape} (h : BelowAt p t kind schema p' shape) :
    sizeOf shape < sizeOf kind := by
  cases h with
  | @field fields f property hf _ =>
    obtain ⟨declaredName, wireName, type, skipWhenEmpty⟩ := f
    have hlt := List.sizeOf_lt_of_mem hf
    simp only [Field.mk.sizeOf_spec, Kind.record.sizeOf_spec] at hlt ⊢
    omega
  | map _ =>
    simp only [Kind.map.sizeOf_spec]
    omega
  | array _ =>
    simp only [Kind.array.sizeOf_spec]
    omega

theorem below_iff {schema : Option Schema} {shape : Shape} {q : Pair} :
    Below c (.at schema p shape) q ↔ shape.exempt = false ∧ ∃ s t nullable, schema = some s ∧
      StandsFor c s t nullable ∧ ∃ schema' p' shape',
        BelowAt p t shape.kind schema' p' shape' ∧ q = .at schema' p' shape' := by
  simp only [Below, Pair.at, child_iff_belowAt]

/-- What is reached from an accepted pair is accepted. -/
theorem descend_ok_of_reaches {schema : Option Schema} {shape : Shape} {q : Pair}
    (h : descend c schema p shape = .ok ())
    (hq : Relation.ReflTransGen (Below c) (.at schema p shape) q) :
    ∃ schema' p' shape', q = .at schema' p' shape' ∧ descend c schema' p' shape' = .ok () := by
  induction hq with
  | refl => exact ⟨schema, p, shape, rfl, h⟩
  | tail _ hbelow ih =>
    obtain ⟨schema', p', shape', rfl, hok⟩ := ih
    obtain ⟨hexempt, s, t, nullable, hs, htarget, schema₂, p₂, shape₂, hat, rfl⟩ :=
      below_iff.mp hbelow
    rcases descend_ok_iff.mp hok with hyes | ⟨_, hall⟩
    · rw [hexempt] at hyes
      cases hyes
    · exact ⟨schema₂, p₂, shape₂, rfl, hall s t nullable hs htarget _ _ _ hat⟩

/-- What is reached from an accepted pair is locally consistent unless its shape is exempt. -/
theorem locallyConsistent_of_reaches {schema : Option Schema} {shape : Shape} {q : Pair}
    (h : descend c schema p shape = .ok ())
    (hq : Relation.ReflTransGen (Below c) (.at schema p shape) q)
    (hexempt : q.shape.exempt = false) : LocallyConsistent c q := by
  obtain ⟨schema', p', shape', rfl, hok⟩ := descend_ok_of_reaches h hq
  rcases descend_ok_iff.mp hok with hyes | ⟨hlocal, _⟩
  · have hno : shape'.exempt = false := hexempt
    rw [hno] at hyes
    cases hyes
  · exact hlocal

/-- If everything reached from a pair is locally consistent, the pair is accepted. -/
theorem descend_ok_of_locallyConsistent {schema : Option Schema} {shape : Shape}
    (h : ∀ q, Relation.ReflTransGen (Below c) (.at schema p shape) q → q.shape.exempt = false →
      LocallyConsistent c q) :
    descend c schema p shape = .ok () := by
  -- what lies below has a smaller shape
  induction hn : sizeOf shape using Nat.strongRecOn generalizing schema p shape with
  | _ n ih =>
    rw [descend_ok_iff]
    by_cases hexempt : shape.exempt = true
    · exact Or.inl hexempt
    rw [Bool.not_eq_true] at hexempt
    refine Or.inr ⟨h _ .refl hexempt, ?_⟩
    intro s t nullable hs htarget schema' p' shape' hat
    have hlt : sizeOf shape' < n := by
      have hkind := sizeOf_lt_of_belowAt hat
      obtain ⟨kind, optional, entity, exempt⟩ := shape
      simp only [Shape.mk.sizeOf_spec] at hn hkind
      omega
    have hstep : Below c (.at schema p shape) (.at schema' p' shape') :=
      below_iff.mpr ⟨hexempt, s, t, nullable, hs, htarget, schema', p', shape', hat, rfl⟩
    exact ih (sizeOf shape') hlt (fun q hq => h q (.head hstep hq)) rfl

/-! ## 3. Descents side by side -/

/-- Whatever one descent reaches, the other one reaches something that it is related to, exempt
    alike, and consistent if that is. -/
structure Simulates (c c' : Context) (R : Pair → Pair → Prop) : Prop where
  exempt : ∀ {q q' : Pair}, R q q' → q'.shape.exempt = q.shape.exempt
  agrees : ∀ {q q' : Pair}, R q q' → LocallyConsistent c q → LocallyConsistent c' q'
  below : ∀ {q q' r' : Pair}, R q q' → Below c' q' r' → ∃ r, Below c q r ∧ R r r'

theorem Simulates.reaches {c' : Context} {R : Pair → Pair → Prop} (h : Simulates c c' R)
    {q q' r' : Pair} (hq : R q q') (hr : Relation.ReflTransGen (Below c') q' r') :
    ∃ r, Relation.ReflTransGen (Below c) q r ∧ R r r' := by
  induction hr with
  | refl => exact ⟨q, .refl, hq⟩
  | tail _ hbelow ih =>
    obtain ⟨r, hr, hrelated⟩ := ih
    obtain ⟨next, hnext, hnextRelated⟩ := h.below hrelated hbelow
    exact ⟨next, hr.tail hnext, hnextRelated⟩

/-- **A descent that is simulated by an accepting one accepts.** -/
theorem Simulates.descend_ok {c' : Context} {R : Pair → Pair → Prop} (h : Simulates c c' R)
    {schema schema' : Option Schema} {p' : Position} {shape shape' : Shape}
    (hstart : R (.at schema p shape) (.at schema' p' shape'))
    (hok : descend c schema p shape = .ok ()) : descend c' schema' p' shape' = .ok () := by
  refine descend_ok_of_locallyConsistent fun q' hq' hexempt => ?_
  obtain ⟨q, hq, hrelated⟩ := h.reaches hstart hq'
  rw [h.exempt hrelated] at hexempt
  exact h.agrees hrelated (locallyConsistent_of_reaches hok hq hexempt)

end Consistency

open Consistency in
/-- **The check accepts exactly what is locally consistent everywhere.**  Whatever the schema, the
    shape, the name and the options, the check succeeds if and only if every pair that the parallel
    descent reaches from the root is locally consistent, unless its shape is exempt. -/
theorem Schema.checkShape_ok_iff (o : ConsistencyOptions) (s : Schema) (shape : Shape)
    (rootName : String) :
    s.checkShape o shape rootName = .ok () ↔
      ∀ q, Relation.ReflTransGen (Below ⟨s, o⟩) (.root s shape) q → q.shape.exempt = false →
        LocallyConsistent ⟨s, o⟩ q := by
  constructor
  · intro h q hq hexempt
    obtain ⟨schema', p', shape', rfl, hok⟩ := descend_ok_of_reaches h hq
    rcases descend_ok_iff.mp hok with hyes | ⟨hlocal, _⟩
    · have hno : shape'.exempt = false := hexempt
      rw [hno] at hyes
      cases hyes
    · exact hlocal
  · intro h
    exact descend_ok_of_locallyConsistent (p := .root rootName) h

end SchemaCatalog
