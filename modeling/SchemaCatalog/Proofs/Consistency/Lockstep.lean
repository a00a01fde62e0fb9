/-
  Descents in lockstep
  ====================
  **Two descents that give the same answer, whichever it is.**

  A descent that is simulated by an accepting one accepts.  Here the two give
  the same answer also where they refuse, so they have to meet the same errors in the same
  order, at positions with the same text.

  What is asked for is a pair of relations.  One holds between the schemas that stand at
  one place, the other one between the schemas that those stand for.  Two descents are in `Lockstep` if
  the first relation leads to the second one by following references, and the second one
  back to the first one by going to the places below.  Then they answer alike from any
  two schemas that the first relation holds for (`Lockstep.descend_eq`).
-/
import SchemaCatalog.Proofs.Consistency.Local
import SchemaCatalog.Proofs.Schema.Replacing

namespace SchemaCatalog.Consistency

open Schema

/-! ## 1. Outcomes that are alike -/

section

variable {α β α' β' : Type} {R : α → α' → Prop} {S : β → β' → Prop}

/-- The same error, or results that are related. -/
inductive Alike (R : α → α' → Prop) : Outcome α → Outcome α' → Prop where
  | error (e : SchemaError) : Alike R (.error e) (.error e)
  | ok {a : α} {a' : α'} : R a a' → Alike R (.ok a) (.ok a')

theorem Alike.refl (x : Outcome α) : Alike (· = ·) x x := by
  cases x with
  | error e => exact .error e
  | ok a => exact .ok rfl

theorem Alike.bind {x : Outcome α} {x' : Outcome α'} {f : α → Outcome β} {f' : α' → Outcome β'}
    (hx : Alike R x x') (hf : ∀ a a', R a a' → Alike S (f a) (f' a')) :
    Alike S (x >>= f) (x' >>= f') := by
  cases hx with
  | error e => exact .error e
  | ok h => exact hf _ _ h

end

/-! ## 2. Schemas that stand for related ones -/

variable {c c' : Context} {p : Position} {Member Stands Reads : Schema → Schema → Prop}

/-- The same options, and definitions that are related one by one. -/
structure DefinesAlike (Reads : Schema → Schema → Prop) (c c' : Context) : Prop where
  options : c'.options = c.options
  definitions : ∀ name, Option.Rel (Subschema.Rel Reads)
    (c.root.definitions.get? name) (c'.root.definitions.get? name)

theorem lookup_alike (hc : DefinesAlike Reads c c') (token : String) :
    Alike Reads (lookup c p token) (lookup c' p token) := by
  rw [lookup, lookup, hc.options]
  split
  · exact .error _
  · next name _ =>
    have hrel := hc.definitions name
    generalize c.root.definitions.get? name = place at hrel
    generalize c'.root.definitions.get? name = place' at hrel
    cases hrel with
    | none => exact .error _
    | some hrel =>
      cases hrel with
      | flag b => exact .error _
      | schema hrel => exact .ok hrel

theorem targetAmong_alike (hc : DefinesAlike Reads c c')
    (hmember : ∀ {s s'}, Member s s' → s'.ref = s.ref ∧ s'.type = s.type)
    {l l' : List (Subschema Schema)} (h : List.Forall₂ (Subschema.Rel Member) l l') :
    ∀ {s s' : Schema} {seen : Bool}, Reads s s' →
      Alike (fun a b => Reads a.1 b.1 ∧ a.2 = b.2) (targetAmong c p (s, seen) l)
        (targetAmong c' p (s', seen) l') := by
  induction h with
  | nil => exact fun hs => .ok ⟨hs, rfl⟩
  | @cons place place' rest rest' hplace _ ih =>
    intro s s' seen hs
    cases hplace with
    | flag b => exact ih hs
    | @schema member member' hrelated =>
      obtain ⟨href, htype⟩ := hmember hrelated
      have hnull : isNullType member' = isNullType member := by
        rw [isNullType, isNullType, htype]
      simp only [targetAmong, hnull, href]
      split
      · exact ih hs
      · cases member.ref with
        | none => exact ih hs
        | some token => exact (lookup_alike hc token).bind fun _ _ hfound => ih hfound

/-- Schemas with the same reference, and with the same references among their alternatives. -/
theorem target_alike (hc : DefinesAlike Reads c c')
    (hmember : ∀ {s s'}, Member s s' → s'.ref = s.ref ∧ s'.type = s.type) {s s' : Schema}
    (href : s'.ref = s.ref) (honeOf : List.Forall₂ (Subschema.Rel Member) s.oneOf s'.oneOf)
    (h : Reads s s') :
    Alike (fun a b => Reads a.1 b.1 ∧ a.2 = b.2) (target c p s) (target c' p s') := by
  rw [target, target, href]
  cases s.ref with
  | none => exact targetAmong_alike hc hmember honeOf h
  | some token => exact (lookup_alike hc token).bind fun _ _ hfound => .ok ⟨hfound, rfl⟩

/-! ## 3. Lockstep -/

/-- Schemas at one place that are related by `Stands` stand for schemas that are related by `Reads`, and
    below those lie again schemas that are related by `Stands`. -/
structure Lockstep (Stands Reads : Schema → Schema → Prop) (c c' : Context) : Prop where
  options : c'.options = c.options
  target : ∀ {p : Position} {s s' : Schema}, Stands s s' →
    Alike (fun a b => Reads a.1 b.1 ∧ a.2 = b.2) (target c p s) (target c' p s')
  face : ∀ {t t' : Schema}, Reads t t' →
    SameFace (Subschema.Rel Stands) (Subschema.Rel Stands) t t'

variable {t t' : Schema}

theorem typeOf_eq (h : t'.type = t.type) : typeOf p t' = typeOf p t := by
  rw [typeOf, typeOf, h]

theorem checkNullable_eq (ho : c'.options = c.options) (shape : Shape) (nullable : Bool) :
    checkNullable c' p shape nullable = checkNullable c p shape nullable := by
  rw [checkNullable, checkNullable, ho]

theorem Lockstep.compareHead_alike (hc : Lockstep Stands Reads c c') (shape : Shape)
    {schema schema' : Option Schema} (h : Option.Rel Stands schema schema') :
    Alike (Option.Rel fun a b => Reads a.1 b.1 ∧ a.2 = b.2)
      (compareHead c p shape schema) (compareHead c' p shape schema') := by
  simp only [compareHead, hc.options]
  split
  · exact .error _
  · cases h with
    | none =>
      simp only
      split
      · exact .ok .none
      · exact .error _
    | some h =>
      apply (hc.target h).bind
      rintro ⟨t, nullable⟩ ⟨t', _⟩ ⟨ht, rfl⟩
      simp only [typeOf_eq (hc.face ht).type, checkNullable_eq hc.options]
      apply (Alike.refl (typeOf p t)).bind
      rintro ⟨typeName, nullableType⟩ _ rfl
      apply (Alike.refl (checkNullable c p shape (nullable || nullableType))).bind
      rintro _ _ rfl
      apply Alike.ok
      split
      · exact .none
      · exact .some ⟨ht, rfl⟩

/-! ### The places below -/

/-- The same position, with related schemas. -/
def Beside (Stands : Schema → Schema → Prop) (q q' : Option Schema × Position) : Prop :=
  Option.Rel Stands q.1 q'.1 ∧ q.2 = q'.2

theorem forall₂_alternativePlaces {l l' : List (Subschema Schema)}
    (h : List.Forall₂ (Subschema.Rel Stands) l l') :
    List.Forall₂ (Beside Stands) (alternativePlaces p l) (alternativePlaces p l') := by
  rw [alternativePlaces, alternativePlaces]
  generalize 0 = start
  induction h generalizing start with
  | nil => exact .nil
  | cons hplace _ ih => exact .cons ⟨hplace.schema?, rfl⟩ (ih (start + 1))

section

variable (h : SameFace (Subschema.Rel Stands) (Subschema.Rel Stands) t t')

include h

theorem forall₂_arrayPlaces :
    List.Forall₂ (Beside Stands) (arrayPlaces p t) (arrayPlaces p t') := by
  rw [arrayPlaces, arrayPlaces]
  apply List.rel_append
  · apply List.rel_append
    · apply List.rel_append
      · exact forall₂_alternativePlaces h.allOf
      · exact forall₂_alternativePlaces h.oneOf
    · exact forall₂_alternativePlaces h.anyOf
  · have hitems := h.items
    generalize t.items = items at hitems
    generalize t'.items = items' at hitems
    cases hitems with
    | none => exact .nil
    | some hitems =>
      cases hitems with
      | each hplace => exact .cons ⟨hplace.schema?, rfl⟩ .nil
      | tuple hplaces =>
        cases hplaces with
        | nil => exact .nil
        | cons hplace _ => exact .cons ⟨hplace.schema?, rfl⟩ .nil

theorem forall₂_mapPlaces : List.Forall₂ (Beside Stands) (mapPlaces p t) (mapPlaces p t') := by
  rw [mapPlaces, mapPlaces]
  apply List.rel_append
  · have hvalue := h.additionalProperties
    generalize t.additionalProperties = value at hvalue
    generalize t'.additionalProperties = value' at hvalue
    cases hvalue with
    | none => exact .nil
    | some hvalue =>
      cases hvalue with
      | flag b => exact .nil
      | schema hvalue => exact .cons ⟨.some hvalue, rfl⟩ .nil
  · rw [List.forall₂_map_left_iff, List.forall₂_map_right_iff]
    refine List.Forall₂.imp ?_ h.properties
    rintro ⟨name, place⟩ ⟨_, place'⟩ ⟨rfl, hplace⟩
    exact ⟨hplace.schema?, rfl⟩

theorem checkField_alike (ho : c'.options = c.options) (declaredName wireName : String) :
    Alike (Option.Rel Stands) (checkField c p t declaredName wireName)
      (checkField c' p t' declaredName wireName) := by
  have hproperty := h.properties.get? wireName
  have hflag : t'.additionalPropertiesFlag = t.additionalPropertiesFlag :=
    optionRel_flag? h.additionalProperties
  have hnone := isNone_eq_of_optionRel hproperty
  simp only [checkField, ho, hflag, hnone]
  split
  · exact .error _
  · split
    · exact .error _
    · split
      · exact .error _
      · exact .ok (optionRel_schema? hproperty)

theorem checkProperties_eq (wireNames : List String) :
    checkProperties p t' wireNames = checkProperties p t wireNames := by
  rw [checkProperties, checkProperties, h.properties.keys]

end

theorem checkPlaces_eq {check check' : Option Schema → Position → Outcome Unit}
    {l l' : List (Option Schema × Position)} (h : List.Forall₂ (Beside Stands) l l')
    (hcheck : ∀ schema schema' p, Option.Rel Stands schema schema' →
      check' schema' p = check schema p) : checkPlaces check' l' = checkPlaces check l := by
  induction h with
  | nil => rfl
  | @cons q q' rest rest' hplace _ ih =>
    obtain ⟨schema, p⟩ := q
    obtain ⟨schema', _⟩ := q'
    obtain ⟨hschema, rfl⟩ := hplace
    simp only [checkPlaces, hcheck _ _ _ hschema, ih]

/-! ### The descent

The three functions of the descent recurse on the shape, and so do these. -/

mutual

/-- **Descents in lockstep give the same answer.** -/
theorem Lockstep.descend_eq (hc : Lockstep Stands Reads c c') :
    ∀ (shape : Shape) (p : Position) {schema schema' : Option Schema},
      Option.Rel Stands schema schema' →
      descend c' schema' p shape = descend c schema p shape
  | ⟨kind, optional, entity, exempt⟩, p, schema, schema', h => by
    rw [descend, descend]
    split
    · rfl
    · have halike := hc.compareHead_alike (p := p) ⟨kind, optional, entity, exempt⟩ h
      generalize compareHead c p _ schema = head at halike
      generalize compareHead c' p _ schema' = head' at halike
      cases halike with
      | error e => rfl
      | ok hresult =>
        cases hresult with
        | none => rfl
        | @some a b hab =>
          obtain ⟨t, typeName⟩ := a
          obtain ⟨t', _⟩ := b
          obtain ⟨ht, rfl⟩ := hab
          exact hc.descendKind_eq kind p typeName ht

theorem Lockstep.descendKind_eq (hc : Lockstep Stands Reads c c') :
    ∀ (kind : Kind Shape) (p : Position) (typeName : String) {t t' : Schema}, Reads t t' →
      descendKind c' t' typeName p kind = descendKind c t typeName p kind
  | .record fields, p, typeName, t, t', h => by
    rw [descendKind, descendKind, hc.descendFields_eq fields p h, checkProperties_eq (hc.face h)]
  | .map value, p, typeName, t, t', h => by
    have hflag : t'.additionalPropertiesFlag = t.additionalPropertiesFlag :=
      optionRel_flag? (hc.face h).additionalProperties
    rw [descendKind, descendKind, hflag, checkPlaces_eq (forall₂_mapPlaces (hc.face h))
      fun _ _ p hschema => hc.descend_eq value p hschema]
  | .array element, p, typeName, t, t', h => by
    rw [descendKind, descendKind, checkPlaces_eq (forall₂_arrayPlaces (hc.face h))
      fun _ _ p hschema => hc.descend_eq element p hschema]
  | .boolean, _, _, _, _, _ | .integer, _, _, _, _, _ | .number, _, _, _, _, _
  | .string, _, _, _, _, _ | .bytes, _, _, _, _, _ | .timestamp, _, _, _, _, _
  | .dynamic, _, _, _, _, _ => by rfl

theorem Lockstep.descendFields_eq (hc : Lockstep Stands Reads c c') :
    ∀ (fields : List (Field Shape)) (p : Position) {t t' : Schema}, Reads t t' →
      descendFields c' t' p fields = descendFields c t p fields
  | [], _, _, _, _ => rfl
  | ⟨declaredName, wireName, type, skipWhenEmpty⟩ :: rest, p, t, t', h => by
    have halike := checkField_alike (p := p) (hc.face h) hc.options declaredName wireName
    rw [descendFields, descendFields]
    generalize checkField c p t declaredName wireName = property at halike
    generalize checkField c' p t' declaredName wireName = property' at halike
    cases halike with
    | error e => rfl
    | ok hproperty =>
      cases hproperty with
      | none => exact hc.descendFields_eq rest p h
      | some hproperty =>
        simp only [hc.descend_eq type _ (.some hproperty), hc.descendFields_eq rest p h]

end

end SchemaCatalog.Consistency
