/-
  More permissive options
  =======================
  **Whoever allows more refuses no more.**

  Three of the options decide what the check lets pass: how deep it may go, which fields a
  schema may leave out, and whether a value that is always present may be described as one that
  can be `null`.  Relaxing them, with the prefix of references as it is, changes nothing in
  what lies below what, so the check comes by the same pairs, and each of its local conditions
  only gets weaker (`checkShape_ok_of_relaxed`).
-/
import SchemaCatalog.Proofs.Consistency.Acceptance

namespace SchemaCatalog

/-- The second options allow whatever the first ones allow, of references under the same prefix. -/
structure ConsistencyOptions.Relaxed (o o' : ConsistencyOptions) : Prop where
  definitionsPrefix : o'.definitionsPrefix = o.definitionsPrefix
  serverDefinedFields : o.serverDefinedFields ⊆ o'.serverDefinedFields
  maxDepth : o.maxDepth ≤ o'.maxDepth
  allowNullableRequired : o.allowNullableRequired = true → o'.allowNullableRequired = true

namespace Consistency

variable {root : Schema} {o o' : ConsistencyOptions}

/-! ## 1. References do not depend on what is allowed -/

theorem Names.of_prefix {token : String} {t : Schema}
    (h : o'.definitionsPrefix = o.definitionsPrefix) (hnames : Names ⟨root, o⟩ token t) :
    Names ⟨root, o'⟩ token t := by
  obtain ⟨name, rfl, hget⟩ := hnames
  refine ⟨name, ?_, hget⟩
  rw [h]

theorem StandsFor.of_prefix {s t : Schema} {nullable : Bool}
    (h : o'.definitionsPrefix = o.definitionsPrefix) (hstands : StandsFor ⟨root, o⟩ s t nullable) :
    StandsFor ⟨root, o'⟩ s t nullable := by
  cases hstands with
  | reference href hnames => exact .reference href (hnames.of_prefix h)
  | itself hnone hnil => exact .itself hnone hnil
  | alternative hnone hrefs hearlier hnames =>
    refine .alternative hnone hrefs ?_ (hnames.of_prefix h)
    intro token htoken
    obtain ⟨t', ht'⟩ := hearlier token htoken
    exact ⟨t', ht'.of_prefix h⟩

/-- The same pairs lie below a pair. -/
theorem Below.of_prefix {q r : Pair} (h : o'.definitionsPrefix = o.definitionsPrefix)
    (hbelow : Below ⟨root, o⟩ q r) : Below ⟨root, o'⟩ q r := by
  obtain ⟨hexempt, s, t, nullable, hs, hstands, hchild⟩ := hbelow
  exact ⟨hexempt, s, t, nullable, hs, hstands.of_prefix h, hchild⟩

/-! ## 2. Local conditions that get weaker -/

theorem NullabilityAgrees.relaxed {q : Pair} {nullable : Bool} (h : o.Relaxed o')
    (hagrees : NullabilityAgrees ⟨root, o⟩ q nullable) : NullabilityAgrees ⟨root, o'⟩ q nullable := by
  rcases hagrees with hroot | hentity | hskip | ⟨hrequired, hallowed⟩
  · exact Or.inl hroot
  · exact Or.inr (Or.inl hentity)
  · exact Or.inr (Or.inr (Or.inl hskip))
  · refine Or.inr (Or.inr (Or.inr ⟨hrequired, ?_⟩))
    intro hnullable
    rcases hallowed hnullable with hoptional | hmap | hdynamic | hoption
    · exact Or.inl hoptional
    · exact Or.inr (Or.inl hmap)
    · exact Or.inr (Or.inr (Or.inl hdynamic))
    · exact Or.inr (Or.inr (Or.inr (h.allowNullableRequired hoption)))

theorem ContentAgrees.relaxed {t : Schema} {kind : Kind Shape} (h : o.Relaxed o')
    (hagrees : ContentAgrees ⟨root, o⟩ t kind) : ContentAgrees ⟨root, o'⟩ t kind := by
  cases kind with
  | record fields =>
    obtain ⟨hfields, hproperties⟩ := hagrees
    refine ⟨?_, hproperties⟩
    intro f hf
    obtain ⟨hname, hthere, hclosed⟩ := hfields f hf
    refine ⟨hname, ?_, hclosed⟩
    rcases hthere with hproperty | hserver
    · exact Or.inl hproperty
    · exact Or.inr (h.serverDefinedFields hserver)
  | map value => exact hagrees
  | boolean | integer | number | string | bytes | timestamp | array | dynamic => trivial

/-- **What is locally consistent remains so under relaxed options.** -/
theorem LocallyConsistent.relaxed {q : Pair} (h : o.Relaxed o')
    (hlocal : LocallyConsistent ⟨root, o⟩ q) : LocallyConsistent ⟨root, o'⟩ q := by
  obtain ⟨hdepth, hdynamic, hagrees⟩ := hlocal
  constructor
  · exact Nat.le_trans hdepth h.maxDepth
  · exact hdynamic
  · intro s hs
    obtain ⟨t, nullableRef, typeName, nullableType, hstands, htype, hnullable, hcontent⟩ :=
      hagrees s hs
    refine ⟨t, nullableRef, typeName, nullableType, hstands.of_prefix h.definitionsPrefix, htype,
      hnullable.relaxed h, ?_⟩
    rcases hcontent with hkind | ⟨hname, hcontent⟩
    · exact Or.inl hkind
    · exact Or.inr ⟨hname, hcontent.relaxed h⟩

/-- The descent under the first options simulates the one under the second options. -/
theorem simulates_relaxed (root : Schema) (h : o.Relaxed o') :
    Simulates ⟨root, o⟩ ⟨root, o'⟩ Eq where
  exempt := by
    rintro q _ rfl
    rfl
  agrees := by
    rintro q _ rfl hlocal
    exact hlocal.relaxed h
  below := by
    rintro q _ r rfl hbelow
    exact ⟨r, hbelow.of_prefix h.definitionsPrefix.symm, rfl⟩

end Consistency

/-- **Relaxed options refuse nothing that was accepted.**  Whatever the schema, the shape and the name:
    if the check succeeds, it succeeds under options that have the same prefix, at least the
    same fields that a schema may leave out, at least the same depth, and that let a schema
    accept `null` where the first ones do. -/
theorem Schema.checkShape_ok_of_relaxed {o o' : ConsistencyOptions} (h : o.Relaxed o')
    (s : Schema) (shape : Shape) (rootName : String)
    (hok : s.checkShape o shape rootName = .ok ()) : s.checkShape o' shape rootName = .ok () :=
  (Consistency.simulates_relaxed s h).descend_ok (p := .root rootName) rfl hok

/-- Parcels by their numbers; the weight of a parcel can be `null`, and it says nothing about when
    the parcel was seen. -/
def parcelSchema : Schema where
  type := some (.single "object")
  additionalProperties := some (.schema (.reference "#/definitions/Parcel"))
  definitions := ⟨[("Parcel", .schema {
    type := some (.single "object")
    properties := ⟨[("weight", .schema (.nullable "number"))]⟩ })]⟩

def parcelShape : Shape :=
  .map (.record [.ofName "weight" .number, .ofName "seen" .timestamp])

/-- Just enough for the parcels. -/
def parcelOptions : ConsistencyOptions where
  serverDefinedFields := ["seen"]
  maxDepth := 2
  allowNullableRequired := true

theorem parcelSchema_ok_of_relaxed :
    parcelSchema.checkShape {} parcelShape "Parcels" =
      .error (.notNullable "Parcels[key].weight") ∧
    parcelOptions.Relaxed { parcelOptions with
      serverDefinedFields := ["id", "seen"], maxDepth := 128 } ∧
    parcelSchema.checkShape parcelOptions parcelShape "Parcels" = .ok () ∧
    parcelSchema.checkShape { parcelOptions with
      serverDefinedFields := ["id", "seen"], maxDepth := 128 } parcelShape "Parcels" = .ok () := by
  have hrelaxed : parcelOptions.Relaxed { parcelOptions with
      serverDefinedFields := ["id", "seen"], maxDepth := 128 } :=
    ⟨rfl, by decide, by decide, id⟩
  have hok : parcelSchema.checkShape parcelOptions parcelShape "Parcels" = .ok () := by decide
  exact ⟨by decide, hrelaxed, hok,
    Schema.checkShape_ok_of_relaxed hrelaxed parcelSchema parcelShape "Parcels" hok⟩

end SchemaCatalog
