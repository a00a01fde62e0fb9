/-
  Checksums of schemas
  ====================
  **Two schemas have the same checksum exactly if they are the same up to the
  examples at their root.**

  A checksum digests the compact text of the canonical form, and nothing is
  lost on the way to that text: a well-formed schema is determined by its
  value, and a well-formed value by its text.  So for schemas that have been
  read from JSON the checksums tell canonical forms apart, unless the digest
  collides on the two texts at hand; that it does not is a hypothesis.

  The same is said of the documents that the schemas have been read from.
  What a document says (`Json.substance`) is its value without the members
  that say nothing and without the examples at its root, and checksums are
  equal exactly if the documents say the same.  The order of members does not
  matter, because it is no part of the value (`Source.Reordered.toJson_eq`).

  All else counts, at any depth: examples below the root, a type name or the
  list of that one name, and the form of a number.  Equality is that of the
  data, so `1` and `1.0` are different, and so are `0.0` and `-0.0`, whose
  texts differ.
-/
import SchemaCatalog.Proofs.Collector.OrderIndependence
import SchemaCatalog.Proofs.Schema.Agreement
import SchemaCatalog.Proofs.Schema.Replacing

namespace SchemaCatalog

/-! ## 1. The order of members -/

namespace Source

/-- The sources differ at most in the order of members: neighbours of different names have been
    exchanged, at any depth.  Members of one name stay in their order, as the last of them
    counts. -/
inductive Reordered : Source → Source → Prop where
  | refl (s : Source) : Reordered s s
  | trans {s t u : Source} : Reordered s t → Reordered t u → Reordered s u
  | exchange {before after : List (Except SyntaxError String × Source)}
      {e f : Except SyntaxError String × Source} {ending : Option Break} : e.1 ≠ f.1 →
      Reordered (.obj (before ++ e :: f :: after) ending) (.obj (before ++ f :: e :: after) ending)
  | member {before after : List (Except SyntaxError String × Source)}
      {key : Except SyntaxError String} {s t : Source} {ending : Option Break} : Reordered s t →
      Reordered (.obj (before ++ (key, s) :: after) ending)
        (.obj (before ++ (key, t) :: after) ending)
  | element {before after : List Source} {s t : Source} {ending : Option Break} : Reordered s t →
      Reordered (.arr (before ++ s :: after) ending) (.arr (before ++ t :: after) ending)

theorem toMembers_append (l m : List (Except SyntaxError String × Source)) (acc : Table Json) :
    toMembers acc (l ++ m) = toMembers (toMembers acc l) m := by
  induction l generalizing acc with
  | nil => rfl
  | cons e rest ih =>
    obtain ⟨error | k, s⟩ := e
    · exact ih acc
    · exact ih (acc.insert k s.toJson)

theorem sorted_toMembers {acc : Table Json} (h : acc.Sorted)
    (l : List (Except SyntaxError String × Source)) : (toMembers acc l).Sorted := by
  induction l generalizing acc with
  | nil => exact h
  | cons e rest ih =>
    obtain ⟨error | k, s⟩ := e
    · exact ih h
    · exact ih (h.insert k s.toJson)

/-- Neighbours of different names can be added in either order. -/
theorem toMembers_exchange {acc : Table Json} (h : acc.Sorted)
    {e f : Except SyntaxError String × Source} (hne : e.1 ≠ f.1)
    (rest : List (Except SyntaxError String × Source)) :
    toMembers acc (e :: f :: rest) = toMembers acc (f :: e :: rest) := by
  obtain ⟨error | j, s⟩ := e
  · obtain ⟨error' | k, t⟩ := f <;> rfl
  · obtain ⟨error | k, t⟩ := f
    · rfl
    · have hnames : j ≠ k := fun heq => hne (congrArg Except.ok heq)
      exact congrArg (toMembers · rest) (h.insert_comm hnames s.toJson t.toJson)

/-- **The order of members is no part of the value.** -/
theorem Reordered.toJson_eq {s t : Source} (h : s.Reordered t) : s.toJson = t.toJson := by
  induction h with
  | refl s => rfl
  | trans _ _ hst htu => exact hst.trans htu
  | @exchange before after e f ending hne =>
    have hbefore : (toMembers {} before).Sorted := sorted_toMembers List.Pairwise.nil before
    rw [toJson, toJson, toMembers_append, toMembers_append, toMembers_exchange hbefore hne]
  | @member before after key s t ending _ ih =>
    rw [toJson, toJson, toMembers_append, toMembers_append]
    cases key with
    | error e => rfl
    | ok k => rw [toMembers, toMembers, ih]
  | @element before after s t ending _ ih =>
    rw [toJson, toJson, toElements_eq_map, toElements_eq_map, List.map_append, List.map_append,
      List.map_cons, List.map_cons, ih]

end Source

/-! ## 2. What a document says -/

namespace Json

/-- The value without its member of a name. -/
def without (name : String) : Json → Json
  | .obj t => .obj (t.erase name)
  | v => v

/-- What a document says of a schema: everything but the members that say nothing and the examples
    at its root. -/
def substance (v : Json) : Json := v.pruned.without "examples"

end Json

namespace Schema

/-- The schema has been read from this source: that of a text, or that of a value in memory. -/
inductive ReadFrom : Source → Schema → Prop where
  | text {bytes : Bytes} {s : Schema} : ofBytes bytes = .ok s →
      ReadFrom (Document.ofBytes bytes).root s
  | value {v : Json} {s : Schema} : v.WellFormed → ofJson v = .ok s → ReadFrom (.ofJson v) s

/-- Without its examples a schema is written without that member. -/
theorem WellFormed.canonical_toJson {s : Schema} (h : s.WellFormed) :
    s.canonical.toJson = s.toJson.without "examples" := by
  obtain ⟨t, ht, hsorted⟩ := h.exists_toJson_eq_obj
  have hget (key : String) : s.written key = t.get? key := by
    rw [written, ← toJson_get? h, ht]
    rfl
  rw [ht]
  refine h.canonical.toJson_eq_obj (hsorted.erase "examples") fun key => ?_
  -- the examples are the last keyword with a field of its own
  have hslots : s.canonical.slots = s.slots.set 13 none := rfl
  have hwritten : s.canonical.written key = if key = "examples" then none else s.written key :=
    written_set 13 rfl hslots rfl (h.extra_get?_keyword (by decide)) key
  rw [hwritten, Table.get?_erase, hget]

namespace ReadFrom

variable {source : Source} {s : Schema} (h : ReadFrom source s)
include h

theorem isRead : s.IsRead := by
  cases h with
  | text hread => exact .text hread
  | value hv hread => exact .value hv hread

theorem wellFormed : s.WellFormed := h.isRead.wellFormed

/-- Whatever a schema has been read from, it is written as the value of that, pruned. -/
theorem toJson_eq : s.toJson = source.toJson.pruned := by
  cases h with
  | @text bytes _ hread =>
    have hcanonical := Document.ofBytes_canonical bytes
    obtain ⟨hroot, _⟩ := readText_ok_iff.mp hread
    have hagrees := read_agrees hcanonical (clear_of_read hroot) Medium.unlimited_value
    exact toJson_of_read hcanonical.toJson (hagrees.forth s hroot)
  | value hv hread =>
    rw [Source.toJson_ofJson hv]
    exact toJson_of_read hv hread

/-- **The canonical form of a schema is what its document says.** -/
theorem canonical_toJson : s.canonical.toJson = source.toJson.substance := by
  rw [h.wellFormed.canonical_toJson, h.toJson_eq, Json.substance]

end ReadFrom

/-! ## 3. Checksums -/

/-- Below the root the examples at the root are not seen. -/
theorem node?_canonical {path : List Step} (h : path ≠ []) (s : Schema) :
    node? path s.canonical = node? path s := by
  obtain _ | ⟨step, rest⟩ := path
  · exact absurd rfl h
  · cases step <;> rfl

/-- Schemas of one canonical form have the same at the end of every path, but for the examples at
    their root. -/
theorem nodes_eq_of_canonical_eq {a b : Schema} (h : a.canonical = b.canonical)
    {path : List Step} {p q : Schema} (hp : node? path a = some p) (hq : node? path b = some q) :
    p.canonical = q.canonical ∧ (path ≠ [] → p.examples = q.examples) := by
  by_cases hpath : path = []
  · subst hpath
    obtain rfl := Option.some.inj hp
    obtain rfl := Option.some.inj hq
    exact ⟨h, fun hne => absurd rfl hne⟩
  · rw [← node?_canonical hpath, h, node?_canonical hpath, hq] at hp
    obtain rfl := Option.some.inj hp
    exact ⟨rfl, fun _ => rfl⟩

/-- **Checksums decide equality up to the examples at the root.**  Two schemas that have been read
    from JSON have one checksum exactly if they are equal without those examples, and exactly if
    their documents say the same, for which the order of members does not matter.  If at the end of
    some path the two differ in the form of their type, in a keyword without a field of its own or,
    below the root, in their examples, their checksums are different. -/
theorem checksum_eq_iff {s t : Source} {a b : Schema} (ha : ReadFrom s a) (hb : ReadFrom t b)
    (hdigest : Sha256.digest a.serialForm = Sha256.digest b.serialForm →
      a.serialForm = b.serialForm) :
    (a.checksum = b.checksum ↔ { a with examples := [] } = { b with examples := [] }) ∧
    (a.checksum = b.checksum ↔ s.toJson.substance = t.toJson.substance) ∧
    (s.Reordered t → a.checksum = b.checksum) ∧
    ∀ path p q, a.node? path = some p → b.node? path = some q →
      p.type ≠ q.type ∨ p.extra ≠ q.extra ∨ path ≠ [] ∧ p.examples ≠ q.examples →
      a.checksum ≠ b.checksum := by
  have hcanonical : a.checksum = b.checksum ↔ a.canonical = b.canonical :=
    ⟨fun h => canonical_eq_of_serialForm_eq ha.wellFormed hb.wellFormed (hdigest h),
      Collector.checksum_congr⟩
  have hsubstance : a.checksum = b.checksum ↔ s.toJson.substance = t.toJson.substance := by
    rw [hcanonical, ← ha.canonical_toJson, ← hb.canonical_toJson]
    exact ⟨congrArg toJson,
      eq_of_toJson_eq ha.wellFormed.canonical b.canonical hb.wellFormed.canonical⟩
  refine ⟨hcanonical, hsubstance, fun h => ?_, fun path p q hp hq hdiffer h => ?_⟩
  · exact hsubstance.mpr (congrArg Json.substance h.toJson_eq)
  · obtain ⟨hform, hexamples⟩ := nodes_eq_of_canonical_eq (hcanonical.mp h) hp hq
    have htype : p.canonical.type = q.canonical.type := congrArg Schema.type hform
    have hextra : p.canonical.extra = q.canonical.extra := congrArg Schema.extra hform
    rcases hdiffer with hne | hne | ⟨hpath, hne⟩
    · exact hne htype
    · exact hne hextra
    · exact hne (hexamples hpath)

/-- A schema with a property that has a default. -/
def pricedSchema (price : Number) : Schema :=
  { type := some (.single "object")
    properties := ⟨[("price", .schema { extra := ⟨[("default", .num price)]⟩ })]⟩ }

/-- The same with an example. -/
def sampledSchema : Schema := { pricedSchema (.int 1) with examples := [.obj {}] }

/-- A text with an example, with a table and a list that are empty, and with its members out of
    order. -/
def sampledText : Bytes := Bytes.ofString <|
  "\x7b\"type\": \"object\", \"required\": [], \"examples\": [\x7b\x7d], \"definitions\": " ++
  "\x7b\x7d, \"properties\": \x7b\"price\": \x7b\"default\": 1\x7d\x7d\x7d"

def plainText : Bytes := Bytes.ofString <|
  "\x7b\"properties\": \x7b\"price\": \x7b\"default\": 1\x7d\x7d, \"type\": \"object\"\x7d"

/-- The same text with a fraction. -/
def fractionalText : Bytes := Bytes.ofString <|
  "\x7b\"properties\": \x7b\"price\": \x7b\"default\": 1.0\x7d\x7d, \"type\": \"object\"\x7d"

/-- The number `1.0`. -/
def fractionalOne : Number := .float ⟨false, 4503599627370496, -52⟩

/-- The first two texts have one checksum; the third has another one. -/
theorem pricedSchema_checksum_eq_iff :
    ReadFrom (Document.ofBytes sampledText).root sampledSchema ∧
    ReadFrom (Document.ofBytes plainText).root (pricedSchema (.int 1)) ∧
    ReadFrom (Document.ofBytes fractionalText).root (pricedSchema fractionalOne) ∧
    (Sha256.digest sampledSchema.serialForm = Sha256.digest (pricedSchema (.int 1)).serialForm →
      sampledSchema.serialForm = (pricedSchema (.int 1)).serialForm) ∧
    (Sha256.digest (pricedSchema (.int 1)).serialForm =
        Sha256.digest (pricedSchema fractionalOne).serialForm →
      (pricedSchema (.int 1)).serialForm = (pricedSchema fractionalOne).serialForm) ∧
    sampledSchema.checksum = (pricedSchema (.int 1)).checksum ∧
    (Document.ofBytes sampledText).root.toJson.substance =
      (Document.ofBytes plainText).root.toJson.substance ∧
    (pricedSchema (.int 1)).checksum ≠ (pricedSchema fractionalOne).checksum := by
  have hsampled : ofBytes sampledText = .ok sampledSchema := by decide +kernel
  have hplain : ofBytes plainText = .ok (pricedSchema (.int 1)) := by decide +kernel
  have hfractional : ofBytes fractionalText = .ok (pricedSchema fractionalOne) := by decide +kernel
  have hsame : Sha256.digest sampledSchema.serialForm =
      Sha256.digest (pricedSchema (.int 1)).serialForm →
      sampledSchema.serialForm = (pricedSchema (.int 1)).serialForm := fun _ => rfl
  have hapart : Sha256.digest (pricedSchema (.int 1)).serialForm =
      Sha256.digest (pricedSchema fractionalOne).serialForm →
      (pricedSchema (.int 1)).serialForm = (pricedSchema fractionalOne).serialForm := by
    decide +kernel
  obtain ⟨hcanonical, hsubstance, _, _⟩ := checksum_eq_iff (.text hsampled) (.text hplain) hsame
  obtain ⟨_, _, _, hpaths⟩ := checksum_eq_iff (.text hplain) (.text hfractional) hapart
  have hequal : sampledSchema.checksum = (pricedSchema (.int 1)).checksum := hcanonical.mpr rfl
  refine ⟨.text hsampled, .text hplain, .text hfractional, hsame, hapart, hequal,
    hsubstance.mp hequal, hpaths [.property "price"] _ _ rfl rfl (Or.inr (Or.inl ?_))⟩
  decide

end Schema

end SchemaCatalog
