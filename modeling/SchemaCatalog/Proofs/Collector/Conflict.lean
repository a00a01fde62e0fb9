/-
  Conflicting definitions
  =======================
  **The difference that a conflict is reported with is faithful to both schemas.**

  An addition fails where a definition is refused, it or one inside it, and
  the collector stays as it is then; so the entry that was compared can
  still be looked up (`exists_refused_of_add_error`).  Definitions conflict by
  their checksums, and the difference is of their pretty texts, in which the
  keywords stand in another order than in the text that is digested.  But a
  pretty text determines the schema, up to its examples, so schemas with
  different checksums have different texts, and some line differs.
-/
import SchemaCatalog.Proofs.Collector.Upkeep
import SchemaCatalog.Proofs.Json.Pretty
import SchemaCatalog.Proofs.Text.LineDiff

namespace SchemaCatalog

/-! ## 1. The pretty text of a schema -/

namespace Json

theorem orderedElements_eq : ∀ l : List Json, orderedElements l = l.map ordered
  | [] => rfl
  | v :: rest => by rw [orderedElements, orderedElements_eq rest, List.map_cons]

theorem orderedMembers_eq : ∀ l : List (String × Json),
    orderedMembers l = l.map fun e => (e.1, e.2.ordered)
  | [] => rfl
  | (k, v) :: rest => by rw [orderedMembers, orderedMembers_eq rest, List.map_cons]

theorem WellFormed.ordered {v : Json} (h : v.WellFormed) : v.ordered.Canonical := by
  induction h with
  | null => exact .scalar .null
  | bool b => exact .scalar (.bool b)
  | num hn => exact .scalar (.num hn)
  | str s => exact .scalar (.str s)
  | arr _ ih =>
    rw [Json.ordered, orderedElements_eq]
    exact .arr (List.forall_mem_map.mpr ih)
  | obj _ _ ih =>
    rw [Json.ordered, orderedMembers_eq]
    exact .obj (List.forall_mem_map.mpr ih)

end Json

namespace Schema

theorem orderedList_eq : ∀ l : List (Subschema Schema), orderedList l = l.map orderedSub
  | [] => rfl
  | s :: rest => by rw [orderedList, orderedList_eq rest, List.map_cons]

theorem orderedEntries_eq : ∀ l : List (String × Subschema Schema),
    orderedEntries l = l.map fun e => (e.1, orderedSub e.2)
  | [] => rfl
  | (k, s) :: rest => by rw [orderedEntries, orderedEntries_eq rest, List.map_cons]

/-- The numbers in these members are in canonical form. -/
def AllCanonical (l : List (String × OrderedJson)) : Prop := ∀ e ∈ l, e.2.Canonical

theorem AllCanonical.append {l m : List (String × OrderedJson)} (hl : AllCanonical l)
    (hm : AllCanonical m) : AllCanonical (l ++ m) :=
  List.forall_mem_append.mpr ⟨hl, hm⟩

section

variable {keyword : String}

theorem allCanonical_nil : AllCanonical [] := nofun

theorem allCanonical_singleton {v : OrderedJson} (h : v.Canonical) : AllCanonical [(keyword, v)] :=
  List.forall_mem_singleton.mpr h

theorem canonical_list {l : List (Subschema Schema)} (h : ∀ p ∈ l, (orderedSub p).Canonical) :
    (OrderedJson.arr (orderedList l)).Canonical := by
  rw [orderedList_eq]
  exact .arr (List.forall_mem_map.mpr h)

theorem canonical_strings (l : List String) : (OrderedJson.arr (l.map .str)).Canonical :=
  .arr (List.forall_mem_map.mpr fun name _ => .scalar (.str name))

theorem allCanonical_table {t : Definitions} (h : ∀ p ∈ t.values, (orderedSub p).Canonical) :
    AllCanonical (orderedTable keyword t.entries) := by
  obtain ⟨_ | ⟨e, rest⟩⟩ := t
  · exact allCanonical_nil
  · refine allCanonical_singleton (.obj ?_)
    rw [← orderedEntries, orderedEntries_eq]
    exact List.forall_mem_map.mpr fun e he => h _ (List.mem_map_of_mem he)

theorem allCanonical_items {i : Option (Items Schema)}
    (h : ∀ p ∈ itemPlaces i, (orderedSub p).Canonical) : AllCanonical (orderedItems i) := by
  rcases i with _ | (p | l)
  · exact allCanonical_nil
  · exact allCanonical_singleton (h p List.mem_cons_self)
  · exact allCanonical_singleton (canonical_list h)

theorem allCanonical_option {s : Option (Subschema Schema)}
    (h : ∀ p ∈ s.toList, (orderedSub p).Canonical) : AllCanonical (orderedOption keyword s) := by
  cases s with
  | none => exact allCanonical_nil
  | some p => exact allCanonical_singleton (h p List.mem_cons_self)

theorem allCanonical_alternatives {l : List (Subschema Schema)}
    (h : ∀ p ∈ l, (orderedSub p).Canonical) : AllCanonical (orderedAlternatives keyword l) := by
  cases l with
  | nil => exact allCanonical_nil
  | cons s rest => exact allCanonical_singleton (canonical_list h)

end

theorem canonical_typeNames (t : TypeNames) : t.ordered.Canonical := by
  cases t with
  | single name => exact .scalar (.str name)
  | union names => exact canonical_strings names

/-- **What is written of a well-formed schema has its numbers in canonical form.** -/
theorem WellFormed.ordered {s : Schema} (h : s.WellFormed) : s.ordered.Canonical := by
  induction h with
  | @intro s _ _ _ _ hvalues hexamples _ ih =>
    have hplaces : ∀ p ∈ s.places, (orderedSub p).Canonical := by
      intro p hp
      cases p with
      | flag b => exact .scalar (.bool b)
      | schema t => exact ih t hp
    obtain ⟨hproperties, hitems, hadditionalItems, hcontains, hadditional, hallOf, hanyOf, honeOf,
      hnot, hdefinitions⟩ := forall_mem_places_iff.mp hplaces
    obtain ⟨ref, type, ⟨properties⟩, items, additionalItems, contains, additionalProperties, allOf,
      anyOf, oneOf, not, ⟨definitions⟩, required, examples, extra⟩ := s
    have href : AllCanonical (ref.map fun r => ("$ref", OrderedJson.str r)).toList := by
      cases ref with
      | none => exact allCanonical_nil
      | some r => exact allCanonical_singleton (.scalar (.str r))
    have htype : AllCanonical (type.map fun t => ("type", t.ordered)).toList := by
      cases type with
      | none => exact allCanonical_nil
      | some t => exact allCanonical_singleton (canonical_typeNames t)
    have hrequired : AllCanonical (if required.isEmpty then []
        else [("required", .arr (required.map .str))]) := by
      split
      · exact allCanonical_nil
      · exact allCanonical_singleton (canonical_strings required)
    have hkept : AllCanonical (if examples.isEmpty then []
        else [("examples", .arr (examples.map Json.ordered))]) := by
      split
      · exact allCanonical_nil
      · have hall := List.forall_mem_map.mpr fun v hv => (hexamples v hv).ordered
        exact allCanonical_singleton (.arr hall)
    have hextra : AllCanonical (extra.entries.map fun e => (e.1, e.2.ordered)) :=
      List.forall_mem_map.mpr fun e he => (hvalues e he).ordered
    rw [Schema.ordered]
    refine .obj ?_
    exact href.append htype
      |>.append (allCanonical_table hproperties)
      |>.append (allCanonical_items hitems)
      |>.append (allCanonical_option hadditionalItems)
      |>.append (allCanonical_option hcontains)
      |>.append (allCanonical_option hadditional)
      |>.append (allCanonical_alternatives hallOf)
      |>.append (allCanonical_alternatives hanyOf)
      |>.append (allCanonical_alternatives honeOf)
      |>.append (allCanonical_option hnot)
      |>.append (allCanonical_table hdefinitions)
      |>.append hrequired |>.append hkept |>.append hextra

/-- **Schemas with different checksums have different pretty texts**, both without their
    examples. -/
theorem lines_ne_of_checksum_ne {s t : Schema} (hs : s.WellFormed) (ht : t.WellFormed)
    (h : s.checksum ≠ t.checksum) : s.canonical.lines ≠ t.canonical.lines := by
  intro hlines
  have hordered := OrderedJson.eq_of_lines_eq hs.canonical.ordered ht.canonical.ordered hlines
  exact h (by rw [checksum, checksum, toJson, toJson, hordered])

end Schema

/-! ## 2. Where an addition fails -/

namespace Collector

variable {c c' : Collector} {name : String} {s : Schema} {e : SchemaError}

theorem exists_refused_of_addEntries_error {l : List (String × Subschema Schema)}
    (each : ∀ key d, (key, .schema d) ∈ l → ∀ c c' : Collector, c.add key d = (c', .error e) →
      ∃ p ∈ contributions key d, c'.decide p.1 p.2 = .refuse e) :
    ∀ c : Collector, c.addEntries l = (c', .error e) →
      ∃ p ∈ contributionsOf l, c'.decide p.1 p.2 = .refuse e := by
  induction l with
  | nil => exact fun c h => by cases h
  | cons entry rest ih =>
    have hrest := ih fun key d hmem => each key d (List.mem_cons_of_mem _ hmem)
    intro c h
    obtain ⟨key, b | d⟩ := entry
    · exact hrest c h
    · rw [addEntries] at h
      rcases hadd : c.add key d with ⟨c₁, e₁ | ⟨⟩⟩
      · rw [hadd] at h
        cases h
        obtain ⟨p, hp, hrefuse⟩ := each key d List.mem_cons_self c c' hadd
        exact ⟨p, List.mem_append_left _ hp, hrefuse⟩
      · rw [hadd] at h
        obtain ⟨p, hp, hrefuse⟩ := hrest c₁ h
        exact ⟨p, List.mem_append_right _ hp, hrefuse⟩

/-- **An addition that fails was refused a definition**, itself or one inside it, by the collector
    that it leaves. -/
theorem exists_refused_of_add_error (s : Schema) : ∀ (name : String) (c c' : Collector),
    c.add name s = (c', .error e) → ∃ p ∈ contributions name s, c'.decide p.1 p.2 = .refuse e := by
  induction s using Schema.inductionOnDefinitions with
  | step s ih =>
    intro name c c' h
    rcases add_error_cases h with ⟨hrefuse, rfl⟩ | ⟨key, entry, _, hinside⟩
    · exact ⟨_, self_mem_contributions name s, hrefuse⟩
    · obtain ⟨p, hp, hrefuse⟩ :=
        exists_refused_of_addEntries_error (fun key d hd => ih key d hd key) _ hinside
      exact ⟨p, contributions_eq name s ▸ List.mem_cons_of_mem _ hp, hrefuse⟩

/-- A conflict is with the entry of the same name, and by the checksums. -/
theorem decide_conflict {n diff : String}
    (h : c.decide name s = .refuse (.conflictingDefinition n diff)) :
    n = name ∧ ∃ old, c.entries.get? (lowercase name) = some old ∧ old.name = name ∧
      old.checksum ≠ s.checksum ∧ diff = Schema.diffText old.schema s := by
  simp only [Collector.decide] at h
  split at h
  · cases h
  · split at h
    · cases h
    · next old hold =>
      split at h
      · cases h
      · next hspelled =>
        split at h
        · next hchecksum =>
          cases h
          exact ⟨rfl, old, hold, Classical.not_not.mp hspelled, hchecksum, rfl⟩
        · split at h <;> cases h

/-- What has grown from nothing has been brought. -/
theorem Grown.mem_of_get? {brought : List (String × Schema)} (h : Grown {} c brought)
    {key : String} {entry : Entry} (hget : c.entries.get? key = some entry) :
    (entry.name, entry.schema) ∈ brought := by
  rcases h.origin key entry hget with hempty | ⟨_, _, hmem⟩
  · cases hempty
  · exact hmem

/-! ## 3. The difference -/

/-- What a conflict says: the definition under this name in the collector and the one that was
    rejected differ, and the difference is faithful to the pretty texts of both. -/
structure Conflict (stored rejected : Schema) (diff : String) : Prop where
  marked : ∀ line ∈ Text.lines diff, ∃ mark ∈ [' ', '-', '+'], line.toList.head? = some mark
  stored_eq : LineDiff.withMark [' ', '-'] (Text.lines diff) =
    Text.lines stored.canonical.ordered.pretty
  rejected_eq : LineDiff.withMark [' ', '+'] (Text.lines diff) =
    Text.lines rejected.canonical.ordered.pretty
  changed : ∃ line ∈ Text.lines diff,
    line.toList.head? = some '-' ∨ line.toList.head? = some '+'

theorem conflict_diffText {stored rejected : Schema} (hs : stored.WellFormed)
    (ht : rejected.WellFormed) (h : stored.checksum ≠ rejected.checksum) :
    Conflict stored rejected (Schema.diffText stored rejected) := by
  have hlines {s : Schema} (h : s.WellFormed) :
      Text.lines s.canonical.ordered.pretty = s.canonical.lines :=
    OrderedJson.lines_pretty h.canonical.ordered
  have hfaithful : LineDiff.Faithful stored.canonical.lines rejected.canonical.lines
      (Schema.diffText stored rejected) :=
    LineDiff.faithful_diffText (OrderedJson.oneLine_of_mem_lines hs.canonical.ordered)
      (OrderedJson.oneLine_of_mem_lines ht.canonical.ordered)
  exact ⟨hfaithful.marked, hfaithful.old_eq.trans (hlines hs).symm,
    hfaithful.new_eq.trans (hlines ht).symm,
    hfaithful.changed (Schema.lines_ne_of_checksum_ne hs ht h)⟩

/-- **A conflict is reported with a faithful difference.**  The definition that was rejected is the
    one that was to be added or one inside it; the collector that is left has a definition of the
    same name, and the lines of the difference are marked by where they stand: those of the
    stored schema, those of the rejected one, and at least one in which they differ. -/
theorem add_conflict_faithful (l : List (String × Schema)) (c : Collector)
    (hreached : c = (Collector.addEach {} l).1) (name : String) (s : Schema)
    (hread : ∀ p ∈ l ++ [(name, s)], p.2.IsRead) (n diff : String)
    (h : (c.add name s).2 = .error (.conflictingDefinition n diff)) :
    ∃ stored rejected, (c.add name s).1.get? n = some stored ∧
      (n, rejected) ∈ contributions name s ∧
      (c.add name s).1.decide n rejected = .refuse (.conflictingDefinition n diff) ∧
      Conflict stored rejected diff := by
  have hkept : (c.add name s).1.WellKept := by
    rw [hreached]
    exact wellKept_empty.addEach.add name s
  have hgrown : Grown {} (c.add name s).1 (allContributions (l ++ [(name, s)])) := by
    rw [hreached, allContributions, List.flatMap_append, List.flatMap_singleton]
    exact ((addEach_grown {}).mono fun p hp => List.mem_append_left _ hp).trans
      ((add_grown s _ name).mono fun p hp => List.mem_append_right _ hp)
  have hwellFormed : ∀ p ∈ allContributions (l ++ [(name, s)]), p.2.WellFormed := by
    intro p hp
    obtain ⟨e, he, hp⟩ := List.mem_flatMap.mp hp
    exact wellFormed_of_mem_contributions (hread e he).wellFormed e.1 p hp
  rcases hadd : c.add name s with ⟨c', outcome⟩
  simp only [hadd] at h hkept hgrown ⊢
  subst h
  obtain ⟨⟨key, rejected⟩, hrejected, hrefuse⟩ := exists_refused_of_add_error s name c c' hadd
  obtain ⟨rfl, old, hold, hname, hchecksum, hdiff⟩ := decide_conflict hrefuse
  have hstored : old.schema.WellFormed := hwellFormed _ (hgrown.mem_of_get? hold)
  have hown : old.checksum = old.schema.checksum :=
    hkept.digested _ (Table.mem_of_get? hold)
  refine ⟨old.schema, rejected, ?_, hrejected, hrefuse,
    hdiff ▸ conflict_diffText hstored ?_ ?_⟩
  · simp only [get?, hold, hname, if_true]
  · refine hwellFormed _ (List.mem_flatMap.mpr ⟨(name, s), ?_, hrejected⟩)
    exact List.mem_append_right _ List.mem_cons_self
  · rwa [← hown]

/-- A pet with a tag of another type inside. -/
def conflictingSchema : Schema where
  type := some (.single "object")
  definitions := ⟨[("Tag", .schema (.ofType "integer"))]⟩

/-- The difference of the two tags. -/
def tagDiff : String := " \x7b\n-  \"type\": \"string\"\n+  \"type\": \"integer\"\n \x7d\n"

theorem conflictingSchema_faithful :
    tagCollector = (Collector.addEach {} [("Tag", .ofType "string")]).1 ∧
    (∀ p ∈ [("Tag", Schema.ofType "string")] ++ [("Pet", conflictingSchema)], p.2.IsRead) ∧
    (tagCollector.add "Pet" conflictingSchema).2 =
      .error (.conflictingDefinition "Tag" tagDiff) ∧
    ∃ stored rejected, (tagCollector.add "Pet" conflictingSchema).1.get? "Tag" = some stored ∧
      ("Tag", rejected) ∈ contributions "Pet" conflictingSchema ∧
      (tagCollector.add "Pet" conflictingSchema).1.decide "Tag" rejected =
        .refuse (.conflictingDefinition "Tag" tagDiff) ∧
      Conflict stored rejected tagDiff := by
  have hreached : tagCollector = (Collector.addEach {} [("Tag", .ofType "string")]).1 := by
    decide +kernel
  have hread : ∀ p ∈ [("Tag", Schema.ofType "string")] ++ [("Pet", conflictingSchema)],
      p.2.IsRead := by
    refine List.forall_mem_cons.mpr ⟨?_, List.forall_mem_cons.mpr ⟨?_, nofun⟩⟩
    · have htag : Schema.ofBytes (Bytes.ofString (Schema.ofType "string").toJson.compact) =
          .ok (Schema.ofType "string") := by
        decide +kernel
      exact .text htag
    · have hpet : Schema.ofBytes (Bytes.ofString conflictingSchema.toJson.compact) =
          .ok conflictingSchema := by
        decide +kernel
      exact .text hpet
  have hconflict : (tagCollector.add "Pet" conflictingSchema).2 =
      .error (.conflictingDefinition "Tag" tagDiff) := by
    decide +kernel
  exact ⟨hreached, hread, hconflict, add_conflict_faithful _ tagCollector hreached "Pet"
    conflictingSchema hread "Tag" tagDiff hconflict⟩

end Collector

end SchemaCatalog
