/-
  Schemas that are written and read again
  =======================================
  **A schema that has been read is written as a value from which it is read again.**

  The two halves of the round trip meet at values that are `Settled`: they
  are read as a subschema, and nothing of them is pruned.  The value of a
  well-formed schema is settled, by induction on the schema, because every
  keyword that is written has a value that the same keyword takes and of which
  everything remains (`SettledUnder`).

  So the value of a well-formed schema is read as some schema.  That
  schema is written as the value pruned, which is the value itself, and
  well-formed schemas of the same value are equal.
-/
import SchemaCatalog.Proofs.Json.Faults
import SchemaCatalog.Proofs.Schema.Preservation

namespace SchemaCatalog

/-! ## 1. Reading where nothing is limited -/

namespace Source

variable {m : Medium} (hm : m.Unlimited)
include hm

theorem readJson_ofJson (v : Json) : (ofJson v).readJson m = .ok (ofJson v).toJson := by
  rw [readJson, hm.takeIn]
  rfl

theorem exists_readList_ofJson {α : Type} {read : Medium → Source → Reading α} {l : List Json}
    (hread : ∀ v ∈ l, ∃ a, read m (ofJson v) = .ok a) :
    ∃ as, (ofJson (.arr l)).readList m read = .ok as := by
  have hl : ∃ as, (ofElements l).mapM (read m) = .ok as := by
    rw [ofElements_eq_map, List.mapM_map]
    exact exists_mapM_ok hread
  obtain ⟨as, has⟩ := hl
  exact ⟨as, readContainer_of_ok hm has⟩

theorem exists_readStrings_ofStrings (names : List String) :
    ∃ as, ((ofJson (.ofStrings names)).readList m fun _ => readString) = .ok as := by
  refine exists_readList_ofJson hm fun v hv => ?_
  obtain ⟨name, _, rfl⟩ := List.mem_map.mp hv
  exact ⟨name, rfl⟩

end Source

theorem TypeNames.exists_read_ordered {m : Medium} (hm : m.Unlimited) (t : TypeNames) :
    ∃ t', TypeNames.read m (.ofJson t.ordered.toJson) = .ok t' := by
  cases t with
  | single name => exact ⟨.single name, bind_ok_iff.mpr ⟨(), hm.takeIn _, rfl⟩⟩
  | union names =>
    -- the list is read from a buffer, whatever the medium
    rw [TypeNames.ordered, Schema.strings_toJson]
    obtain ⟨as, has⟩ := Source.exists_readStrings_ofStrings Medium.unlimited_buffer names
    refine ⟨.union as, bind_ok_iff.mpr ⟨(), hm.takeIn _, ?_⟩⟩
    rw [Json.ofStrings, Source.ofJson] at has
    simp only [Json.ofStrings, Source.ofJson, has]
    rfl

namespace Schema

/-! ## 2. Settled values -/

/-- The value is read as a subschema, and nothing of it is pruned. -/
structure Settled (v : Json) : Prop where
  pruned : v.pruned = v
  read : ∀ m : Medium, m.Unlimited → ∃ p, readSub m (.ofJson v) (partsOf (.ofJson v)) = .ok p

/-- The value is taken by the keyword, and everything of it remains. -/
structure SettledUnder (keyword : String) (v : Json) : Prop where
  remains : Json.remains keyword v = some v
  read : ∀ m : Medium, m.Unlimited → ∀ acc,
    ∃ acc', setKeyword m (.ofJson v) (partsOf (.ofJson v)) keyword acc = .ok acc'

theorem settled_bool (b : Bool) : Settled (.bool b) where
  pruned := rfl
  read _ hm := ⟨.flag b, bind_ok_iff.mpr ⟨(), hm.takeIn _, rfl⟩⟩

/-! ## 3. By keyword -/

section

variable {m : Medium} {s : Source} {parts : Parts} {keyword : String} (acc : Schema)

theorem exists_setKeyword_table (hk : keyword ∈ ["properties", "definitions"]) {d : Definitions}
    (h : readTable m s parts = .ok d) : ∃ acc', setKeyword m s parts keyword acc = .ok acc' := by
  simp only [List.mem_cons, List.not_mem_nil, or_false] at hk
  rcases hk with rfl | rfl <;> exact ⟨_, bind_ok_iff.mpr ⟨d, h, rfl⟩⟩

theorem exists_setKeyword_alternatives (hk : keyword ∈ ["allOf", "anyOf", "oneOf"])
    {l : List (Subschema Schema)} (h : readAlternatives m s parts = .ok l) :
    ∃ acc', setKeyword m s parts keyword acc = .ok acc' := by
  simp only [List.mem_cons, List.not_mem_nil, or_false] at hk
  rcases hk with rfl | rfl | rfl <;> exact ⟨_, bind_ok_iff.mpr ⟨l, h, rfl⟩⟩

theorem exists_setKeyword_sole (hk : keyword ∈ Json.soleKeywords) {o : Option (Subschema Schema)}
    (h : (s.readOptional fun s => readSub m s parts) = .ok o) :
    ∃ acc', setKeyword m s parts keyword acc = .ok acc' := by
  simp only [Json.soleKeywords, List.mem_cons, List.not_mem_nil, or_false] at hk
  rcases hk with rfl | rfl | rfl | rfl <;> exact ⟨_, bind_ok_iff.mpr ⟨o, h, rfl⟩⟩

theorem exists_setKeyword_of_not_mem (hk : keyword ∉ keywords) {v : Json}
    (h : s.readJson m = .ok v) : ∃ acc', setKeyword m s parts keyword acc = .ok acc' := by
  unfold setKeyword
  simp only
  split
  case h_15 => exact ⟨_, bind_ok_iff.mpr ⟨v, h, rfl⟩⟩
  all_goals exact absurd (by decide) hk

end

open Json

theorem settledUnder_ref (token : String) : SettledUnder "$ref" (.str token) where
  remains := rfl
  read _ _ _ := ⟨_, rfl⟩

theorem settledUnder_type (t : TypeNames) : SettledUnder "type" t.ordered.toJson := by
  have hnull : t.ordered.toJson ≠ .null := by
    cases t with
    | single name => exact nofun
    | union names => exact nofun
  refine ⟨?_, fun m hm acc => ?_⟩
  · rw [remains_optional (by decide) hnull, prunedUnder_plain (by decide)]
  · obtain ⟨t', ht'⟩ := TypeNames.exists_read_ordered hm t
    exact ⟨_, bind_ok_iff.mpr ⟨some t', Source.readOptional_of_ok hnull ht', rfl⟩⟩

/-! ## 4. Lists and tables -/

theorem map_pruned_of_settled {l : List Json} (h : ∀ v ∈ l, Settled v) : l.map pruned = l :=
  (List.map_congr_left fun v hv => (h v hv).pruned).trans (List.map_id l)

theorem exists_list_of_settled {m : Medium} (hm : m.Unlimited) {l : List Json}
    (h : ∀ v ∈ l, Settled v) : ∃ p, (partsOf (.ofJson (.arr l))).list m = .ok p := by
  simp only [Source.ofJson, partsOf, partsOfElements_ofElements]
  rw [List.mapM_map]
  exact exists_mapM_ok fun v hv => (h v hv).read m hm

theorem settledUnder_alternatives {keyword : String} (hk : keyword ∈ ["allOf", "anyOf", "oneOf"])
    {l : List Json} (hl : l.isEmpty = false) (h : ∀ v ∈ l, Settled v) :
    SettledUnder keyword (.arr l) := by
  refine ⟨?_, fun m hm acc => ?_⟩
  · rw [remains_list hk, map_pruned_of_settled h, hl]
    rfl
  · obtain ⟨p, hp⟩ := exists_list_of_settled hm h
    refine exists_setKeyword_alternatives acc hk (l := p) ?_
    exact readContainer_of_ok hm hp

theorem settledUnder_tuple {l : List Json} (h : ∀ v ∈ l, Settled v) :
    SettledUnder "items" (.arr l) := by
  have hnull : Json.arr l ≠ .null := nofun
  refine ⟨?_, fun m hm acc => ?_⟩
  · rw [remains_optional (by decide) hnull, prunedUnder_list (by decide), map_pruned_of_settled h]
  · obtain ⟨p, hp⟩ := exists_list_of_settled Medium.unlimited_buffer h
    have hitems : readItems m (.ofJson (.arr l)) (partsOf (.ofJson (.arr l))) =
        .ok (.tuple p) := by
      refine bind_ok_iff.mpr ⟨(), hm.takeIn _, ?_⟩
      rw [Source.ofJson] at hp ⊢
      simp only [hp]
      rfl
    exact ⟨_, bind_ok_iff.mpr ⟨some (.tuple p), Source.readOptional_of_ok hnull hitems, rfl⟩⟩

theorem exists_table_of_settled {m : Medium} (hm : m.Unlimited) {t : Table Json} (ht : t.Sorted)
    (h : ∀ e ∈ t.entries, Settled e.2) : ∃ d, (partsOf (.ofJson (.obj t))).table m = .ok d := by
  simp only [Source.ofJson, partsOf, readEntries, partsOfMembers_ofMembers]
  refine exists_readMembers_ok (fun v => (Source.ofJson v, partsOf (.ofJson v)))
    ht.nodup_keys (fun e he acc => ?_) ({} : Definitions) (fun _ _ => List.not_mem_nil)
  obtain ⟨p, hp⟩ := (h e he).read m hm
  exact ⟨_, bind_ok_iff.mpr ⟨p, hp, rfl⟩⟩

theorem settledUnder_table {keyword : String} (hk : keyword ∈ ["properties", "definitions"])
    {t : Table Json} (ht : t.Sorted) (hempty : t.isEmpty = false)
    (h : ∀ e ∈ t.entries, Settled e.2) : SettledUnder keyword (.obj t) := by
  refine ⟨?_, fun m hm acc => ?_⟩
  · have hpruned : t.map pruned = t := Table.map_eq_self fun e he => (h e he).pruned
    rw [remains_table hk, hpruned, hempty]
    rfl
  · obtain ⟨d, hd⟩ := exists_table_of_settled hm ht h
    refine exists_setKeyword_table acc hk (d := d) ?_
    exact readContainer_of_ok hm hd

/-! ## 5. Schemas -/

/-- A settled value is a flag, or an object whose members are read as keywords. -/
theorem Settled.form {v : Json} (h : Settled v) : (∃ b, v = .bool b) ∨
    ∃ t s, v = .obj t ∧ (partsOf (.ofJson v)).schema () = .ok s := by
  obtain ⟨p, hp⟩ := h.read .buffer Medium.unlimited_buffer
  obtain ⟨_, _, hp⟩ := bind_ok_iff.mp hp
  rcases v with _ | b | _ | _ | elements | ⟨⟨members⟩⟩
  case bool => exact Or.inl ⟨b, rfl⟩
  case obj =>
    cases hschema : (partsOf (.ofJson (.obj ⟨members⟩))).schema () with
    | ok s => exact Or.inr ⟨_, s, rfl, rfl⟩
    | error e =>
      simp only [Source.ofJson] at hschema hp
      rw [hschema] at hp
      cases hp
  all_goals cases hp

theorem Settled.ne_null {v : Json} (h : Settled v) : v ≠ .null := by
  rintro rfl
  rcases h.form with ⟨b, hb⟩ | ⟨t, s, ht, _⟩
  · cases hb
  · cases ht

theorem settledUnder_sole {keyword : String} (hk : keyword ∈ soleKeywords) {v : Json}
    (h : Settled v) : SettledUnder keyword v := by
  refine ⟨?_, fun m hm acc => ?_⟩
  · rw [remains_optional (List.mem_append_right _ hk) h.ne_null, prunedUnder_sole hk, h.pruned]
  · obtain ⟨p, hp⟩ := h.read m hm
    exact exists_setKeyword_sole acc hk (Source.readOptional_of_ok h.ne_null hp)

theorem settledUnder_each {v : Json} (h : Settled v) : SettledUnder "items" v := by
  refine ⟨?_, fun m hm acc => ?_⟩
  · rw [remains_optional (by decide) h.ne_null]
    rcases h.form with ⟨b, rfl⟩ | ⟨t, s, rfl, _⟩
    · rfl
    · rw [prunedUnder_items_obj, h.pruned]
  · have hitems : ∃ i, readItems m (.ofJson v) (partsOf (.ofJson v)) = .ok i := by
      rcases h.form with ⟨b, rfl⟩ | ⟨⟨members⟩, s, rfl, hs⟩
      · exact ⟨.each (.flag b), bind_ok_iff.mpr ⟨(), hm.takeIn _, rfl⟩⟩
      · refine ⟨.each (.schema s), bind_ok_iff.mpr ⟨(), hm.takeIn _, ?_⟩⟩
        rw [Source.ofJson] at hs ⊢
        simp only [hs]
        rfl
    obtain ⟨i, hi⟩ := hitems
    exact ⟨_, bind_ok_iff.mpr ⟨some i, Source.readOptional_of_ok h.ne_null hi, rfl⟩⟩

theorem settledUnder_required {names : List String} (hnames : names.isEmpty = false) :
    SettledUnder "required" (.ofStrings names) := by
  refine ⟨?_, fun m hm acc => ?_⟩
  · rw [Json.ofStrings, remains_plainList (by decide), List.isEmpty_map, hnames]
    rfl
  · obtain ⟨l, hl⟩ := Source.exists_readStrings_ofStrings hm names
    exact ⟨_, bind_ok_iff.mpr ⟨l, hl, rfl⟩⟩

theorem settledUnder_examples {l : List Json} (hl : l.isEmpty = false) :
    SettledUnder "examples" (.arr l) := by
  refine ⟨?_, fun m hm acc => ?_⟩
  · rw [remains_plainList (by decide), hl]
    rfl
  · have hvalues : ∃ vs, (Source.ofJson (.arr l)).readList m Source.readJson = .ok vs :=
      Source.exists_readList_ofJson hm fun v _ => ⟨_, Source.readJson_ofJson hm v⟩
    obtain ⟨vs, hvs⟩ := hvalues
    exact ⟨_, bind_ok_iff.mpr ⟨vs, hvs, rfl⟩⟩

theorem settledUnder_of_not_mem {keyword : String} (hk : keyword ∉ keywords) (v : Json) :
    SettledUnder keyword v where
  remains := remains_of_not_mem hk v
  read _ hm acc := exists_setKeyword_of_not_mem acc hk (Source.readJson_ofJson hm v)

theorem exists_readKeywords_of_settledUnder {m : Medium} (hm : m.Unlimited) {t : Table Json}
    (ht : t.Sorted) (h : ∀ e ∈ t.entries, SettledUnder e.1 e.2) :
    ∃ s, readKeywords m (partsOfMembers (Source.ofMembers t.entries)) = .ok s := by
  rw [readKeywords, partsOfMembers_ofMembers]
  refine exists_readMembers_ok (fun v => (Source.ofJson v, partsOf (.ofJson v))) ht.nodup_keys
    (fun e he acc => ?_) ({} : Schema) (fun _ _ => List.not_mem_nil)
  exact (h e he).read m hm acc

theorem settled_obj {t : Table Json} (ht : t.Sorted)
    (h : ∀ e ∈ t.entries, SettledUnder e.1 e.2) : Settled (.obj t) := by
  refine ⟨pruned_obj_eq_self fun e he => (h e he).remains, fun m hm => ?_⟩
  obtain ⟨s, hs⟩ := exists_readKeywords_of_settledUnder Medium.unlimited_buffer ht h
  refine ⟨.schema s, bind_ok_iff.mpr ⟨(), hm.takeIn _, ?_⟩⟩
  simp only [Source.ofJson, partsOf, hs]
  rfl

/-! ## 6. Slots -/

theorem settled_of_mem_map {l : List (Subschema Schema)} (h : ∀ p ∈ l, Settled p.toJson) :
    ∀ v ∈ l.map Subschema.toJson, Settled v := by
  intro v hv
  obtain ⟨p, hp, rfl⟩ := List.mem_map.mp hv
  exact h p hp

section

variable {keyword : String} {v : Json}

theorem settledUnder_of_tableJson (hk : keyword ∈ ["properties", "definitions"])
    {t : Definitions} (ht : t.Sorted) (h : ∀ p ∈ t.values, Settled p.toJson)
    (hv : tableJson t = some v) : SettledUnder keyword v := by
  rw [tableJson_eq ht] at hv
  split at hv
  · cases hv
  · next hempty =>
    cases hv
    refine settledUnder_table hk (ht.map _) ?_ fun e he => ?_
    · rw [Table.isEmpty_map]
      exact Bool.eq_false_iff.mpr hempty
    · obtain ⟨entry, hentry, rfl⟩ := List.mem_map.mp he
      exact h _ (List.mem_map.mpr ⟨entry, hentry, rfl⟩)

theorem settledUnder_of_alternativesJson (hk : keyword ∈ ["allOf", "anyOf", "oneOf"])
    {l : List (Subschema Schema)} (h : ∀ p ∈ l, Settled p.toJson)
    (hv : alternativesJson l = some v) : SettledUnder keyword v := by
  rw [alternativesJson] at hv
  split at hv
  · cases hv
  · next hempty =>
    cases hv
    refine settledUnder_alternatives hk ?_ (settled_of_mem_map h)
    rw [List.isEmpty_map]
    exact Bool.eq_false_iff.mpr hempty

theorem settledUnder_of_optionJson (hk : keyword ∈ soleKeywords) {o : Option (Subschema Schema)}
    (h : ∀ p ∈ o.toList, Settled p.toJson) (hv : o.map Subschema.toJson = some v) :
    SettledUnder keyword v := by
  obtain ⟨p, rfl, rfl⟩ := Option.map_eq_some_iff.mp hv
  exact settledUnder_sole hk (h p List.mem_cons_self)

theorem settledUnder_of_itemsJson {i : Option (Items Schema)}
    (h : ∀ p ∈ itemPlaces i, Settled p.toJson) (hv : i.map itemsJson = some v) :
    SettledUnder "items" v := by
  obtain ⟨p | l, rfl, rfl⟩ := Option.map_eq_some_iff.mp hv
  · exact settledUnder_each (h p List.mem_cons_self)
  · exact settledUnder_tuple (settled_of_mem_map h)

/-- A keyword with a field of its own is written with a value that it takes. -/
theorem settledUnder_of_mem_slots {s : Schema} (hs : s.WellFormed)
    (h : ∀ p ∈ s.places, Settled p.toJson) (hv : (keyword, some v) ∈ keywords.zip s.slots) :
    SettledUnder keyword v := by
  obtain ⟨hproperties, hitems, hadditionalItems, hcontains, hadditional, hallOf, hanyOf, honeOf,
    hnot, hdefinitions⟩ := forall_mem_places_iff.mp h
  -- one case for each keyword, in their order
  simp only [keywords, slots, List.zip_cons_cons, List.zip_nil_left, List.mem_cons,
    List.not_mem_nil, or_false, Prod.mk.injEq] at hv
  rcases hv with ⟨rfl, hv⟩ | ⟨rfl, hv⟩ | ⟨rfl, hv⟩ | ⟨rfl, hv⟩ | ⟨rfl, hv⟩ | ⟨rfl, hv⟩ | ⟨rfl, hv⟩ |
    ⟨rfl, hv⟩ | ⟨rfl, hv⟩ | ⟨rfl, hv⟩ | ⟨rfl, hv⟩ | ⟨rfl, hv⟩ | ⟨rfl, hv⟩ | ⟨rfl, hv⟩
  · obtain ⟨token, _, rfl⟩ := Option.map_eq_some_iff.mp hv.symm
    exact settledUnder_ref token
  · obtain ⟨t, _, rfl⟩ := Option.map_eq_some_iff.mp hv.symm
    exact settledUnder_type t
  · exact settledUnder_of_tableJson (by decide) hs.properties_sorted hproperties hv.symm
  · exact settledUnder_of_itemsJson hitems hv.symm
  · exact settledUnder_of_optionJson (by decide) hadditionalItems hv.symm
  · exact settledUnder_of_optionJson (by decide) hcontains hv.symm
  · exact settledUnder_of_optionJson (by decide) hadditional hv.symm
  · exact settledUnder_of_alternativesJson (by decide) hallOf hv.symm
  · exact settledUnder_of_alternativesJson (by decide) hanyOf hv.symm
  · exact settledUnder_of_alternativesJson (by decide) honeOf hv.symm
  · exact settledUnder_of_optionJson (by decide) hnot hv.symm
  · exact settledUnder_of_tableJson (by decide) hs.definitions_sorted hdefinitions hv.symm
  · split at hv
    · cases hv
    · next hempty =>
      cases hv
      exact settledUnder_required (Bool.eq_false_iff.mpr hempty)
  · split at hv
    · cases hv
    · next hempty =>
      cases hv
      exact settledUnder_examples (Bool.eq_false_iff.mpr hempty)

end

/-! ## 7. The round trip -/

/-- **Every member of the value of a well-formed schema is settled under its name.** -/
theorem WellFormed.settledUnder {s : Schema} (h : s.WellFormed) :
    ∃ t, s.toJson = .obj t ∧ t.Sorted ∧ ∀ e ∈ t.entries, SettledUnder e.1 e.2 := by
  induction h with
  | @intro s hproperties hdefinitions hextra hkeys hvalues hexamples hplaces ih =>
    have hs : s.WellFormed :=
      .intro hproperties hdefinitions hextra hkeys hvalues hexamples hplaces
    -- what the schema holds is settled by induction, so its slots are settled under their keywords
    have hsettled : ∀ p ∈ s.places, Settled p.toJson := by
      intro p hp
      cases p with
      | flag b => exact settled_bool b
      | schema u =>
        obtain ⟨t, hobj, ht, hmembers⟩ := ih u hp
        have hvalue : (Subschema.schema u).toJson = .obj t := hobj
        rw [hvalue]
        exact settled_obj ht hmembers
    rw [toJson_eq hvalues hexamples]
    refine ⟨_, rfl, Table.sorted_ofList _, fun e he => ?_⟩
    rcases List.mem_append.mp (Table.mem_of_mem_ofList he) with hfilled | hextra
    · obtain ⟨⟨key, slot⟩, hslot, he⟩ := List.mem_flatMap.mp hfilled
      obtain ⟨v, rfl, rfl⟩ := Option.map_eq_some_iff.mp (Option.mem_toList.mp he)
      exact settledUnder_of_mem_slots hs hsettled hslot
    · exact settledUnder_of_not_mem (hkeys e.1 (List.mem_map_of_mem hextra)) e.2

/-- **A well-formed schema is read from its value.** -/
theorem WellFormed.ofJson_toJson {n : Schema} (h : n.WellFormed) : ofJson n.toJson = .ok n := by
  obtain ⟨t, hobj, ht, hmembers⟩ := h.settledUnder
  have hread : ∃ n', ofJson n.toJson = .ok n' := by
    obtain ⟨n', hn'⟩ := exists_readKeywords_of_settledUnder Medium.unlimited_value ht hmembers
    rw [hobj]
    exact ⟨n', readContainer_of_ok Medium.unlimited_value hn'⟩
  obtain ⟨n', hn'⟩ := hread
  have hvalue : n'.toJson = n.toJson :=
    calc n'.toJson = n.toJson.pruned := toJson_of_read h.toJson hn'
      _ = n.toJson := by
        rw [hobj, pruned_obj_eq_self fun e he => (hmembers e he).remains]
  rw [hn', eq_of_toJson_eq (ofJson_wellFormed h.toJson hn') n h hvalue]

/-- **Reading and writing a document keeps its content**: what is written is the document without
    the members that say nothing, and it is read as the same schema again. -/
theorem toJson_ofJson_eq_pruned {v : Json} (hv : v.WellFormed) {n : Schema}
    (h : ofJson v = .ok n) : n.toJson = v.pruned ∧ ofJson n.toJson = .ok n :=
  ⟨toJson_of_read hv h, (ofJson_wellFormed hv h).ofJson_toJson⟩

/-- A document with members that say nothing, at its root and in the schemas inside. -/
def sparseDocument : Json :=
  .obj ⟨[("$ref", .null), ("definitions", .obj ⟨[]⟩), ("items", .arr []),
    ("not", .obj ⟨[("required", .arr [])]⟩),
    ("properties", .obj ⟨[("name", .obj ⟨[("allOf", .arr []), ("title", .null)]⟩)]⟩)]⟩

/-- What remains of `sparseDocument`. -/
def prunedDocument : Json :=
  .obj ⟨[("items", .arr []), ("not", .obj ⟨[]⟩),
    ("properties", .obj ⟨[("name", .obj ⟨[("title", .null)]⟩)]⟩)]⟩

/-- The schema of both documents. -/
def sparseSchema : Schema :=
  { items := some (.tuple [])
    not := some (.schema {})
    properties := ⟨[("name", .schema { extra := ⟨[("title", .null)]⟩ })]⟩ }

theorem sparseSchema_reread : sparseDocument.WellFormed ∧ ofJson sparseDocument = .ok sparseSchema ∧
    sparseSchema.toJson = prunedDocument ∧ ofJson prunedDocument = .ok sparseSchema := by
  have htext : Json.ofBytes (Bytes.ofString sparseDocument.compact) = .ok sparseDocument := by
    decide +kernel
  have hv : sparseDocument.WellFormed := Json.ofBytes_wellFormed htext
  have hread : ofJson sparseDocument = .ok sparseSchema := by decide +kernel
  have hpruned : sparseDocument.pruned = prunedDocument := by decide +kernel
  obtain ⟨hwritten, hreread⟩ := toJson_ofJson_eq_pruned hv hread
  rw [hpruned] at hwritten
  rw [hwritten] at hreread
  exact ⟨hv, hread, hwritten, hreread⟩

end Schema

end SchemaCatalog
