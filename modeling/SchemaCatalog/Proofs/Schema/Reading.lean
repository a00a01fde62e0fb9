/-
  Schemas that are read
  =====================
  **Every schema that is read from JSON is well-formed.**

  The reader goes down the source and hands each keyword the `Parts` of its
  value.  What the parts give is well-formed if the source is canonical, by
  induction on the source; a keyword then puts well-formed values into its own
  field, or a value under a name that is no field into the rest.
-/
import SchemaCatalog.Proofs.Json.Reading
import SchemaCatalog.Proofs.Schema.WellFormed

namespace SchemaCatalog.Schema

/-! ## 1. Field by field -/

/-- The schemas among these places are well-formed. -/
def AllWellFormed (l : List (Subschema Schema)) : Prop := ∀ t, .schema t ∈ l → t.WellFormed

/-- What a well-formed schema has in each of its fields. -/
structure FieldsWellFormed (s : Schema) : Prop where
  properties : s.properties.Sorted ∧ AllWellFormed s.properties.values
  items : AllWellFormed (itemPlaces s.items)
  additionalItems : AllWellFormed s.additionalItems.toList
  contains : AllWellFormed s.contains.toList
  additionalProperties : AllWellFormed s.additionalProperties.toList
  allOf : AllWellFormed s.allOf
  anyOf : AllWellFormed s.anyOf
  oneOf : AllWellFormed s.oneOf
  not : AllWellFormed s.not.toList
  definitions : s.definitions.Sorted ∧ AllWellFormed s.definitions.values
  examples : ∀ v ∈ s.examples, v.WellFormed
  extra : s.extra.Sorted ∧ ∀ e ∈ s.extra.entries, e.1 ∉ keywords ∧ e.2.WellFormed

theorem FieldsWellFormed.wellFormed {s : Schema} (h : s.FieldsWellFormed) : s.WellFormed := by
  refine .intro h.properties.1 h.definitions.1 h.extra.1 ?_ (fun e he => (h.extra.2 e he).2)
    h.examples ?_
  · intro key hkey
    obtain ⟨e, he, rfl⟩ := List.mem_map.mp hkey
    exact (h.extra.2 e he).1
  · intro t ht
    simp only [places, List.mem_append, or_assoc] at ht
    rcases ht with ht | ht | ht | ht | ht | ht | ht | ht | ht | ht
    · exact h.properties.2 t ht
    · exact h.items t ht
    · exact h.additionalItems t ht
    · exact h.contains t ht
    · exact h.additionalProperties t ht
    · exact h.allOf t ht
    · exact h.anyOf t ht
    · exact h.oneOf t ht
    · exact h.not t ht
    · exact h.definitions.2 t ht

theorem fieldsWellFormed_empty : ({} : Schema).FieldsWellFormed where
  properties := ⟨.nil, nofun⟩
  items := nofun
  additionalItems := nofun
  contains := nofun
  additionalProperties := nofun
  allOf := nofun
  anyOf := nofun
  oneOf := nofun
  not := nofun
  definitions := ⟨.nil, nofun⟩
  examples := nofun
  extra := ⟨.nil, nofun⟩

/-! ## 2. The value of a keyword -/

/-- What the parts of a value give is well-formed. -/
structure Parts.WellFormed (parts : Parts) : Prop where
  schema : ∀ s, parts.schema () = .ok s → s.WellFormed
  table : ∀ m t, parts.table m = .ok t → t.Sorted ∧ AllWellFormed t.values
  list : ∀ m l, parts.list m = .ok l → AllWellFormed l

theorem Parts.wellFormed_default : ({} : Parts).WellFormed where
  schema s h := by
    cases h
    exact fieldsWellFormed_empty.wellFormed
  table m t h := by
    cases h
    exact ⟨.nil, nofun⟩
  list m l h := by
    cases h
    exact nofun

section

variable {m : Medium} {s : Source} {parts : Parts} (hparts : parts.WellFormed)
include hparts

theorem readSub_wellFormed {t : Schema} (h : readSub m s parts = .ok (.schema t)) :
    t.WellFormed := by
  obtain ⟨_, _, h⟩ := bind_ok_iff.mp h
  split at h
  · cases h
  · split at h
    · next hschema =>
      cases h
      exact hparts.schema t hschema
    · cases h
  · cases h

theorem readItems_wellFormed {i : Items Schema} (h : readItems m s parts = .ok i) :
    AllWellFormed (itemPlaces (some i)) := by
  obtain ⟨_, _, h⟩ := bind_ok_iff.mp h
  cases s with
  | bool b =>
    cases h
    intro t ht
    cases List.mem_singleton.mp ht
  | arr elements ending =>
    cases hlist : parts.list .buffer with
    | error e =>
      rw [hlist] at h
      cases h
    | ok l =>
      rw [hlist] at h
      cases h
      exact hparts.list .buffer l hlist
  | obj members ending =>
    cases hschema : parts.schema () with
    | error e =>
      rw [hschema] at h
      cases h
    | ok t =>
      rw [hschema] at h
      cases h
      intro t' ht'
      cases List.mem_singleton.mp ht'
      exact hparts.schema t hschema
  | _ => cases h

theorem readOptionalItems_wellFormed {i : Option (Items Schema)}
    (h : (s.readOptional fun s => readItems m s parts) = .ok i) :
    AllWellFormed (itemPlaces i) := by
  rcases Source.readOptional_ok h with rfl | ⟨i', hi, rfl⟩
  · exact nofun
  · exact readItems_wellFormed hparts hi

theorem readTable_wellFormed {t : Definitions} (h : readTable m s parts = .ok t) :
    t.Sorted ∧ AllWellFormed t.values := by
  cases s with
  | obj members ending =>
    obtain ⟨inner, ht⟩ := readContainer_ok h
    exact hparts.table inner t ht
  | _ => cases h

theorem readAlternatives_wellFormed {l : List (Subschema Schema)}
    (h : readAlternatives m s parts = .ok l) : AllWellFormed l := by
  cases s with
  | arr elements ending =>
    obtain ⟨inner, hl⟩ := readContainer_ok h
    exact hparts.list inner l hl
  | _ => cases h

theorem readOption_wellFormed {o : Option (Subschema Schema)}
    (h : (s.readOptional fun s => readSub m s parts) = .ok o) : AllWellFormed o.toList := by
  rcases Source.readOptional_ok h with rfl | ⟨p, hp, rfl⟩
  · exact nofun
  · intro t ht
    cases List.mem_singleton.mp ht
    exact readSub_wellFormed hparts hp

/-- **A keyword keeps the fields well-formed**: it changes one of them. -/
theorem setKeyword_wellFormed {keyword : String} {acc acc' : Schema} (hs : s.Canonical)
    (hacc : acc.FieldsWellFormed) (h : setKeyword m s parts keyword acc = .ok acc') :
    acc'.FieldsWellFormed := by
  unfold setKeyword at h
  simp only at h
  split at h
  · obtain ⟨v, _, rfl⟩ := return_ok h
    exact { hacc with }
  · obtain ⟨v, _, rfl⟩ := return_ok h
    exact { hacc with }
  · obtain ⟨v, hv, rfl⟩ := return_ok h
    exact { hacc with properties := readTable_wellFormed hparts hv }
  · obtain ⟨v, hv, rfl⟩ := return_ok h
    exact { hacc with items := readOptionalItems_wellFormed hparts hv }
  · obtain ⟨v, hv, rfl⟩ := return_ok h
    exact { hacc with additionalItems := readOption_wellFormed hparts hv }
  · obtain ⟨v, hv, rfl⟩ := return_ok h
    exact { hacc with contains := readOption_wellFormed hparts hv }
  · obtain ⟨v, hv, rfl⟩ := return_ok h
    exact { hacc with additionalProperties := readOption_wellFormed hparts hv }
  · obtain ⟨v, hv, rfl⟩ := return_ok h
    exact { hacc with allOf := readAlternatives_wellFormed hparts hv }
  · obtain ⟨v, hv, rfl⟩ := return_ok h
    exact { hacc with anyOf := readAlternatives_wellFormed hparts hv }
  · obtain ⟨v, hv, rfl⟩ := return_ok h
    exact { hacc with oneOf := readAlternatives_wellFormed hparts hv }
  · obtain ⟨v, hv, rfl⟩ := return_ok h
    exact { hacc with not := readOption_wellFormed hparts hv }
  · obtain ⟨v, hv, rfl⟩ := return_ok h
    exact { hacc with definitions := readTable_wellFormed hparts hv }
  · obtain ⟨v, _, rfl⟩ := return_ok h
    exact { hacc with }
  · obtain ⟨v, hv, rfl⟩ := return_ok h
    exact { hacc with
      examples := Source.readList_forall hs (fun _ _ _ => Source.readJson_wellFormed) hv }
  · obtain ⟨v, hv, rfl⟩ := return_ok h
    have hkeyword : keyword ∉ keywords := by
      simp only [keywords, List.mem_cons, List.not_mem_nil, or_false, not_or]
      refine ⟨?_, ?_, ?_, ?_, ?_, ?_, ?_, ?_, ?_, ?_, ?_, ?_, ?_, ?_⟩ <;> assumption
    refine { hacc with extra := ⟨hacc.extra.1.insert keyword v, fun e he => ?_⟩ }
    rcases Table.mem_insertEntry he with rfl | he
    · exact ⟨hkeyword, Source.readJson_wellFormed hs hv⟩
    · exact hacc.extra.2 e he

end

/-! ## 3. Documents -/

/-- The value of a member or an element is canonical, and its parts give what is well-formed. -/
structure PartWellFormed (p : Source × Parts) : Prop where
  source : p.1.Canonical
  parts : p.2.WellFormed

theorem readKeywords_wellFormed {m : Medium}
    {members : List (Except SyntaxError String × Source × Parts)}
    (hmembers : ∀ e ∈ members, PartWellFormed e.2) {s : Schema}
    (h : readKeywords m members = .ok s) : s.WellFormed := by
  refine (readMembers_invariant (P := FieldsWellFormed) ?_ fieldsWellFormed_empty h).wellFormed
  intro e he k acc acc' hacc h
  exact setKeyword_wellFormed (hmembers e he).parts (hmembers e he).source hacc h

theorem readEntries_wellFormed {m : Medium}
    {members : List (Except SyntaxError String × Source × Parts)}
    (hmembers : ∀ e ∈ members, PartWellFormed e.2) {t : Definitions}
    (h : readEntries m members = .ok t) : t.Sorted ∧ AllWellFormed t.values := by
  have hentries : t.Sorted ∧ ∀ e ∈ t.entries, ∀ s, e.2 = .schema s → s.WellFormed := by
    refine readMembers_invariant (P := fun t : Definitions =>
      t.Sorted ∧ ∀ e ∈ t.entries, ∀ s, e.2 = .schema s → s.WellFormed) ?_ ⟨.nil, nofun⟩ h
    rintro e he k acc acc' ⟨hsorted, hvalues⟩ h
    obtain ⟨p, hp, rfl⟩ := return_ok h
    refine ⟨hsorted.insert k p, fun entry hentry s hs => ?_⟩
    rcases Table.mem_insertEntry hentry with rfl | hentry
    · obtain rfl : p = .schema s := hs
      exact readSub_wellFormed (hmembers e he).parts hp
    · exact hvalues entry hentry s hs
  refine ⟨hentries.1, fun s hs => ?_⟩
  obtain ⟨e, he, heq⟩ := List.mem_map.mp hs
  exact hentries.2 e he s heq

theorem partsOfMembers_eq_map (members : List (Except SyntaxError String × Source)) :
    partsOfMembers members = members.map fun e => (e.1, e.2, partsOf e.2) := by
  induction members with
  | nil => rfl
  | cons e rest ih => rw [partsOfMembers, ih, List.map_cons]

theorem partsOfElements_eq_map (elements : List Source) :
    partsOfElements elements = elements.map fun s => (s, partsOf s) := by
  induction elements with
  | nil => rfl
  | cons s rest ih => rw [partsOfElements, ih, List.map_cons]

theorem partsOfMembers_wellFormed {members : List (Except SyntaxError String × Source)}
    (hsource : ∀ e ∈ members, e.2.Canonical) (hparts : ∀ e ∈ members, (partsOf e.2).WellFormed) :
    ∀ e ∈ partsOfMembers members, PartWellFormed e.2 := by
  rw [partsOfMembers_eq_map]
  intro e he
  obtain ⟨e, hmem, rfl⟩ := List.mem_map.mp he
  exact ⟨hsource e hmem, hparts e hmem⟩

/-- **The parts of a canonical source give what is well-formed.** -/
theorem partsOf_wellFormed {s : Source} (h : s.Canonical) : (partsOf s).WellFormed := by
  induction h with
  | @arr elements _ _ ih =>
    rw [partsOf]
    refine { Parts.wellFormed_default with list := fun m l hl t ht => ?_ }
    rw [partsOfElements_eq_map] at hl
    refine forall_of_mapM_ok (P := fun p => ∀ t, p = .schema t → t.WellFormed) ?_ hl _ ht t rfl
    intro a ha p hp t ht
    obtain ⟨s, hs, rfl⟩ := List.mem_map.mp ha
    exact readSub_wellFormed (ih s hs) (ht ▸ hp)
  | @obj members _ hmembers ih =>
    rw [partsOf]
    exact { Parts.wellFormed_default with
      schema := fun s => readKeywords_wellFormed (partsOfMembers_wellFormed hmembers ih)
      table := fun m t => readEntries_wellFormed (partsOfMembers_wellFormed hmembers ih) }
  | _ => exact Parts.wellFormed_default

theorem read_wellFormed {m : Medium} {source : Source} (hsource : source.Canonical) {s : Schema}
    (h : read m source = .ok s) : s.WellFormed := by
  cases hsource with
  | obj hmembers =>
    obtain ⟨inner, hs⟩ := readContainer_ok h
    exact readKeywords_wellFormed
      (partsOfMembers_wellFormed hmembers fun e he => partsOf_wellFormed (hmembers e he)) hs
  | _ => cases h

/-- **A schema that is read from a text is well-formed.** -/
theorem ofBytes_wellFormed {bytes : Bytes} {s : Schema} (h : ofBytes bytes = .ok s) :
    s.WellFormed :=
  read_wellFormed (Document.ofBytes_canonical bytes) (readText_ok_iff.mp h).1

/-- **A schema that is read from a well-formed value is well-formed.** -/
theorem ofJson_wellFormed {v : Json} (hv : v.WellFormed) {s : Schema} (h : ofJson v = .ok s) :
    s.WellFormed :=
  read_wellFormed (Source.ofJson_canonical hv) h

end SchemaCatalog.Schema
