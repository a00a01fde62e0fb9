/-
  Content that is preserved
  =========================
  **A schema that is read from a value is written as that value, pruned.**

  The reader hands every keyword of a document the parts of its value.  If
  the schemas that the parts give are written as the values they came from, pruned
  (`PartsPruned`), then a keyword that is set is written with what remains of its
  member, and nothing else that is written changes (`setKeyword_written`).
  So after all members what is written under a name is what remains of the
  member of that name.  The induction is on the value.
-/
import SchemaCatalog.Proofs.Schema.Pruning
import SchemaCatalog.Proofs.Schema.Reading
import SchemaCatalog.Proofs.Schema.Writing

namespace SchemaCatalog

/-! ## 1. Values of several forms -/

namespace Source

theorem readOptional_ofJson {α : Type} (read : Source → Reading α) {v : Json} (hv : v ≠ .null) :
    (ofJson v).readOptional read = (read (ofJson v)).map some := by
  refine readOptional_of_ne_null read fun h => hv ?_
  rcases v with _ | _ | _ | _ | elements | ⟨⟨members⟩⟩
  case null => rfl
  all_goals cases h

theorem readOptional_of_ok {α : Type} {read : Source → Reading α} {v : Json} (hv : v ≠ .null)
    {a : α} (h : read (ofJson v) = .ok a) : (ofJson v).readOptional read = .ok (some a) := by
  rw [readOptional_ofJson read hv, h]
  rfl

/-- A value that may be left out is `null`, or it is read. -/
theorem readOptional_ofJson_ok {α : Type} {read : Source → Reading α} {v : Json} {o : Option α}
    (h : (ofJson v).readOptional read = .ok o) :
    (v = .null ∧ o = none) ∨ (v ≠ .null ∧ ∃ a, read (ofJson v) = .ok a ∧ o = some a) := by
  by_cases hv : v = .null
  · subst hv
    cases h
    exact Or.inl ⟨rfl, rfl⟩
  · rw [readOptional_ofJson read hv] at h
    cases hread : read (ofJson v) with
    | error e =>
      rw [hread] at h
      cases h
    | ok a =>
      rw [hread] at h
      cases h
      exact Or.inr ⟨hv, a, rfl, rfl⟩

theorem readList_ofJson_ok {α : Type} {m : Medium} {read : Medium → Source → Reading α}
    {v : Json} {l : List α} (h : (ofJson v).readList m read = .ok l) :
    ∃ elements inner, v = .arr elements ∧ (elements.map ofJson).mapM (read inner) = .ok l := by
  rcases v with _ | _ | _ | _ | elements | ⟨⟨members⟩⟩
  case arr =>
    obtain ⟨inner, hl⟩ := readContainer_ok h
    rw [ofElements_eq_map] at hl
    exact ⟨elements, inner, rfl, hl⟩
  all_goals cases h

theorem readString_ofJson_ok {v : Json} {s : String} (h : (ofJson v).readString = .ok s) :
    v = .str s := by
  rcases v with _ | _ | _ | s' | elements | ⟨⟨members⟩⟩
  case str =>
    cases h
    rfl
  all_goals cases h

/-- What is read from each element of a list, if it determines the element, determines the list. -/
theorem readList_ofJson_map {α : Type} {m : Medium} {read : Medium → Source → Reading α}
    {v : Json} {l : List α} {f : α → Json} (h : (ofJson v).readList m read = .ok l)
    (hread : ∀ elements, v = .arr elements → ∀ e ∈ elements, ∀ inner a,
      read inner (ofJson e) = .ok a → f a = e) : v = .arr (l.map f) := by
  obtain ⟨elements, inner, rfl, hl⟩ := readList_ofJson_ok h
  rw [List.mapM_map] at hl
  have hmap : l.map f = elements.map id :=
    map_of_mapM_ok (fun e he a ha => hread elements rfl e he inner a ha) hl
  rw [hmap, List.map_id]

theorem readStrings_ofJson_ok {m : Medium} {v : Json} {l : List String}
    (h : ((ofJson v).readList m fun _ => readString) = .ok l) : v = .ofStrings l :=
  readList_ofJson_map h fun _ _ _ _ _ _ hs => (readString_ofJson_ok hs).symm

theorem readJson_ofJson_ok {m : Medium} {v w : Json} (hv : v.WellFormed)
    (h : (ofJson v).readJson m = .ok w) : w = v := by
  obtain ⟨_, _, h⟩ := bind_ok_iff.mp h
  cases h
  exact toJson_ofJson hv

theorem readValues_ofJson_ok {m : Medium} {v : Json} {l : List Json} (hv : v.WellFormed)
    (h : (ofJson v).readList m readJson = .ok l) : v = .arr l := by
  have hmap : v = .arr (l.map id) := by
    refine readList_ofJson_map h fun elements hv' e he inner a ha => ?_
    subst hv'
    cases hv with
    | arr helements => exact readJson_ofJson_ok (helements e he) ha
  rwa [List.map_id] at hmap

end Source

/-- The names of types are given as one string or as a list. -/
theorem TypeNames.read_ok {m : Medium} {s : Source} {t : TypeNames}
    (h : TypeNames.read m s = .ok t) : (∃ name, s = .str name ∧ t = .single name) ∨
      ∃ names, (s.readList .buffer fun _ => Source.readString) = .ok names ∧ t = .union names := by
  obtain ⟨_, _, h⟩ := bind_ok_iff.mp h
  split at h
  · cases h
    exact Or.inl ⟨_, rfl, rfl⟩
  · split at h
    · next names hnames =>
      cases h
      exact Or.inr ⟨names, hnames, rfl⟩
    · cases h

theorem TypeNames.read_ofJson_ok {m : Medium} {v : Json} {t : TypeNames}
    (h : TypeNames.read m (.ofJson v) = .ok t) : t.ordered.toJson = v := by
  rcases TypeNames.read_ok h with ⟨name, hname, rfl⟩ | ⟨names, hnames, rfl⟩
  · have hstring : (Source.ofJson v).readString = .ok name := by
      rw [hname]
      rfl
    exact (Source.readString_ofJson_ok hstring).symm
  · rw [TypeNames.ordered, Schema.strings_toJson, Source.readStrings_ofJson_ok hnames]

namespace Schema

/-! ## 2. What is written -/

/-- What is written under a name. -/
def written (s : Schema) (key : String) : Option Json :=
  (Table.find? key (keywords.zip s.slots)).join.or (s.extra.get? key)

theorem written_empty (key : String) : ({} : Schema).written key = none := by
  have hslots : ({} : Schema).slots = List.replicate 14 none := rfl
  rw [written, hslots]
  cases hfind : Table.find? key (keywords.zip (List.replicate 14 none)) with
  | none => rfl
  | some slot =>
    have hslot : slot ∈ List.replicate 14 none := (List.of_mem_zip (Table.mem_of_find? hfind)).2
    rw [List.eq_of_mem_replicate hslot]
    rfl

theorem find?_zip_set {α : Type} {keys : List String} (hkeys : keys.Nodup) {key k : String}
    {i : Nat} (x : α) (hi : keys[i]? = some k) :
    ∀ {vals : List α}, keys.length = vals.length →
      Table.find? key (keys.zip (vals.set i x)) =
        if key = k then some x else Table.find? key (keys.zip vals) := by
  induction keys generalizing i with
  | nil => exact nomatch hi
  | cons a rest ih =>
    obtain ⟨hfresh, hrest⟩ := List.nodup_cons.mp hkeys
    intro vals hlength
    obtain _ | ⟨b, vals⟩ := vals
    · exact nomatch hlength
    · cases i with
      | zero =>
        cases hi
        simp only [List.set_cons_zero, List.zip_cons_cons, Table.find?]
        split <;> rfl
      | succ i =>
        have hne : k ≠ a := by
          rintro rfl
          exact hfresh (List.mem_of_getElem? hi)
        simp only [List.set_cons_succ, List.zip_cons_cons, Table.find?]
        rw [ih hrest hi (Nat.succ.inj hlength)]
        by_cases hkey : key = k
        · subst hkey
          rw [if_neg hne, if_pos rfl, if_pos rfl]
        · rw [if_neg hkey, if_neg hkey]

/-- A keyword that is set is written with its new value, and the others as before. -/
theorem written_set {s t : Schema} {k : String} {x : Option Json} (i : Nat)
    (hi : keywords[i]? = some k) (hslots : t.slots = s.slots.set i x) (hextra : t.extra = s.extra)
    (hs : s.extra.get? k = none) (key : String) :
    t.written key = if key = k then x else s.written key := by
  rw [written, hslots, hextra, find?_zip_set (by decide) x hi rfl]
  by_cases hkey : key = k
  · subst hkey
    rw [if_pos rfl, if_pos rfl, hs]
    exact Option.or_none
  · rw [if_neg hkey, if_neg hkey, written]

/-- A name that is no keyword is written with its new value, and everything else as before. -/
theorem written_insert_extra (s : Schema) {k : String} (hk : k ∉ keywords) (v : Json)
    (key : String) : ({ s with extra := s.extra.insert k v } : Schema).written key =
      if key = k then some v else s.written key := by
  have hslots : ({ s with extra := s.extra.insert k v } : Schema).slots = s.slots := rfl
  rw [written, hslots, Table.get?_insert]
  by_cases hkey : key = k
  · subst hkey
    have hnone : Table.find? key (keywords.zip s.slots) = none := by
      rw [Table.find?_eq_none_iff, keys_zip_slots]
      exact hk
    rw [if_pos rfl, if_pos rfl, hnone]
    rfl
  · rw [if_neg hkey, if_neg hkey, written]

/-! ## 3. The value of a keyword -/

/-- The schemas that the parts of a value give are written as the value says, pruned. -/
structure PartsPruned (v : Json) (parts : Parts) : Prop where
  schema : ∀ t, v = .obj t → ∀ s, parts.schema () = .ok s → s.toJson = v.pruned
  table : ∀ t, v = .obj t → ∀ m d, parts.table m = .ok d →
    d.map Subschema.toJson = t.map Json.pruned
  list : ∀ l, v = .arr l → ∀ m p, parts.list m = .ok p → p.map Subschema.toJson = l.map Json.pruned

theorem readRef_written {v : Json} {token : Option String}
    (h : (Source.ofJson v).readOptional Source.readString = .ok token) :
    token.map Json.str = Json.remains "$ref" v := by
  rcases Source.readOptional_ofJson_ok h with ⟨rfl, rfl⟩ | ⟨hv, a, ha, rfl⟩
  · rfl
  · rw [Json.remains_optional (by decide) hv, Json.prunedUnder_plain (by decide),
      Source.readString_ofJson_ok ha]
    rfl

theorem readType_written {m : Medium} {v : Json} {t : Option TypeNames}
    (h : (Source.ofJson v).readOptional (TypeNames.read m) = .ok t) :
    (t.map fun t => t.ordered.toJson) = Json.remains "type" v := by
  rcases Source.readOptional_ofJson_ok h with ⟨rfl, rfl⟩ | ⟨hv, a, ha, rfl⟩
  · rfl
  · rw [Json.remains_optional (by decide) hv, Json.prunedUnder_plain (by decide),
      ← TypeNames.read_ofJson_ok ha]
    rfl

theorem readRequired_written {m : Medium} {v : Json} {l : List String}
    (h : ((Source.ofJson v).readList m fun _ => Source.readString) = .ok l) :
    (if l.isEmpty then none else some (Json.ofStrings l)) = Json.remains "required" v := by
  rw [Source.readStrings_ofJson_ok h, Json.ofStrings, Json.remains_plainList (by decide),
    List.isEmpty_map]

theorem readExamples_written {m : Medium} {v : Json} {l : List Json} (hv : v.WellFormed)
    (h : (Source.ofJson v).readList m Source.readJson = .ok l) :
    (if l.isEmpty then none else some (Json.arr l)) = Json.remains "examples" v := by
  rw [Source.readValues_ofJson_ok hv h, Json.remains_plainList (by decide)]

section

open Json

variable {m : Medium} {v : Json} {parts : Parts} {keyword : String} (hparts : PartsPruned v parts)
include hparts

theorem readSub_pruned {p : Subschema Schema} (h : readSub m (.ofJson v) parts = .ok p) :
    p.toJson = v.pruned := by
  obtain ⟨_, _, h⟩ := bind_ok_iff.mp h
  rcases v with _ | b | _ | _ | elements | ⟨⟨members⟩⟩
  case bool =>
    cases h
    rfl
  case obj =>
    cases hschema : parts.schema () with
    | error e =>
      simp only [Source.ofJson, hschema] at h
      cases h
    | ok s =>
      simp only [Source.ofJson, hschema] at h
      cases h
      exact hparts.schema _ rfl s hschema
  all_goals cases h

theorem readOption_written (hk : keyword ∈ soleKeywords) {o : Option (Subschema Schema)}
    (h : ((Source.ofJson v).readOptional fun s => readSub m s parts) = .ok o) :
    o.map Subschema.toJson = remains keyword v := by
  have hoptional : keyword ∈ optionalKeywords := List.mem_append_right _ hk
  rcases Source.readOptional_ofJson_ok h with ⟨rfl, rfl⟩ | ⟨hv, p, hp, rfl⟩
  · exact (remains_null hoptional).symm
  · rw [remains_optional hoptional hv, prunedUnder_sole hk, ← readSub_pruned hparts hp]
    rfl

theorem readItems_written {i : Option (Items Schema)}
    (h : ((Source.ofJson v).readOptional fun s => readItems m s parts) = .ok i) :
    i.map itemsJson = remains "items" v := by
  have hoptional : "items" ∈ optionalKeywords := by decide
  rcases Source.readOptional_ofJson_ok h with ⟨rfl, rfl⟩ | ⟨hv, i, hi, rfl⟩
  · exact (remains_null hoptional).symm
  rw [remains_optional hoptional hv]
  refine congrArg some ?_
  obtain ⟨_, _, hi⟩ := bind_ok_iff.mp hi
  rcases v with _ | b | _ | _ | elements | ⟨⟨members⟩⟩
  case bool =>
    cases hi
    rfl
  case arr =>
    cases hlist : parts.list .buffer with
    | error e =>
      simp only [Source.ofJson, hlist, bind, Except.bind] at hi
      cases hi
    | ok l =>
      simp only [Source.ofJson, hlist, bind, Except.bind] at hi
      cases hi
      rw [prunedUnder_list (by decide), ← hparts.list _ rfl _ l hlist]
      rfl
  case obj =>
    cases hschema : parts.schema () with
    | error e =>
      simp only [Source.ofJson, hschema, bind, Except.bind] at hi
      cases hi
    | ok s =>
      simp only [Source.ofJson, hschema, bind, Except.bind] at hi
      cases hi
      rw [prunedUnder_items_obj, ← hparts.schema _ rfl s hschema]
      rfl
  all_goals cases hi

theorem readTable_written (hv : v.WellFormed) (hk : keyword ∈ ["properties", "definitions"])
    {d : Definitions} (h : readTable m (.ofJson v) parts = .ok d) :
    tableJson d = remains keyword v := by
  rcases v with _ | _ | _ | _ | elements | ⟨⟨members⟩⟩
  case obj =>
    obtain ⟨inner, hd⟩ := readContainer_ok h
    cases hv with
    | obj hsorted _ =>
      have hmap := hparts.table _ rfl inner d hd
      have hd : d.Sorted := by
        rw [← Table.sorted_map_iff, hmap, Table.sorted_map_iff]
        exact hsorted
      have hempty : d.isEmpty = (Table.mk members).isEmpty := by
        rw [← Table.isEmpty_map Subschema.toJson, hmap, Table.isEmpty_map]
      rw [tableJson_eq hd, remains_table hk, hmap, hempty]
  all_goals cases h

theorem readAlternatives_written (hk : keyword ∈ ["allOf", "anyOf", "oneOf"])
    {l : List (Subschema Schema)} (h : readAlternatives m (.ofJson v) parts = .ok l) :
    alternativesJson l = remains keyword v := by
  rcases v with _ | _ | _ | _ | elements | ⟨⟨members⟩⟩
  case arr =>
    obtain ⟨inner, hl⟩ := readContainer_ok h
    have hmap := hparts.list _ rfl inner l hl
    have hempty : l.isEmpty = elements.isEmpty := by
      have hlength := congrArg List.isEmpty hmap
      simpa using hlength
    rw [alternativesJson, remains_list hk, hmap, hempty]
  all_goals cases h

/-- **A keyword that is set is written with what remains of its member**, and everything else is
    written as before. -/
theorem setKeyword_written (hv : v.WellFormed) {acc acc' : Schema} (hacc : acc.FieldsWellFormed)
    (h : setKeyword m (.ofJson v) parts keyword acc = .ok acc') (key : String) :
    acc'.written key = if key = keyword then remains keyword v else acc.written key := by
  have hextra {k : String} (hk : k ∈ keywords) : acc.extra.get? k = none :=
    hacc.wellFormed.extra_get?_keyword hk
  -- each keyword fills its own place in the list of slots; the last case is any other name
  unfold setKeyword at h
  simp only at h
  split at h
  · obtain ⟨x, hx, rfl⟩ := return_ok h
    rw [← readRef_written hx]
    refine written_set 0 rfl ?_ ?_ (hextra (by decide)) key <;> rfl
  · obtain ⟨x, hx, rfl⟩ := return_ok h
    rw [← readType_written hx]
    refine written_set 1 rfl ?_ ?_ (hextra (by decide)) key <;> rfl
  · obtain ⟨x, hx, rfl⟩ := return_ok h
    rw [← readTable_written hparts hv (by decide) hx]
    refine written_set 2 rfl ?_ ?_ (hextra (by decide)) key <;> rfl
  · obtain ⟨x, hx, rfl⟩ := return_ok h
    rw [← readItems_written hparts hx]
    refine written_set 3 rfl ?_ ?_ (hextra (by decide)) key <;> rfl
  · obtain ⟨x, hx, rfl⟩ := return_ok h
    rw [← readOption_written hparts (by decide) hx]
    refine written_set 4 rfl ?_ ?_ (hextra (by decide)) key <;> rfl
  · obtain ⟨x, hx, rfl⟩ := return_ok h
    rw [← readOption_written hparts (by decide) hx]
    refine written_set 5 rfl ?_ ?_ (hextra (by decide)) key <;> rfl
  · obtain ⟨x, hx, rfl⟩ := return_ok h
    rw [← readOption_written hparts (by decide) hx]
    refine written_set 6 rfl ?_ ?_ (hextra (by decide)) key <;> rfl
  · obtain ⟨x, hx, rfl⟩ := return_ok h
    rw [← readAlternatives_written hparts (by decide) hx]
    refine written_set 7 rfl ?_ ?_ (hextra (by decide)) key <;> rfl
  · obtain ⟨x, hx, rfl⟩ := return_ok h
    rw [← readAlternatives_written hparts (by decide) hx]
    refine written_set 8 rfl ?_ ?_ (hextra (by decide)) key <;> rfl
  · obtain ⟨x, hx, rfl⟩ := return_ok h
    rw [← readAlternatives_written hparts (by decide) hx]
    refine written_set 9 rfl ?_ ?_ (hextra (by decide)) key <;> rfl
  · obtain ⟨x, hx, rfl⟩ := return_ok h
    rw [← readOption_written hparts (by decide) hx]
    refine written_set 10 rfl ?_ ?_ (hextra (by decide)) key <;> rfl
  · obtain ⟨x, hx, rfl⟩ := return_ok h
    rw [← readTable_written hparts hv (by decide) hx]
    refine written_set 11 rfl ?_ ?_ (hextra (by decide)) key <;> rfl
  · obtain ⟨x, hx, rfl⟩ := return_ok h
    rw [← readRequired_written hx]
    refine written_set 12 rfl ?_ ?_ (hextra (by decide)) key <;> rfl
  · obtain ⟨x, hx, rfl⟩ := return_ok h
    rw [← readExamples_written hv hx]
    refine written_set 13 rfl ?_ ?_ (hextra (by decide)) key <;> rfl
  · obtain ⟨x, hx, rfl⟩ := return_ok h
    have hkeyword : keyword ∉ keywords := by
      simp only [keywords, List.mem_cons, List.not_mem_nil, or_false, not_or]
      refine ⟨?_, ?_, ?_, ?_, ?_, ?_, ?_, ?_, ?_, ?_, ?_, ?_, ?_, ?_⟩ <;> assumption
    rw [remains_of_not_mem hkeyword, Source.readJson_ofJson_ok hv hx]
    exact written_insert_extra acc hkeyword v key

end

/-! ## 4. Documents -/

theorem partsOfMembers_ofMembers (l : List (String × Json)) :
    partsOfMembers (Source.ofMembers l) =
      l.map fun e => (.ok e.1, .ofJson e.2, partsOf (.ofJson e.2)) := by
  rw [partsOfMembers_eq_map, Source.ofMembers_eq_map, List.map_map]
  rfl

theorem partsOfElements_ofElements (l : List Json) :
    partsOfElements (Source.ofElements l) = l.map fun v => (.ofJson v, partsOf (.ofJson v)) := by
  rw [partsOfElements_eq_map, Source.ofElements_eq_map, List.map_map]
  rfl

theorem WellFormed.exists_toJson_eq_obj {s : Schema} (hs : s.WellFormed) :
    ∃ t : Table Json, s.toJson = .obj t ∧ t.Sorted := by
  obtain ⟨t, ht⟩ := s.exists_toJson_eq_obj
  have hvalue := hs.toJson
  rw [ht] at hvalue
  cases hvalue with
  | obj hsorted _ => exact ⟨t, ht, hsorted⟩

/-- What a schema is written as is known from what is written under each name. -/
theorem WellFormed.toJson_eq_obj {s : Schema} (hs : s.WellFormed) {u : Table Json} (hu : u.Sorted)
    (h : ∀ key, s.written key = u.get? key) : s.toJson = .obj u := by
  obtain ⟨t, ht, hsorted⟩ := hs.exists_toJson_eq_obj
  rw [ht]
  refine congrArg Json.obj (hsorted.ext hu fun key => ?_)
  calc t.get? key = s.toJson.get? key := by rw [ht]; rfl
    _ = s.written key := toJson_get? hs key
    _ = u.get? key := h key

/-- And so is the schema itself. -/
theorem eq_of_written_eq {s t : Schema} (hs : s.WellFormed) (ht : t.WellFormed)
    (h : ∀ key, s.written key = t.written key) : s = t := by
  obtain ⟨u, hu, hsorted⟩ := ht.exists_toJson_eq_obj
  refine eq_of_toJson_eq hs t ht ?_
  rw [hu]
  refine hs.toJson_eq_obj hsorted fun key => ?_
  calc s.written key = t.written key := h key
    _ = t.toJson.get? key := (toJson_get? ht key).symm
    _ = u.get? key := by rw [hu]; rfl

section

variable {m : Medium} {t : Table Json} (hsorted : t.Sorted)
  (hparts : ∀ e ∈ t.entries, PartsPruned e.2 (partsOf (.ofJson e.2)))
include hsorted hparts

theorem readKeywords_pruned (hvalues : ∀ e ∈ t.entries, e.2.WellFormed) {s : Schema}
    (h : readKeywords m (partsOfMembers (Source.ofMembers t.entries)) = .ok s) :
    s.toJson = (Json.obj t).pruned := by
  rw [readKeywords, partsOfMembers_ofMembers] at h
  obtain ⟨hs, hwritten⟩ := readMembers_view (fun v => (Source.ofJson v, partsOf (.ofJson v)))
    FieldsWellFormed written Json.remains
    (fun e he acc acc' hacc h =>
      ⟨setKeyword_wellFormed (partsOf_wellFormed (Source.ofJson_canonical (hvalues e he)))
        (Source.ofJson_canonical (hvalues e he)) hacc h,
        setKeyword_written (hparts e he) (hvalues e he) hacc h⟩)
    fieldsWellFormed_empty h
  obtain ⟨l⟩ := t
  rw [Json.pruned]
  refine hs.wellFormed.toJson_eq_obj (Json.sorted_prunedMembers hsorted) fun key => ?_
  have hpruned : (Table.mk (Json.prunedMembers l)).get? key =
      (Table.find? key l).bind (Json.remains key) := Json.find?_prunedMembers hsorted.nodup_keys key
  rw [hpruned, hwritten key, written_empty, Table.find?_reverse hsorted.nodup_keys]
  cases Table.find? key l <;> rfl

theorem readEntries_pruned {d : Definitions}
    (h : readEntries m (partsOfMembers (Source.ofMembers t.entries)) = .ok d) :
    d.map Subschema.toJson = t.map Json.pruned := by
  rw [readEntries, partsOfMembers_ofMembers] at h
  obtain ⟨hd, hget⟩ := readMembers_view (fun v => (Source.ofJson v, partsOf (.ofJson v)))
    Table.Sorted
    (fun (d : Definitions) key => (d.get? key).map Subschema.toJson)
    (fun _ v => some v.pruned)
    (fun e he acc acc' hacc h => by
      obtain ⟨p, hp, rfl⟩ := return_ok h
      refine ⟨hacc.insert e.1 p, fun key => ?_⟩
      rw [Table.get?_insert]
      split
      · rw [Option.map_some, readSub_pruned (hparts e he) hp]
      · rfl)
    .nil h
  refine (hd.map _).ext (hsorted.map _) fun key => ?_
  have hentries : t.get? key = Table.find? key t.entries := rfl
  rw [Table.get?_map, Table.get?_map, hget key, Table.find?_reverse hsorted.nodup_keys, hentries]
  cases Table.find? key t.entries <;> rfl

end

/-- **The parts of a value give what is written as the value says, pruned.** -/
theorem partsOf_pruned {v : Json} (hv : v.WellFormed) :
    PartsPruned v (partsOf (.ofJson v)) := by
  induction hv with
  | @arr l _ ih =>
    refine ⟨?_, ?_, ?_⟩
    · rintro _ ⟨⟩
    · rintro _ ⟨⟩
    · rintro _ ⟨⟩ m p hp
      simp only [Source.ofJson, partsOf, partsOfElements_ofElements] at hp
      rw [List.mapM_map] at hp
      exact map_of_mapM_ok (fun v hv p hp => readSub_pruned (ih v hv) hp) hp
  | @obj t hsorted hvalues ih =>
    refine ⟨?_, ?_, ?_⟩
    · rintro _ ⟨⟩ s hs
      exact readKeywords_pruned hsorted ih hvalues hs
    · rintro _ ⟨⟩ m d hd
      exact readEntries_pruned hsorted ih hd
    · rintro _ ⟨⟩
  -- a scalar has no parts
  | _ => refine ⟨?_, ?_, ?_⟩ <;> rintro _ ⟨⟩

/-- **A schema that is read from a value is written as that value, pruned.** -/
theorem toJson_of_read {m : Medium} {v : Json} (hv : v.WellFormed) {s : Schema}
    (h : read m (.ofJson v) = .ok s) : s.toJson = v.pruned := by
  cases hv with
  | @obj t hsorted hvalues =>
    obtain ⟨inner, hs⟩ := readContainer_ok h
    exact readKeywords_pruned hsorted (fun e he => partsOf_pruned (hvalues e he)) hvalues hs
  | _ => cases h

end Schema

end SchemaCatalog
