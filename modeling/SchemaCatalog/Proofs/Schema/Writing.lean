/-
  Written schemas
  ===============
  **A well-formed schema can be told from its JSON value.**

  The value of a schema is an object.  What stands in it under each of the
  keywords with a field of their own is listed by `slots`, in the order of
  `keywords`; under any other name stands what the schema keeps there
  (`toJson_eq`).  So equal values have equal slots and keep the same, and
  the fields follow from the slots by induction on the schema.
-/
import SchemaCatalog.Schema.Writer
import SchemaCatalog.Proofs.Schema.WellFormed
import SchemaCatalog.Proofs.Table

namespace SchemaCatalog

/-! ## 1. Written values -/

namespace Json

mutual

theorem ordered_toJson : ∀ {v : Json}, v.WellFormed → v.ordered.toJson = v
  | .null, _ | .bool _, _ | .num _, _ | .str _, _ => rfl
  | .arr l, h => by
    cases h with
    | arr hl =>
      rw [ordered, OrderedJson.toJson, orderedElements_toJson hl]
  | .obj ⟨l⟩, h => by
    cases h with
    | obj hsorted hl =>
      rw [ordered, OrderedJson.toJson, orderedMembers_toJson hl]
      exact congrArg Json.obj hsorted.ofList_entries

theorem orderedElements_toJson : ∀ {l : List Json}, (∀ v ∈ l, v.WellFormed) →
    OrderedJson.toElements (orderedElements l) = l
  | [], _ => rfl
  | v :: l, h => by
    rw [orderedElements, OrderedJson.toElements, ordered_toJson (h v List.mem_cons_self),
      orderedElements_toJson fun w hw => h w (List.mem_cons_of_mem _ hw)]

/-- Members that are written are put into a table again. -/
theorem orderedMembers_toJson : ∀ {l : List (String × Json)} {acc : Table Json},
    (∀ e ∈ l, e.2.WellFormed) →
    OrderedJson.toMembers acc (orderedMembers l) = l.foldl (fun t e => t.insert e.1 e.2) acc
  | [], _, _ => rfl
  | (k, v) :: l, acc, h => by
    rw [orderedMembers, OrderedJson.toMembers, ordered_toJson (h (k, v) List.mem_cons_self),
      orderedMembers_toJson fun e he => h e (List.mem_cons_of_mem _ he)]
    rfl

end

end Json

theorem OrderedJson.toMembers_eq (acc : Table Json) (l : List (String × OrderedJson)) :
    OrderedJson.toMembers acc l =
      (l.map fun e => (e.1, e.2.toJson)).foldl (fun t e => t.insert e.1 e.2) acc := by
  induction l generalizing acc with
  | nil => rfl
  | cons e l ih =>
    obtain ⟨k, v⟩ := e
    rw [OrderedJson.toMembers, ih]
    rfl

theorem OrderedJson.toElements_eq (l : List OrderedJson) :
    OrderedJson.toElements l = l.map OrderedJson.toJson := by
  induction l with
  | nil => rfl
  | cons v l ih =>
    rw [OrderedJson.toElements, ih]
    rfl

/-- The value of written members is the object with the values of the members. -/
theorem OrderedJson.toJson_obj (l : List (String × OrderedJson)) :
    (OrderedJson.obj l).toJson = Json.ofMembers (l.map fun e => (e.1, e.2.toJson)) := by
  rw [OrderedJson.toJson, OrderedJson.toMembers_eq]
  rfl

namespace Schema

/-! ## 2. Slots -/

/-- The value of a table, unless it is empty. -/
def tableJson (t : Definitions) : Option Json :=
  if t.isEmpty then none
  else some (Json.ofMembers (t.entries.map fun e => (e.1, e.2.toJson)))

/-- The value of a list of alternatives, unless it is empty. -/
def alternativesJson (l : List (Subschema Schema)) : Option Json :=
  if l.isEmpty then none else some (.arr (l.map Subschema.toJson))

def itemsJson : Items Schema → Json
  | .each s => s.toJson
  | .tuple l => .arr (l.map Subschema.toJson)

/-- What is written under each of the keywords with a field of their own. -/
def slots (s : Schema) : List (Option Json) :=
  [s.ref.map .str, s.type.map fun t => t.ordered.toJson, tableJson s.properties,
   s.items.map itemsJson, s.additionalItems.map Subschema.toJson, s.contains.map Subschema.toJson,
   s.additionalProperties.map Subschema.toJson, alternativesJson s.allOf, alternativesJson s.anyOf,
   alternativesJson s.oneOf, s.not.map Subschema.toJson, tableJson s.definitions,
   if s.required.isEmpty then none else some (.ofStrings s.required),
   if s.examples.isEmpty then none else some (.arr s.examples)]

/-- The names of a list of slots that are filled, each with its value. -/
def filled {α : Type} (l : List (String × Option α)) : List (String × α) :=
  l.flatMap fun e => (e.2.map fun v => (e.1, v)).toList

theorem orderedList_toJson (l : List (Subschema Schema)) :
    OrderedJson.toElements (orderedList l) = l.map Subschema.toJson := by
  induction l with
  | nil => rfl
  | cons s l ih =>
    rw [orderedList, OrderedJson.toElements, ih]
    rfl

theorem orderedEntries_toJson (l : List (String × Subschema Schema)) :
    ((orderedEntries l).map fun e => (e.1, e.2.toJson)) = l.map fun e => (e.1, e.2.toJson) := by
  induction l with
  | nil => rfl
  | cons e l ih =>
    obtain ⟨k, s⟩ := e
    rw [orderedEntries, List.map_cons, ih]
    rfl

section

variable (keyword : String)

theorem orderedTable_toJson (t : Definitions) :
    ((orderedTable keyword t.entries).map fun e => (e.1, e.2.toJson)) =
      ((tableJson t).map fun v => (keyword, v)).toList := by
  obtain ⟨_ | ⟨⟨k, s⟩, l⟩⟩ := t
  · rfl
  · rw [orderedTable, List.map_cons, OrderedJson.toJson_obj, List.map_cons,
      orderedEntries_toJson]
    rfl

theorem orderedOption_toJson (s : Option (Subschema Schema)) :
    ((orderedOption keyword s).map fun e => (e.1, e.2.toJson)) =
      ((s.map Subschema.toJson).map fun v => (keyword, v)).toList := by
  cases s <;> rfl

theorem orderedAlternatives_toJson (l : List (Subschema Schema)) :
    ((orderedAlternatives keyword l).map fun e => (e.1, e.2.toJson)) =
      ((alternativesJson l).map fun v => (keyword, v)).toList := by
  cases l with
  | nil => rfl
  | cons s l =>
    have helements : (OrderedJson.arr (orderedSub s :: orderedList l)).toJson =
        .arr ((s :: l).map Subschema.toJson) := by
      rw [OrderedJson.toJson, OrderedJson.toElements, orderedList_toJson]
      rfl
    rw [orderedAlternatives, List.map_cons, helements]
    rfl

theorem orderedItems_toJson (i : Option (Items Schema)) :
    ((orderedItems i).map fun e => (e.1, e.2.toJson)) =
      ((i.map itemsJson).map fun v => ("items", v)).toList := by
  rcases i with _ | (s | l)
  · rfl
  · rfl
  · rw [orderedItems, List.map_cons, OrderedJson.toJson, orderedList_toJson]
    rfl

end

theorem strings_toJson (l : List String) :
    (OrderedJson.arr (l.map .str)).toJson = Json.ofStrings l := by
  rw [OrderedJson.toJson, OrderedJson.toElements_eq, List.map_map]
  rfl

/-- **The value of a schema**: the filled slots, and what the schema keeps. -/
theorem toJson_eq {s : Schema} (hextra : ∀ e ∈ s.extra.entries, e.2.WellFormed)
    (hexamples : ∀ v ∈ s.examples, v.WellFormed) :
    s.toJson = Json.ofMembers (filled (keywords.zip s.slots) ++ s.extra.entries) := by
  obtain ⟨ref, type, ⟨properties⟩, items, additionalItems, contains, additionalProperties, allOf,
    anyOf, oneOf, not, ⟨definitions⟩, required, examples, extra⟩ := s
  have href : ((ref.map fun r => ("$ref", OrderedJson.str r)).toList.map
      fun e => (e.1, e.2.toJson)) = ((ref.map Json.str).map fun v => ("$ref", v)).toList := by
    cases ref <;> rfl
  have htype : ((type.map fun t => ("type", t.ordered)).toList.map fun e => (e.1, e.2.toJson)) =
      ((type.map fun t => t.ordered.toJson).map fun v => ("type", v)).toList := by
    cases type <;> rfl
  have hproperties := orderedTable_toJson "properties" ⟨properties⟩
  have hdefinitions := orderedTable_toJson "definitions" ⟨definitions⟩
  have hrequired : ((if required.isEmpty then []
      else [("required", OrderedJson.arr (required.map .str))]).map fun e => (e.1, e.2.toJson)) =
      ((if required.isEmpty then none else some (Json.ofStrings required)).map
        fun v => ("required", v)).toList := by
    cases required with
    | nil => rfl
    | cons name rest => exact congrArg (fun v => [("required", v)]) (strings_toJson (name :: rest))
  have hkept : ((if examples.isEmpty then []
      else [("examples", OrderedJson.arr (examples.map Json.ordered))]).map
        fun e => (e.1, e.2.toJson)) =
      ((if examples.isEmpty then none else some (Json.arr examples)).map
        fun v => ("examples", v)).toList := by
    have hvalues : examples.map (OrderedJson.toJson ∘ Json.ordered) = examples :=
      (List.map_congr_left fun v hv => Json.ordered_toJson (hexamples v hv)).trans (List.map_id _)
    cases examples with
    | nil => rfl
    | cons v rest =>
      rw [← List.map_map, ← OrderedJson.toElements_eq] at hvalues
      exact congrArg (fun l => [("examples", Json.arr l)]) hvalues
  have hothers : ((extra.entries.map fun e => (e.1, e.2.ordered)).map
      fun e => (e.1, e.2.toJson)) = extra.entries := by
    rw [List.map_map]
    refine (List.map_congr_left fun e he => ?_).trans (List.map_id _)
    exact Prod.ext rfl (Json.ordered_toJson (hextra e he))
  rw [toJson, ordered, OrderedJson.toJson_obj]
  simp only [List.map_append, href, htype, hproperties, orderedItems_toJson,
    orderedOption_toJson, orderedAlternatives_toJson, hdefinitions, hrequired, hkept, hothers]
  simp only [keywords, slots, filled, List.zip_cons_cons, List.zip_nil_left, List.flatMap_cons,
    List.flatMap_nil, List.append_assoc, List.nil_append]

theorem exists_toJson_eq_obj (s : Schema) : ∃ members, s.toJson = .obj members := by
  cases s
  rw [toJson, ordered, OrderedJson.toJson]
  exact ⟨_, rfl⟩

/-! ## 3. Look-ups in the value of a schema -/

theorem filled_keys {α : Type} (l : List (String × Option α)) :
    ((filled l).map (·.1)).Sublist (l.map (·.1)) := by
  induction l with
  | nil => exact List.Sublist.refl _
  | cons e l ih =>
    obtain ⟨k, _ | v⟩ := e
    · exact List.Sublist.cons _ ih
    · exact List.Sublist.cons_cons _ ih

theorem find?_filled {α : Type} {l : List (String × Option α)} (h : (l.map (·.1)).Nodup)
    (key : String) : Table.find? key (filled l) = (Table.find? key l).join := by
  induction l with
  | nil => rfl
  | cons e l ih =>
    obtain ⟨k, v⟩ := e
    rw [List.map_cons, List.nodup_cons] at h
    have hrest : filled ((k, v) :: l) = (v.map fun v => (k, v)).toList ++ filled l := rfl
    rw [hrest, Table.find?_append, ih h.2, Table.find?]
    by_cases hk : key = k
    · subst hk
      have hnone : Table.find? key l = none := Table.find?_eq_none_iff.mpr h.1
      rw [if_pos rfl, hnone]
      cases v with
      | none => rfl
      | some v => simp [Table.find?]
    · rw [if_neg hk]
      cases v with
      | none => rfl
      | some v => simp [Table.find?, hk]

theorem keys_zip_slots (s : Schema) : (keywords.zip s.slots).map (·.1) = keywords := rfl

theorem keys_nodup {s : Schema} (h : s.WellFormed) :
    ((filled (keywords.zip s.slots) ++ s.extra.entries).map (·.1)).Nodup := by
  have hkeywords : keywords.Nodup := by decide
  have hfilled : ∀ key ∈ (filled (keywords.zip s.slots)).map (·.1), key ∈ keywords := by
    intro key hkey
    have hmem := (filled_keys (keywords.zip s.slots)).subset hkey
    rwa [keys_zip_slots] at hmem
  rw [List.map_append, List.nodup_append]
  refine ⟨?_, h.extra_sorted.nodup_keys, ?_⟩
  · refine (filled_keys _).nodup ?_
    rwa [keys_zip_slots]
  · rintro key hkey _ hextra rfl
    exact h.extra_keys key hextra (hfilled key hkey)

/-- **What the value of a schema has under a name.** -/
theorem toJson_get? {s : Schema} (h : s.WellFormed) (key : String) :
    s.toJson.get? key =
      (Table.find? key (keywords.zip s.slots)).join.or (s.extra.get? key) := by
  have hzip : ((keywords.zip s.slots).map (·.1)).Nodup := by
    rw [keys_zip_slots]
    decide
  rw [toJson_eq h.extra_values h.examples, Json.ofMembers, Json.get?,
    Table.get?_ofList (keys_nodup h), Table.find?_append, find?_filled hzip]
  rfl

/-- A keyword with a field of its own is not kept among the others. -/
theorem WellFormed.extra_get?_keyword {s : Schema} (h : s.WellFormed) {key : String}
    (hkey : key ∈ keywords) : s.extra.get? key = none := by
  rw [Table.get?_eq_none_iff, ← Bool.not_eq_true, ← Table.mem_keys_iff]
  exact fun hextra => h.extra_keys key hextra hkey

/-- Under a keyword with a field of its own stands what its slot says. -/
theorem map_get?_keywords {s : Schema} (h : s.WellFormed) :
    keywords.map s.toJson.get? = s.slots := by
  have hslots : keywords.map (fun key => (Table.find? key (keywords.zip s.slots)).join) =
      s.slots := by
    simp [keywords, slots, Table.find?]
  rw [← hslots]
  refine List.map_congr_left fun key hkey => ?_
  rw [toJson_get? h, h.extra_get?_keyword hkey, Option.or_none]

/-- Under any other name stands what the schema keeps. -/
theorem toJson_get?_of_not_mem {s : Schema} (h : s.WellFormed) {key : String}
    (hkey : key ∉ keywords) : s.toJson.get? key = s.extra.get? key := by
  have hnone : Table.find? key (keywords.zip s.slots) = none := by
    rw [Table.find?_eq_none_iff, keys_zip_slots]
    exact hkey
  rw [toJson_get? h, hnone]
  rfl

/-! ## 4. The fields follow from the slots -/

theorem map_cancel {α β : Type} {f : α → β} {l m : List α}
    (hf : ∀ a ∈ l, ∀ b ∈ m, f a = f b → a = b) (h : l.map f = m.map f) : l = m := by
  induction l generalizing m with
  | nil => exact (List.map_eq_nil_iff.mp h.symm).symm
  | cons a l ih =>
    cases m with
    | nil => exact absurd h (List.cons_ne_nil _ _)
    | cons b m =>
      rw [List.map_cons, List.map_cons, List.cons.injEq] at h
      rw [hf a List.mem_cons_self b List.mem_cons_self h.1,
        ih (fun a ha b hb => hf a (List.mem_cons_of_mem _ ha) b (List.mem_cons_of_mem _ hb)) h.2]

theorem typeNames_toJson_cancel {t u : TypeNames} (h : t.ordered.toJson = u.ordered.toJson) :
    t = u := by
  cases t with
  | single name =>
    cases u with
    | single name' => rw [Json.str.inj h]
    | union names => exact nomatch h
  | union names =>
    cases u with
    | single name => exact nomatch h
    | union names' =>
      rw [TypeNames.ordered, TypeNames.ordered, strings_toJson, strings_toJson] at h
      rw [map_cancel (fun _ _ _ _ => Json.str.inj) (Json.arr.inj h)]

/-- Whether the places of two lists can be told apart by their values. -/
def Cancels (l m : List (Subschema Schema)) : Prop :=
  ∀ p ∈ l, ∀ q ∈ m, p.toJson = q.toJson → p = q

theorem Cancels.mono {l m l' m' : List (Subschema Schema)} (h : Cancels l m)
    (hl : ∀ p ∈ l', p ∈ l) (hm : ∀ p ∈ m', p ∈ m) : Cancels l' m' :=
  fun p hp q hq => h p (hl p hp) q (hm q hq)

theorem optionJson_cancel {s t : Option (Subschema Schema)} (hst : Cancels s.toList t.toList)
    (h : s.map Subschema.toJson = t.map Subschema.toJson) : s = t := by
  cases s with
  | none =>
    cases t with
    | none => rfl
    | some q => exact nomatch h
  | some p =>
    cases t with
    | none => exact nomatch h
    | some q =>
      rw [hst p List.mem_cons_self q List.mem_cons_self (Option.some.inj h)]

theorem alternativesJson_cancel {l m : List (Subschema Schema)} (hlm : Cancels l m)
    (h : alternativesJson l = alternativesJson m) : l = m := by
  cases l with
  | nil =>
    cases m with
    | nil => rfl
    | cons => exact nomatch h
  | cons =>
    cases m with
    | nil => exact nomatch h
    | cons => exact map_cancel hlm (Json.arr.inj (Option.some.inj h))

theorem itemsJson_cancel {i j : Option (Items Schema)} (hij : Cancels (itemPlaces i) (itemPlaces j))
    (h : i.map itemsJson = j.map itemsJson) : i = j := by
  -- a tuple is the only form whose value is an array
  have hmixed (p : Subschema Schema) (l : List Json) : p.toJson ≠ .arr l := by
    intro heq
    cases p with
    | flag b => exact nomatch heq
    | schema s =>
      obtain ⟨members, hobj⟩ := s.exists_toJson_eq_obj
      exact nomatch hobj.symm.trans heq
  rcases i with _ | (p | l)
  · cases j with
    | none => rfl
    | some => exact nomatch h
  · rcases j with _ | (q | m)
    · exact nomatch h
    · rw [hij p List.mem_cons_self q List.mem_cons_self (Option.some.inj h)]
    · exact absurd (Option.some.inj h) (hmixed p _)
  · rcases j with _ | (q | m)
    · exact nomatch h
    · exact absurd (Option.some.inj h).symm (hmixed q _)
    · have hlm : Cancels l m := hij
      rw [map_cancel hlm (Json.arr.inj (Option.some.inj h))]

/-- The value of a table in order has the values of its entries. -/
theorem tableJson_eq {t : Definitions} (ht : t.Sorted) :
    tableJson t = if t.isEmpty then none else some (.obj (t.map Subschema.toJson)) := by
  have hvalue : Json.ofMembers (t.entries.map fun e => (e.1, e.2.toJson)) =
      .obj (t.map Subschema.toJson) :=
    congrArg Json.obj (ht.map Subschema.toJson).ofList_entries
  rw [tableJson, hvalue]

theorem tableJson_cancel {t u : Definitions} (ht : t.Sorted) (hu : u.Sorted)
    (htu : Cancels t.values u.values) (h : tableJson t = tableJson u) : t = u := by
  have hmap : t.map Subschema.toJson = u.map Subschema.toJson := by
    rw [tableJson_eq ht, tableJson_eq hu] at h
    by_cases hempty : t.isEmpty = true
    · by_cases hempty' : u.isEmpty = true
      · have hnil {v : Definitions} (hv : v.isEmpty = true) : v.map Subschema.toJson = {} := by
          rw [Table.map, List.isEmpty_iff.mp hv]
          rfl
        rw [hnil hempty, hnil hempty']
      · rw [if_pos hempty, if_neg hempty'] at h
        cases h
    · by_cases hempty' : u.isEmpty = true
      · rw [if_neg hempty, if_pos hempty'] at h
        cases h
      · rw [if_neg hempty, if_neg hempty'] at h
        exact Json.obj.inj (Option.some.inj h)
  refine ht.ext hu fun name => ?_
  have hname : (t.get? name).map Subschema.toJson = (u.get? name).map Subschema.toJson := by
    rw [← Table.get?_map, ← Table.get?_map, hmap]
  refine optionJson_cancel (htu.mono ?_ ?_) hname
  · intro p hp
    exact List.mem_map.mpr ⟨_, Table.mem_of_get? (Option.mem_toList.mp hp), rfl⟩
  · intro p hp
    exact List.mem_map.mpr ⟨_, Table.mem_of_get? (Option.mem_toList.mp hp), rfl⟩

theorem stringsJson_cancel {l m : List String}
    (h : (if l.isEmpty then none else some (Json.ofStrings l)) =
      if m.isEmpty then none else some (Json.ofStrings m)) : l = m := by
  cases l with
  | nil =>
    cases m with
    | nil => rfl
    | cons => exact nomatch h
  | cons =>
    cases m with
    | nil => exact nomatch h
    | cons => exact map_cancel (fun _ _ _ _ => Json.str.inj) (Json.arr.inj (Option.some.inj h))

theorem examplesJson_cancel {l m : List Json}
    (h : (if l.isEmpty then none else some (Json.arr l)) =
      if m.isEmpty then none else some (Json.arr m)) : l = m := by
  cases l with
  | nil =>
    cases m with
    | nil => rfl
    | cons => exact nomatch h
  | cons =>
    cases m with
    | nil => exact nomatch h
    | cons => exact Json.arr.inj (Option.some.inj h)

/-- **The value of a well-formed schema determines it.** -/
theorem eq_of_toJson_eq {s : Schema} (hs : s.WellFormed) :
    ∀ t : Schema, t.WellFormed → s.toJson = t.toJson → s = t := by
  induction hs with
  | @intro s hproperties hdefinitions hextra hkeys hvalues hexamples hplaces ih =>
    intro t ht h
    have hs : s.WellFormed :=
      .intro hproperties hdefinitions hextra hkeys hvalues hexamples hplaces
    have hcancels : Cancels s.places t.places := by
      intro p hp q hq heq
      cases p with
      | flag b =>
        cases q with
        | flag b' => rw [Json.bool.inj heq]
        | schema u =>
          obtain ⟨members, hobj⟩ := u.exists_toJson_eq_obj
          exact nomatch heq.trans hobj
      | schema u =>
        cases q with
        | flag b =>
          obtain ⟨members, hobj⟩ := u.exists_toJson_eq_obj
          exact nomatch heq.symm.trans hobj
        | schema u' => rw [ih u hp u' (ht.places u' hq) heq]
    -- one equation for each keyword, from which the fields follow one by one
    have hslots : s.slots = t.slots := by
      rw [← map_get?_keywords hs, ← map_get?_keywords ht, h]
    simp only [slots, List.cons.injEq] at hslots
    obtain ⟨href, htype, hprops, hitems, hadditionalItems, hcontains, hadditional, hallOf, hanyOf,
      honeOf, hnot, hdefs, hrequired, hkept, _⟩ := hslots
    have hpart (f : Schema → List (Subschema Schema)) (hf : ∀ u p, p ∈ f u → p ∈ u.places) :
        Cancels (f s) (f t) := hcancels.mono (hf s) (hf t)
    have eref : s.ref = t.ref := Option.map_injective (fun _ _ => Json.str.inj) href
    have etype : s.type = t.type := Option.map_injective (fun _ _ => typeNames_toJson_cancel) htype
    have eproperties : s.properties = t.properties :=
      tableJson_cancel hproperties ht.properties_sorted
        (hpart (·.properties.values) (by simp +contextual [places])) hprops
    have eitems : s.items = t.items :=
      itemsJson_cancel (hpart (itemPlaces ·.items) (by simp +contextual [places])) hitems
    have eadditionalItems : s.additionalItems = t.additionalItems :=
      optionJson_cancel (hpart (·.additionalItems.toList) (by simp +contextual [places]))
        hadditionalItems
    have econtains : s.contains = t.contains :=
      optionJson_cancel (hpart (·.contains.toList) (by simp +contextual [places])) hcontains
    have eadditional : s.additionalProperties = t.additionalProperties :=
      optionJson_cancel (hpart (·.additionalProperties.toList) (by simp +contextual [places]))
        hadditional
    have eallOf : s.allOf = t.allOf :=
      alternativesJson_cancel (hpart (·.allOf) (by simp +contextual [places])) hallOf
    have eanyOf : s.anyOf = t.anyOf :=
      alternativesJson_cancel (hpart (·.anyOf) (by simp +contextual [places])) hanyOf
    have eoneOf : s.oneOf = t.oneOf :=
      alternativesJson_cancel (hpart (·.oneOf) (by simp +contextual [places])) honeOf
    have enot : s.not = t.not :=
      optionJson_cancel (hpart (·.not.toList) (by simp +contextual [places])) hnot
    have edefinitions : s.definitions = t.definitions :=
      tableJson_cancel hdefinitions ht.definitions_sorted
        (hpart (·.definitions.values) (by simp +contextual [places])) hdefs
    have erequired : s.required = t.required := stringsJson_cancel hrequired
    have eexamples : s.examples = t.examples := examplesJson_cancel hkept
    have eextra : s.extra = t.extra := by
      refine hextra.ext ht.extra_sorted fun name => ?_
      by_cases hname : name ∈ keywords
      · rw [hs.extra_get?_keyword hname, ht.extra_get?_keyword hname]
      · rw [← toJson_get?_of_not_mem hs hname, ← toJson_get?_of_not_mem ht hname, h]
    cases s
    cases t
    simp only [Schema.mk.injEq]
    exact ⟨eref, etype, eproperties, eitems, eadditionalItems, econtains, eadditional, eallOf,
      eanyOf, eoneOf, enot, edefinitions, erequired, eexamples, eextra⟩

/-! ## 5. The value of a schema is well-formed -/

theorem ofMembers_wellFormed {l : List (String × Json)} (h : ∀ e ∈ l, e.2.WellFormed) :
    (Json.ofMembers l).WellFormed :=
  .obj (Table.sorted_ofList l) fun e he => h e (Table.mem_of_mem_ofList he)

theorem array_wellFormed {l : List (Subschema Schema)} (h : ∀ p ∈ l, p.toJson.WellFormed) :
    (Json.arr (l.map Subschema.toJson)).WellFormed := by
  refine .arr fun v hv => ?_
  obtain ⟨p, hp, rfl⟩ := List.mem_map.mp hv
  exact h p hp

theorem ofStrings_wellFormed (l : List String) : (Json.ofStrings l).WellFormed := by
  refine .arr fun v hv => ?_
  obtain ⟨name, _, rfl⟩ := List.mem_map.mp hv
  exact .str name

theorem typeNames_wellFormed (t : TypeNames) : t.ordered.toJson.WellFormed := by
  cases t with
  | single name => exact .str name
  | union names =>
    rw [TypeNames.ordered, strings_toJson]
    exact ofStrings_wellFormed names

theorem tableJson_wellFormed {t : Definitions} (h : ∀ p ∈ t.values, p.toJson.WellFormed)
    {v : Json} (hv : tableJson t = some v) : v.WellFormed := by
  rw [tableJson] at hv
  split at hv
  · cases hv
  · cases hv
    refine ofMembers_wellFormed fun e he => ?_
    obtain ⟨entry, hentry, rfl⟩ := List.mem_map.mp he
    exact h _ (List.mem_map.mpr ⟨entry, hentry, rfl⟩)

theorem alternativesJson_wellFormed {l : List (Subschema Schema)}
    (h : ∀ p ∈ l, p.toJson.WellFormed) {v : Json} (hv : alternativesJson l = some v) :
    v.WellFormed := by
  rw [alternativesJson] at hv
  split at hv
  · cases hv
  · cases hv
    exact array_wellFormed h

theorem itemsJson_wellFormed {i : Option (Items Schema)}
    (h : ∀ p ∈ itemPlaces i, p.toJson.WellFormed) {v : Json} (hv : i.map itemsJson = some v) :
    v.WellFormed := by
  rcases i with _ | (p | l)
  · cases hv
  · cases hv
    exact h p List.mem_cons_self
  · cases hv
    exact array_wellFormed h

theorem optionJson_wellFormed {s : Option (Subschema Schema)}
    (h : ∀ p ∈ s.toList, p.toJson.WellFormed) {v : Json}
    (hv : s.map Subschema.toJson = some v) : v.WellFormed := by
  cases s with
  | none => cases hv
  | some p =>
    cases hv
    exact h p List.mem_cons_self

/-- **The value of a well-formed schema is well-formed.** -/
theorem WellFormed.toJson {s : Schema} (h : s.WellFormed) : s.toJson.WellFormed := by
  induction h with
  | @intro s _ _ _ _ hvalues hexamples _ ih =>
    have hplaces : ∀ p ∈ s.places, p.toJson.WellFormed := by
      intro p hp
      cases p with
      | flag b => exact .bool b
      | schema t => exact ih t hp
    obtain ⟨hproperties, hitems, hadditionalItems, hcontains, hadditional, hallOf, hanyOf, honeOf,
      hnot, hdefinitions⟩ := forall_mem_places_iff.mp hplaces
    have hslots : ∀ v, some v ∈ s.slots → v.WellFormed := by
      intro v hv
      simp only [slots, List.mem_cons, List.not_mem_nil, or_false] at hv
      rcases hv with hv | hv | hv | hv | hv | hv | hv | hv | hv | hv | hv | hv | hv | hv
      · obtain ⟨token, _, rfl⟩ := Option.map_eq_some_iff.mp hv.symm
        exact .str token
      · obtain ⟨t, _, rfl⟩ := Option.map_eq_some_iff.mp hv.symm
        exact typeNames_wellFormed t
      · exact tableJson_wellFormed hproperties hv.symm
      · exact itemsJson_wellFormed hitems hv.symm
      · exact optionJson_wellFormed hadditionalItems hv.symm
      · exact optionJson_wellFormed hcontains hv.symm
      · exact optionJson_wellFormed hadditional hv.symm
      · exact alternativesJson_wellFormed hallOf hv.symm
      · exact alternativesJson_wellFormed hanyOf hv.symm
      · exact alternativesJson_wellFormed honeOf hv.symm
      · exact optionJson_wellFormed hnot hv.symm
      · exact tableJson_wellFormed hdefinitions hv.symm
      · split at hv
        · cases hv
        · cases hv
          exact ofStrings_wellFormed s.required
      · split at hv
        · cases hv
        · cases hv
          exact .arr hexamples
    rw [toJson_eq hvalues hexamples]
    refine ofMembers_wellFormed fun e he => ?_
    rcases List.mem_append.mp he with hfilled | hextra
    · obtain ⟨⟨key, slot⟩, hslot, he⟩ := List.mem_flatMap.mp hfilled
      obtain ⟨v, rfl, rfl⟩ := Option.map_eq_some_iff.mp (Option.mem_toList.mp he)
      exact hslots v (List.of_mem_zip hslot).2
    · exact hvalues e hextra

end Schema

end SchemaCatalog
