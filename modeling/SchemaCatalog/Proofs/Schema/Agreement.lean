/-
  Two readers of schemas
  ======================
  **A schema is read from a text exactly if it is read from the value of the text,
  as far as names do not repeat.**

  The reader of texts goes through the members as they stand and notices
  faults and repeated names on its way; the reader of values gets objects whose
  members have been merged and put in order.  Both read each member alike
  and store what they read in the same place (`Stores`).  What members
  leave in a schema or in a table is known from the last member of each
  name (`readMembers_agrees`), so neither their order nor the members before
  the last count.

  Whatever has been read up from a text is free of faults (`clear_of_read`).  A
  repeated keyword is refused in a text and not seen in a value, so one
  direction asks for distinct names; the other does not.
-/
import SchemaCatalog.Proofs.Json.Faults
import SchemaCatalog.Proofs.Schema.Preservation

namespace SchemaCatalog

/-! ## 1. Readings that agree -/

/-- What the first reading gives, the second gives as well; under the condition `both` the
    converse holds. -/
structure Agrees {α : Type} (both : Prop) (r r' : Reading α) : Prop where
  forth : ∀ a, r = .ok a → r' = .ok a
  back : both → ∀ a, r' = .ok a → r = .ok a

/-- What is made of a result with `f`; an error of any kind becomes `e`. -/
def recast {α β : Type} (f : α → β) (e : ReadError) : Reading α → Reading β
  | .ok a => .ok (f a)
  | .error _ => .error e

theorem recast_ok_iff {α β : Type} {f : α → β} {e : ReadError} {r : Reading α} {b : β} :
    recast f e r = .ok b ↔ ∃ a, r = .ok a ∧ f a = b := by
  cases r <;> simp [recast]

namespace Agrees

variable {α β : Type} {both : Prop}

theorem refl (r : Reading α) : Agrees both r r :=
  ⟨fun _ h => h, fun _ _ h => h⟩

theorem mono {both' : Prop} {r r' : Reading α} (h : Agrees both r r') (hsub : both' → both) :
    Agrees both' r r' :=
  ⟨h.forth, fun hboth => h.back (hsub hboth)⟩

/-- Two readings that both fail agree. -/
theorem of_error (e e' : ReadError) : Agrees (α := α) both (.error e) (.error e') := by
  constructor
  · intro a h
    cases h
  · intro _ a h
    cases h

theorem congr {r r' q q' : Reading α} (h : Agrees both r r') (hq : q = r) (hq' : q' = r') :
    Agrees both q q' := by
  rw [hq, hq']
  exact h

theorem bind {r r' : Reading α} {f f' : α → Reading β} (h : Agrees both r r')
    (hf : ∀ a, Agrees both (f a) (f' a)) : Agrees both (r >>= f) (r' >>= f') := by
  constructor
  · intro b hb
    obtain ⟨a, ha, hb⟩ := bind_ok_iff.mp hb
    exact bind_ok_iff.mpr ⟨a, h.forth a ha, (hf a).forth b hb⟩
  · intro hboth b hb
    obtain ⟨a, ha, hb⟩ := bind_ok_iff.mp hb
    exact bind_ok_iff.mpr ⟨a, h.back hboth a ha, (hf a).back hboth b hb⟩

theorem map {r r' : Reading α} (h : Agrees both r r') (f : α → β) :
    Agrees both (r.map f) (r'.map f) :=
  h.bind fun a => .refl (.ok (f a))

theorem recast {r r' : Reading α} (h : Agrees both r r') (f : α → β) (e : ReadError) :
    Agrees both (recast f e r) (recast f e r') := by
  constructor
  · intro b hb
    obtain ⟨a, ha, hab⟩ := recast_ok_iff.mp hb
    exact recast_ok_iff.mpr ⟨a, h.forth a ha, hab⟩
  · intro hboth b hb
    obtain ⟨a, ha, hab⟩ := recast_ok_iff.mp hb
    exact recast_ok_iff.mpr ⟨a, h.back hboth a ha, hab⟩

theorem mapM {f f' : α → Reading β} {l : List α} (h : ∀ a ∈ l, Agrees both (f a) (f' a)) :
    Agrees both (l.mapM f) (l.mapM f') := by
  induction l with
  | nil => exact refl _
  | cons a rest ih =>
    obtain ⟨hfirst, hrest⟩ := List.forall_mem_cons.mp h
    rw [List.mapM_cons, List.mapM_cons]
    exact hfirst.bind fun b => (ih hrest).bind fun bs => refl _

/-- The contents of a complete container, one level further in. -/
theorem container {m m' inner : Medium} (read read' : Medium → Reading α)
    (henter : m.enter = .ok inner) (hm' : m'.Unlimited)
    (h : Agrees both (read inner) (read' m')) :
    Agrees both
      (do let v ← read (← m.enter); Source.finish none; return v)
      (do let v ← read' (← m'.enter); Source.finish none; return v) := by
  rw [henter, hm'.enter]
  exact h.bind fun v => refl _

end Agrees

/-! ## 2. Readers of strings, lists and values -/

namespace Source

variable {both : Prop} {m m' : Medium} {s : Source}

theorem readString_agrees : Agrees both s.readString s.merged.readString := by
  cases s with
  | str t => exact .refl _
  | _ => exact .of_error _ _

section

variable (hclear : m.Clear s)
include hclear

theorem merged_ne_null (hs : s ≠ null) : s.merged ≠ null := by
  cases s with
  | null => exact absurd rfl hs
  | flawed e => exact absurd rfl (hclear.ne_flawed e)
  | broken b => exact absurd rfl (hclear.ne_broken b)
  | _ => nofun

theorem readOptional_agrees {α : Type} {read read' : Source → Reading α}
    (h : Agrees both (read s) (read' s.merged)) :
    Agrees both (s.readOptional read) (s.merged.readOptional read') := by
  by_cases hs : s = null
  · subst hs
    exact .refl _
  · rw [readOptional_of_ne_null read hs, readOptional_of_ne_null read' (merged_ne_null hclear hs)]
    exact h.map some

theorem readList_agrees {α : Type} {read read' : Medium → Source → Reading α}
    (hm' : m'.Unlimited)
    (h : ∀ l ending, s = arr l ending → ∀ e ∈ l, ∀ inner, inner.Clear e →
      Agrees both (read inner e) (read' m' e.merged)) :
    Agrees both (s.readList m read) (s.merged.readList m' read') := by
  cases s with
  | arr l ending =>
    obtain ⟨inner, henter, rfl, hl⟩ := hclear.arr
    rw [merged_arr]
    have helements : Agrees both (l.mapM (read inner)) ((l.map merged).mapM (read' m')) := by
      rw [List.mapM_map]
      exact .mapM fun e he => h l none rfl e he inner (hl e he)
    exact .container (fun m => l.mapM (read m)) (fun m => (l.map merged).mapM (read' m)) henter
      hm' helements
  | _ => exact .of_error _ _

theorem readJson_agrees (hs : s.Canonical) (hm' : m'.Unlimited) :
    Agrees both (s.readJson m) (s.merged.readJson m') := by
  have hvalue : s.merged.toJson = s.toJson := toJson_ofJson hs.toJson
  rw [readJson, readJson, hclear.takeIn, hm'.takeIn, hvalue]
  exact .refl _

end

end Source

theorem TypeNames.read_arr {m : Medium} {l : List Source} {ending : Option Break}
    (htaken : m.takeIn (.arr l ending) = .ok ()) : TypeNames.read m (.arr l ending) =
      recast union (.dataError (.noVariant "TypeDecl"))
        ((Source.arr l ending).readList .buffer fun _ => Source.readString) := by
  unfold TypeNames.read
  rw [htaken]
  cases hnames : (Source.arr l ending).readList .buffer fun _ => Source.readString with
  | ok names =>
    simp only [hnames]
    rfl
  | error e =>
    simp only [hnames]
    rfl

theorem TypeNames.read_agrees {both : Prop} {m m' : Medium} {s : Source} (hclear : m.Clear s)
    (hm' : m'.Unlimited) : Agrees both (TypeNames.read m s) (TypeNames.read m' s.merged) := by
  have hlist : Agrees both (s.readList .buffer fun _ => Source.readString)
      (s.merged.readList .buffer fun _ => Source.readString) :=
    Source.readList_agrees hclear.buffer Medium.unlimited_buffer
      fun _ _ _ _ _ _ _ => Source.readString_agrees
  have htaken := hclear.takeIn
  have htaken' := hm'.takeIn s.merged
  cases s with
  | arr l ending => exact (hlist.recast _ _).congr (read_arr htaken) (read_arr htaken')
  | _ =>
    unfold TypeNames.read
    rw [htaken, htaken']
    exact .refl _

namespace Schema

/-! ## 3. Keywords -/

/-- The parts of a source agree with those of its merged form. -/
structure PartsAgree (s : Source) : Prop where
  schema : Agrees s.distinct ((partsOf s).schema ()) ((partsOf s.merged).schema ())
  table : ∀ outer inner m' : Medium, outer.Clear s → outer.enter = .ok inner → m'.Unlimited →
    Agrees s.distinct ((partsOf s).table inner) ((partsOf s.merged).table m')
  list : ∀ outer inner m' : Medium, outer.Clear s → outer.enter = .ok inner → m'.Unlimited →
    Agrees s.distinct ((partsOf s).list inner) ((partsOf s.merged).list m')

section

variable {m : Medium} {parts : Parts} {ending : Option Break}

theorem readSub_obj {members : List (Except SyntaxError String × Source)}
    (htaken : m.takeIn (.obj members ending) = .ok ()) : readSub m (.obj members ending) parts =
      recast Subschema.schema (.dataError (.noVariant "SchemaOrBool")) (parts.schema ()) := by
  rw [readSub, htaken]
  cases parts.schema () <;> rfl

theorem readItems_obj {members : List (Except SyntaxError String × Source)}
    (htaken : m.takeIn (.obj members ending) = .ok ()) : readItems m (.obj members ending) parts =
      recast (fun s => .each (.schema s)) (.dataError (.noVariant "Items")) (parts.schema ()) := by
  rw [readItems, htaken]
  cases parts.schema () <;> rfl

theorem readItems_arr {l : List Source} (htaken : m.takeIn (.arr l ending) = .ok ()) :
    readItems m (.arr l ending) parts =
      recast Items.tuple (.dataError (.noVariant "Items")) (parts.list .buffer) := by
  rw [readItems, htaken]
  cases parts.list .buffer <;> rfl

end

section

variable {m m' : Medium} {s : Source} (hclear : m.Clear s) (hm' : m'.Unlimited)
  (hparts : PartsAgree s)
include hclear hm' hparts

theorem readSub_agrees :
    Agrees s.distinct (readSub m s (partsOf s)) (readSub m' s.merged (partsOf s.merged)) := by
  have htaken := hclear.takeIn
  have htaken' := hm'.takeIn s.merged
  cases s with
  | obj members ending =>
    exact (hparts.schema.recast _ _).congr (readSub_obj htaken) (readSub_obj htaken')
  | _ =>
    unfold readSub
    rw [htaken, htaken']
    exact .refl _

theorem readItems_agrees :
    Agrees s.distinct (readItems m s (partsOf s)) (readItems m' s.merged (partsOf s.merged)) := by
  have htaken := hclear.takeIn
  have htaken' := hm'.takeIn s.merged
  cases s with
  | obj members ending =>
    exact (hparts.schema.recast _ _).congr (readItems_obj htaken) (readItems_obj htaken')
  | arr l ending =>
    have hlist := hparts.list .buffer .buffer .buffer hclear.buffer rfl Medium.unlimited_buffer
    exact (hlist.recast _ _).congr (readItems_arr htaken) (readItems_arr htaken')
  | _ =>
    unfold readItems
    rw [htaken, htaken']
    exact .refl _

theorem readTable_agrees :
    Agrees s.distinct (readTable m s (partsOf s)) (readTable m' s.merged (partsOf s.merged)) := by
  cases s with
  | obj members ending =>
    obtain ⟨inner, henter, rfl, l, rfl, hl⟩ := hclear.obj
    exact .container _ _ henter hm' (hparts.table m inner m' hclear henter hm')
  | _ => exact .of_error _ _

theorem readAlternatives_agrees : Agrees s.distinct (readAlternatives m s (partsOf s))
    (readAlternatives m' s.merged (partsOf s.merged)) := by
  cases s with
  | arr l ending =>
    obtain ⟨inner, henter, rfl, hl⟩ := hclear.arr
    have hlist := hparts.list m inner m' hclear henter hm'
    rw [Source.merged_arr] at hlist ⊢
    exact .container _ _ henter hm' hlist
  | _ => exact .of_error _ _

end

section

variable {room : Nat} {s : Source}

theorem clear_of_readTable {d : Definitions} (h : readTable (.text room) s (partsOf s) = .ok d) :
    (Medium.text room).Clear s := by
  cases s with
  | obj members ending =>
    obtain ⟨inner, rfl, rfl, hd⟩ := Medium.exists_of_readContainer h
    simp only [partsOf, readEntries, partsOfMembers_eq_map] at hd
    refine Medium.clear_of_readMembers (fun s => (s, partsOf s)) (fun name s acc acc' h => ?_) hd
    obtain ⟨p, hp, _⟩ := return_ok h
    exact Medium.clear_of_takeIn hp
  | _ => cases h

theorem clear_of_readAlternatives {l : List (Subschema Schema)}
    (h : readAlternatives (.text room) s (partsOf s) = .ok l) : (Medium.text room).Clear s := by
  cases s with
  | arr elements ending =>
    obtain ⟨inner, rfl, rfl, hl⟩ := Medium.exists_of_readContainer h
    simp only [partsOf, partsOfElements_eq_map, List.mapM_map] at hl
    refine Source.fault?_arr_eq_none_iff.mpr ⟨inner, rfl, rfl, fun e he => ?_⟩
    obtain ⟨p, hp⟩ := exists_of_mapM_ok hl e he
    exact Medium.clear_of_takeIn hp
  | _ => cases h

end

/-! ## 4. What a keyword stores -/

/-- The keyword reads its value with `read`, whatever has been read before, and stores what that
    gives with `put`. -/
structure Stores (keyword : String) {α : Type} (read : Medium → Source → Reading α)
    (put : α → Schema → Schema) : Prop where
  eq : ∀ m s acc, setKeyword m s (partsOf s) keyword acc = do return put (← read m s) acc
  agrees : ∀ {m m' : Medium} {s : Source}, s.Canonical → m.Clear s → m'.Unlimited →
    PartsAgree s → Agrees s.distinct (read m s) (read m' s.merged)
  clear : ∀ {room : Nat} {s : Source} {a : α}, read (.text room) s = .ok a →
    (Medium.text room).Clear s

section

variable {keyword : String}

theorem stores_ref {put : Option String → Schema → Schema}
    (eq : ∀ m s acc, setKeyword m s (partsOf s) keyword acc =
      do return put (← s.readOptional Source.readString) acc) :
    Stores keyword (fun _ s => s.readOptional Source.readString) put where
  eq := eq
  agrees _ hclear _ _ := Source.readOptional_agrees hclear Source.readString_agrees
  clear := Medium.clear_of_readOptional fun _ => Medium.clear_of_readString

theorem stores_type {put : Option TypeNames → Schema → Schema}
    (eq : ∀ m s acc, setKeyword m s (partsOf s) keyword acc =
      do return put (← s.readOptional (TypeNames.read m)) acc) :
    Stores keyword (fun m s => s.readOptional (TypeNames.read m)) put where
  eq := eq
  agrees _ hclear hm' _ := Source.readOptional_agrees hclear (TypeNames.read_agrees hclear hm')
  clear := Medium.clear_of_readOptional fun _ => Medium.clear_of_takeIn

theorem stores_table {put : Definitions → Schema → Schema}
    (eq : ∀ m s acc, setKeyword m s (partsOf s) keyword acc =
      do return put (← readTable m s (partsOf s)) acc) :
    Stores keyword (fun m s => readTable m s (partsOf s)) put where
  eq := eq
  agrees _ := readTable_agrees
  clear := clear_of_readTable

theorem stores_items {put : Option (Items Schema) → Schema → Schema}
    (eq : ∀ m s acc, setKeyword m s (partsOf s) keyword acc =
      do return put (← s.readOptional fun e => readItems m e (partsOf s)) acc) :
    Stores keyword (fun m s => s.readOptional fun e => readItems m e (partsOf s)) put where
  eq := eq
  agrees _ hclear hm' hparts :=
    Source.readOptional_agrees hclear (readItems_agrees hclear hm' hparts)
  clear := Medium.clear_of_readOptional fun _ => Medium.clear_of_takeIn

theorem stores_option {put : Option (Subschema Schema) → Schema → Schema}
    (eq : ∀ m s acc, setKeyword m s (partsOf s) keyword acc =
      do return put (← s.readOptional fun e => readSub m e (partsOf s)) acc) :
    Stores keyword (fun m s => s.readOptional fun e => readSub m e (partsOf s)) put where
  eq := eq
  agrees _ hclear hm' hparts :=
    Source.readOptional_agrees hclear (readSub_agrees hclear hm' hparts)
  clear := Medium.clear_of_readOptional fun _ => Medium.clear_of_takeIn

theorem stores_alternatives {put : List (Subschema Schema) → Schema → Schema}
    (eq : ∀ m s acc, setKeyword m s (partsOf s) keyword acc =
      do return put (← readAlternatives m s (partsOf s)) acc) :
    Stores keyword (fun m s => readAlternatives m s (partsOf s)) put where
  eq := eq
  agrees _ := readAlternatives_agrees
  clear := clear_of_readAlternatives

theorem stores_strings {put : List String → Schema → Schema}
    (eq : ∀ m s acc, setKeyword m s (partsOf s) keyword acc =
      do return put (← s.readList m fun _ => Source.readString) acc) :
    Stores keyword (fun m s => s.readList m fun _ => Source.readString) put where
  eq := eq
  agrees _ hclear hm' _ := Source.readList_agrees hclear hm'
    fun _ _ _ _ _ _ _ => Source.readString_agrees
  clear := Medium.clear_of_readList fun _ _ _ => Medium.clear_of_readString

theorem stores_values {put : List Json → Schema → Schema}
    (eq : ∀ m s acc, setKeyword m s (partsOf s) keyword acc =
      do return put (← s.readList m Source.readJson) acc) :
    Stores keyword (fun m s => s.readList m Source.readJson) put where
  eq := eq
  agrees hs hclear hm' _ := Source.readList_agrees hclear hm' fun l ending hl e he _ hinner => by
    subst hl
    cases hs with
    | arr helements => exact Source.readJson_agrees hinner (helements e he) hm'
  clear := Medium.clear_of_readList fun _ _ _ => Medium.clear_of_takeIn

theorem stores_other (hkeyword : keyword ∉ keywords) :
    Stores keyword (fun m s => s.readJson m)
      (fun v acc => { acc with extra := acc.extra.insert keyword v }) where
  eq m s acc := by
    unfold setKeyword
    simp only
    split
    case h_15 => rfl
    all_goals exact absurd (by decide) hkeyword
  agrees hs hclear hm' _ := Source.readJson_agrees hclear hs hm'
  clear := Medium.clear_of_takeIn

/-- **Every keyword reads its value without regard to what has been read before.** -/
theorem exists_stores (keyword : String) : ∃ (α : Type) (read : Medium → Source → Reading α)
    (put : α → Schema → Schema), Stores keyword read put := by
  by_cases hkeyword : keyword ∈ keywords
  · -- one case for each keyword, in their order
    simp only [keywords, List.mem_cons, List.not_mem_nil, or_false] at hkeyword
    rcases hkeyword with rfl | rfl | rfl | rfl | rfl | rfl | rfl | rfl | rfl | rfl | rfl | rfl |
      rfl | rfl
    · exact ⟨_, _, fun v acc => { acc with ref := v }, stores_ref fun _ _ _ => rfl⟩
    · exact ⟨_, _, fun v acc => { acc with type := v }, stores_type fun _ _ _ => rfl⟩
    · exact ⟨_, _, fun v acc => { acc with properties := v }, stores_table fun _ _ _ => rfl⟩
    · exact ⟨_, _, fun v acc => { acc with items := v }, stores_items fun _ _ _ => rfl⟩
    · exact ⟨_, _, fun v acc => { acc with additionalItems := v },
        stores_option fun _ _ _ => rfl⟩
    · exact ⟨_, _, fun v acc => { acc with contains := v }, stores_option fun _ _ _ => rfl⟩
    · exact ⟨_, _, fun v acc => { acc with additionalProperties := v },
        stores_option fun _ _ _ => rfl⟩
    · exact ⟨_, _, fun v acc => { acc with allOf := v }, stores_alternatives fun _ _ _ => rfl⟩
    · exact ⟨_, _, fun v acc => { acc with anyOf := v }, stores_alternatives fun _ _ _ => rfl⟩
    · exact ⟨_, _, fun v acc => { acc with oneOf := v }, stores_alternatives fun _ _ _ => rfl⟩
    · exact ⟨_, _, fun v acc => { acc with not := v }, stores_option fun _ _ _ => rfl⟩
    · exact ⟨_, _, fun v acc => { acc with definitions := v }, stores_table fun _ _ _ => rfl⟩
    · exact ⟨_, _, fun v acc => { acc with required := v }, stores_strings fun _ _ _ => rfl⟩
    · exact ⟨_, _, fun v acc => { acc with examples := v }, stores_values fun _ _ _ => rfl⟩
  · exact ⟨_, _, _, stores_other hkeyword⟩

end

/-! ## 5. Members -/

section

variable {keyword : String} {m m' : Medium} {s : Source}

theorem setKeyword_agrees (hs : s.Canonical) (hclear : m.Clear s) (hm' : m'.Unlimited)
    (hparts : PartsAgree s) (acc : Schema) : Agrees s.distinct
      (setKeyword m s (partsOf s) keyword acc)
      (setKeyword m' s.merged (partsOf s.merged) keyword acc) := by
  obtain ⟨α, read, put, h⟩ := exists_stores keyword
  rw [h.eq, h.eq]
  exact (h.agrees hs hclear hm' hparts).bind fun v => .refl _

theorem exists_setKeyword_ok {acc result : Schema}
    (h : setKeyword m s (partsOf s) keyword acc = .ok result) (acc' : Schema) :
    ∃ result', setKeyword m s (partsOf s) keyword acc' = .ok result' := by
  obtain ⟨α, read, put, hstores⟩ := exists_stores keyword
  rw [hstores.eq] at h
  obtain ⟨v, hv, _⟩ := return_ok h
  refine ⟨put v acc', ?_⟩
  rw [hstores.eq, hv]
  rfl

theorem clear_of_setKeyword {room : Nat} {acc result : Schema}
    (h : setKeyword (.text room) s (partsOf s) keyword acc = .ok result) :
    (Medium.text room).Clear s := by
  obtain ⟨α, read, put, hstores⟩ := exists_stores keyword
  rw [hstores.eq] at h
  obtain ⟨v, hv, _⟩ := return_ok h
  exact hstores.clear hv

end

theorem partsOfMembers_named (l : List (String × Source)) :
    partsOfMembers (Source.named l) = l.map fun e => (.ok e.1, e.2, partsOf e.2) := by
  rw [partsOfMembers_eq_map, Source.named, List.map_map]
  rfl

section

variable {σ β : Type} {known : List String}
  {read : Medium → String → Source × Parts → σ → Reading σ} {m m' : Medium}
  {l : List (String × Source)}
  (hmember : ∀ e ∈ l, ∀ acc, Agrees e.2.distinct (read m e.1 (e.2, partsOf e.2) acc)
    (read m' e.1 (e.2.merged, partsOf e.2.merged) acc))
include hmember

/-- On both sides what shows under a name is what the last member of that name settles. -/
theorem view_eq_of_readMembers {P : σ → Prop} {view : σ → String → Option β}
    {shown : String → Json → Option β}
    (hshown : ∀ e ∈ l, ∀ acc acc', P acc →
      read m' e.1 (e.2.merged, partsOf e.2.merged) acc = .ok acc' → P acc' ∧
      ∀ key, view acc' key = if key = e.1 then shown e.1 e.2.toJson else view acc key)
    {acc r r' : σ} (hacc : P acc)
    (h : readMembers known (read m) [] acc (partsOfMembers (Source.named l)) = .ok r)
    (h' : readMembers known (read m') [] acc
      (partsOfMembers (Source.ofMembers (Source.tableOf l).entries)) = .ok r') :
    P r ∧ P r' ∧ ∀ key, view r key = view r' key := by
  rw [partsOfMembers_named] at h
  rw [partsOfMembers_ofMembers] at h'
  obtain ⟨hr, hview⟩ := readMembers_view (fun s => (s, partsOf s)) P view
    (fun key s => shown key s.toJson)
    (fun e he acc acc' hacc h => hshown e he acc acc' hacc ((hmember e he acc).forth acc' h))
    hacc h
  obtain ⟨hr', hview'⟩ := readMembers_view (fun v => (Source.ofJson v, partsOf (.ofJson v)))
    P view shown
    (fun e he acc acc' hacc h => by
      obtain ⟨name, v⟩ := e
      obtain ⟨s, hs, rfl⟩ := Source.exists_of_mem_tableOf he
      exact hshown _ hs acc acc' hacc h)
    hacc h'
  refine ⟨hr, hr', fun key => ?_⟩
  have hsorted := Source.tableOf_sorted l
  have hget : Table.find? key (Source.tableOf l).entries =
      (Table.find? key l.reverse).map Source.toJson := Source.get?_tableOf l key
  rw [hview key, hview' key, Table.find?_reverse hsorted.nodup_keys, hget, Option.map_map]
  rfl

variable (hany : ∀ m name s acc acc' result, read m name (s, partsOf s) acc = .ok result →
  ∃ result', read m name (s, partsOf s) acc' = .ok result')
include hany

theorem exists_readMembers_merged {acc result : σ}
    (h : readMembers known (read m) [] acc (partsOfMembers (Source.named l)) = .ok result) :
    ∃ result', readMembers known (read m') [] acc
      (partsOfMembers (Source.ofMembers (Source.tableOf l).entries)) = .ok result' := by
  rw [partsOfMembers_named] at h
  rw [partsOfMembers_ofMembers]
  refine exists_readMembers_ok (fun v => (Source.ofJson v, partsOf (.ofJson v)))
    (Source.tableOf_sorted l).nodup_keys (fun e he acc' => ?_) acc fun _ _ => List.not_mem_nil
  obtain ⟨name, v⟩ := e
  obtain ⟨s, hs, rfl⟩ := Source.exists_of_mem_tableOf he
  obtain ⟨_, a, a', hname, ha⟩ := exists_of_readMembers_ok h _ (List.mem_map_of_mem hs)
  cases hname
  exact hany m' name s.merged a acc' a' ((hmember _ hs a).forth a' ha)

theorem exists_readMembers_named (hnodup : (l.map (·.1)).Nodup)
    (hdistinct : ∀ e ∈ l, e.2.distinct) {acc result : σ}
    (h : readMembers known (read m') [] acc
      (partsOfMembers (Source.ofMembers (Source.tableOf l).entries)) = .ok result) :
    ∃ result', readMembers known (read m) [] acc (partsOfMembers (Source.named l)) =
      .ok result' := by
  rw [partsOfMembers_ofMembers] at h
  rw [partsOfMembers_named]
  refine exists_readMembers_ok (fun s => (s, partsOf s)) hnodup (fun e he acc' => ?_) acc
    fun _ _ => List.not_mem_nil
  obtain ⟨_, a, a', hname, ha⟩ :=
    exists_of_readMembers_ok h _ (List.mem_map_of_mem (Source.mem_tableOf hnodup he))
  cases hname
  exact hany m e.1 e.2 a acc' a' ((hmember e he a).back (hdistinct e he) a' ha)

variable (read)

/-- **Members agree with those of the object that they stand for**, if each of them does and is
    read whatever has been read before, and if what has been read is known from what it shows
    under each name. -/
theorem readMembers_agrees (P : σ → Prop) (view : σ → String → Option β)
    (shown : String → Json → Option β)
    (hshown : ∀ e ∈ l, ∀ acc acc', P acc →
      read m' e.1 (e.2.merged, partsOf e.2.merged) acc = .ok acc' → P acc' ∧
      ∀ key, view acc' key = if key = e.1 then shown e.1 e.2.toJson else view acc key)
    (hext : ∀ r r', P r → P r' → (∀ key, view r key = view r' key) → r = r')
    {acc : σ} (hacc : P acc) (ending : Option Break) :
    Agrees (Source.obj (Source.named l) ending).distinct
      (readMembers known (read m) [] acc (partsOfMembers (Source.named l)))
      (readMembers known (read m') [] acc
        (partsOfMembers (Source.ofMembers (Source.tableOf l).entries))) := by
  constructor
  · intro r h
    obtain ⟨r', h'⟩ := exists_readMembers_merged hmember hany h
    obtain ⟨hr, hr', hview⟩ := view_eq_of_readMembers hmember hshown hacc h h'
    rw [hext r r' hr hr' hview, h']
  · intro hdistinct r' h'
    obtain ⟨hnodup, hdistinct⟩ := Source.distinct_obj_named_iff.mp hdistinct
    obtain ⟨r, h⟩ := exists_readMembers_named hmember hany hnodup hdistinct h'
    obtain ⟨hr, hr', hview⟩ := view_eq_of_readMembers hmember hshown hacc h h'
    rw [h, hext r r' hr hr' hview]

end

section

variable {m m' : Medium} (hm' : m'.Unlimited) {l : List (String × Source)}
  (hclear : ∀ e ∈ l, m.Clear e.2) (hparts : ∀ e ∈ l, PartsAgree e.2) (ending : Option Break)
include hm' hclear hparts

theorem readKeywords_agrees (hs : ∀ e ∈ l, e.2.Canonical) :
    Agrees (Source.obj (Source.named l) ending).distinct
      (readKeywords m (partsOfMembers (Source.named l)))
      (readKeywords m' (partsOfMembers (Source.ofMembers (Source.tableOf l).entries))) := by
  refine readMembers_agrees (fun m k p acc => setKeyword m p.1 p.2 k acc)
    (fun e he acc => setKeyword_agrees (hs e he) (hclear e he) hm' (hparts e he) acc)
    (fun m name s acc acc' result h => exists_setKeyword_ok h acc')
    FieldsWellFormed written Json.remains ?_
    (fun r r' hr hr' h => eq_of_written_eq hr.wellFormed hr'.wellFormed h)
    fieldsWellFormed_empty ending
  intro e he acc acc' hacc h
  have hvalue : e.2.toJson.WellFormed := (hs e he).toJson
  have hmerged : e.2.merged.Canonical := Source.ofJson_canonical hvalue
  exact ⟨setKeyword_wellFormed (partsOf_wellFormed hmerged) hmerged hacc h,
    setKeyword_written (partsOf_pruned hvalue) hvalue hacc h⟩

theorem readEntries_agrees : Agrees (Source.obj (Source.named l) ending).distinct
    (readEntries m (partsOfMembers (Source.named l)))
    (readEntries m' (partsOfMembers (Source.ofMembers (Source.tableOf l).entries))) := by
  refine readMembers_agrees (fun m k p acc => return acc.insert k (← readSub m p.1 p.2))
    (fun e he acc => (readSub_agrees (hclear e he) hm' (hparts e he)).bind fun p => .refl _) ?_
    Table.Sorted Table.get? (fun _ v => (readSub m' (.ofJson v) (partsOf (.ofJson v))).toOption) ?_
    (fun r r' hr hr' h => hr.ext hr' h) .nil ending
  · intro m name s acc acc' result h
    obtain ⟨p, hp, _⟩ := return_ok h
    exact ⟨acc'.insert name p, bind_ok_iff.mpr ⟨p, hp, rfl⟩⟩
  · intro e he acc acc' hacc h
    obtain ⟨p, hp, rfl⟩ := return_ok h
    refine ⟨hacc.insert e.1 p, fun key => ?_⟩
    rw [Table.get?_insert, ← Source.merged, hp]
    rfl

end

/-- **The parts of a source agree with those of the value that it stands for.** -/
theorem partsAgree {s : Source} (hs : s.Canonical) (hclear : Medium.buffer.Clear s) :
    PartsAgree s := by
  induction hs with
  | @arr l ending hl ih =>
    refine ⟨.refl _, fun _ _ _ _ _ _ => .refl _, fun outer inner m' houter henter hm' => ?_⟩
    obtain ⟨_, henter', rfl, hinner⟩ := houter.arr
    obtain rfl := Except.ok.inj (henter.symm.trans henter')
    rw [Source.merged_arr, partsOf, partsOf]
    simp only [partsOfElements_eq_map, List.mapM_map]
    refine Agrees.mapM fun e he => ?_
    exact (readSub_agrees (hinner e he) hm' (ih e he (hinner e he).buffer)).mono
      fun hdistinct => Source.distinct_arr_iff.mp hdistinct e he
  | @obj members ending hmembers ih =>
    refine ⟨?_, fun outer inner m' houter henter hm' => ?_, fun _ _ _ _ _ _ => .refl _⟩
    · obtain ⟨_, henter, rfl, l, rfl, hl⟩ := hclear.obj
      cases henter
      exact readKeywords_agrees Medium.unlimited_buffer hl
        (fun e he => ih _ (List.mem_map_of_mem he) (hl e he)) none
        fun e he => hmembers _ (List.mem_map_of_mem he)
    · obtain ⟨_, henter', rfl, l, rfl, hl⟩ := houter.obj
      obtain rfl := Except.ok.inj (henter.symm.trans henter')
      exact readEntries_agrees hm' hl
        (fun e he => ih _ (List.mem_map_of_mem he) (hl e he).buffer) none
  | _ => exact ⟨.refl _, fun _ _ _ _ _ _ => .refl _, fun _ _ _ _ _ _ => .refl _⟩

/-! ## 6. Documents -/

theorem read_agrees {m m' : Medium} {s : Source} (hs : s.Canonical) (hclear : m.Clear s)
    (hm' : m'.Unlimited) : Agrees s.distinct (read m s) (read m' s.merged) := by
  cases hs with
  | obj hmembers =>
    obtain ⟨inner, henter, rfl, l, rfl, hl⟩ := hclear.obj
    have hcanonical : ∀ e ∈ l, e.2.Canonical := fun e he => hmembers _ (List.mem_map_of_mem he)
    exact .container _ _ henter hm' <| readKeywords_agrees hm' hl
      (fun e he => partsAgree (hcanonical e he) (hl e he).buffer) none hcanonical
  | _ => exact .of_error _ _

/-- A document that has been read from a text has no fault. -/
theorem clear_of_read {room : Nat} {s : Source} {n : Schema} (h : read (.text room) s = .ok n) :
    (Medium.text room).Clear s := by
  cases s with
  | obj members ending =>
    obtain ⟨inner, rfl, rfl, hn⟩ := Medium.exists_of_readContainer h
    rw [readKeywords, partsOfMembers_eq_map] at hn
    exact Medium.clear_of_readMembers (fun s => (s, partsOf s))
      (fun name s acc acc' => clear_of_setKeyword) hn
  | _ => cases h

/-- **The two readers of schemas agree.**  What is read as a schema is read as a value of which
    the same schema is read; and what is read as a value of which a schema is read is read as
    that schema, if no object repeats a name. -/
theorem ofBytes_agrees (bytes : Bytes) (n : Schema) :
    (ofBytes bytes = .ok n → ∃ v, Json.ofBytes bytes = .ok v ∧ ofJson v = .ok n) ∧
    (∀ v, Json.ofBytes bytes = .ok v → (Document.ofBytes bytes).root.distinct →
      ofJson v = .ok n → ofBytes bytes = .ok n) := by
  have hs : (Document.ofBytes bytes).root.Canonical := Document.ofBytes_canonical bytes
  constructor
  · intro h
    obtain ⟨hread, htrailing⟩ := readText_ok_iff.mp h
    have hclear : Medium.wholeText.Clear (Document.ofBytes bytes).root := clear_of_read hread
    refine ⟨(Document.ofBytes bytes).root.toJson, readText_ok_iff.mpr ⟨?_, htrailing⟩, ?_⟩
    · exact bind_ok_iff.mpr ⟨(), hclear.takeIn, rfl⟩
    · exact (read_agrees hs hclear Medium.unlimited_value).forth n hread
  · intro v hv hdistinct hn
    obtain ⟨hvalue, htrailing⟩ := readText_ok_iff.mp hv
    have hclear : Medium.wholeText.Clear (Document.ofBytes bytes).root :=
      Medium.clear_of_takeIn hvalue
    obtain ⟨_, _, hvalue⟩ := bind_ok_iff.mp hvalue
    obtain rfl : (Document.ofBytes bytes).root.toJson = v := Except.ok.inj hvalue
    have hread := (read_agrees hs hclear Medium.unlimited_value).back hdistinct n hn
    exact readText_ok_iff.mpr ⟨hread, htrailing⟩

/-- A text with its members out of order. -/
def shuffledText : Bytes := Bytes.ofString <|
  "\x7b\"properties\": \x7b\"y\": true, \"x\": \x7b\"title\": \"X\"\x7d\x7d, " ++
  "\"$ref\": null, \"allOf\": [false]\x7d"

/-- Its value. -/
def shuffledDocument : Json :=
  .obj ⟨[("$ref", .null), ("allOf", .arr [.bool false]),
    ("properties", .obj ⟨[("x", .obj ⟨[("title", .str "X")]⟩), ("y", .bool true)]⟩)]⟩

/-- Its schema. -/
def shuffledSchema : Schema :=
  { allOf := [.flag false]
    properties := ⟨[("x", .schema { extra := ⟨[("title", .str "X")]⟩ }), ("y", .flag true)]⟩ }

/-- A text with a table in which a name is given twice. -/
def repeatingText : Bytes := Bytes.ofString
  "\x7b\"definitions\": \x7b\"x\": true, \"x\": false\x7d\x7d"

theorem shuffledText_agrees : Json.ofBytes shuffledText = .ok shuffledDocument ∧
    (Document.ofBytes shuffledText).root.distinct ∧ ofJson shuffledDocument = .ok shuffledSchema ∧
    ofBytes shuffledText = .ok shuffledSchema ∧
    ∃ v, Json.ofBytes repeatingText = .ok v ∧
      ofJson v = .ok { definitions := ⟨[("x", .flag false)]⟩ } := by
  have hvalue : Json.ofBytes shuffledText = .ok shuffledDocument := by decide +kernel
  have hdistinct : (Document.ofBytes shuffledText).root.distinct := by decide +kernel
  have hschema : ofJson shuffledDocument = .ok shuffledSchema := by decide +kernel
  have hrepeating : ofBytes repeatingText =
      .ok { definitions := ⟨[("x", .flag false)]⟩ } := by decide +kernel
  exact ⟨hvalue, hdistinct, hschema,
    (ofBytes_agrees shuffledText shuffledSchema).2 shuffledDocument hvalue hdistinct hschema,
    (ofBytes_agrees repeatingText _).1 hrepeating⟩

/-- A keyword that is given twice is refused in a text; in a value it cannot be. -/
example : ofBytes (Bytes.ofString "\x7b\"$ref\": \"a\", \"$ref\": \"b\"\x7d") =
    .error (.dataError (.duplicateField "$ref")) := by
  decide +kernel

end Schema

end SchemaCatalog
