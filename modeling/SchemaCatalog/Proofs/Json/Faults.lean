/-
  Sources without faults
  ======================
  **What can be read as a whole: complete containers of named members, nested no
  deeper than the medium allows.**

  A source is `Clear` in a medium if no fault is met when it is taken in.
  What it holds is then clear one level further in (`clear_arr`, `clear_obj`),
  its members have names, and the object that it stands for has under each
  name the value of the last member of that name (`get?_tableOf`).
-/
import SchemaCatalog.Proofs.Json.Reading

namespace SchemaCatalog

/-! ## 1. Media without a limit -/

namespace Medium

/-- Whether containers may nest to any depth. -/
def Unlimited : Medium → Prop
  | text _ => False
  | value | buffer => True

theorem unlimited_value : Medium.value.Unlimited := trivial

theorem unlimited_buffer : Medium.buffer.Unlimited := trivial

variable {m : Medium} (h : m.Unlimited)
include h

theorem Unlimited.enter : m.enter = .ok m := by
  cases m with
  | text room => exact h.elim
  | value => rfl
  | buffer => rfl

theorem Unlimited.takeIn (s : Source) : m.takeIn s = .ok () := by
  cases m with
  | text room => exact h.elim
  | value => rfl
  | buffer => rfl

end Medium

/-- Where nothing is limited, a complete container gives what is read from its contents. -/
theorem readContainer_of_ok {α : Type} {m : Medium} (hm : m.Unlimited) {read : Medium → Reading α}
    {a : α} (h : read m = .ok a) : (do
      let v ← read (← m.enter)
      Source.finish none
      return v) = .ok a :=
  bind_ok_iff.mpr ⟨m, hm.enter, bind_ok_iff.mpr ⟨a, h, rfl⟩⟩

/-! ## 2. Faults of containers -/

namespace Source

theorem faultOfElements?_eq_none_iff {room : Nat} {l : List Source} :
    faultOfElements? room l = none ↔ ∀ s ∈ l, s.fault? room = none := by
  induction l with
  | nil => simp [faultOfElements?]
  | cons s rest ih => rw [faultOfElements?, Option.or_eq_none_iff, ih, List.forall_mem_cons]

theorem faultOfMembers?_eq_none_iff {room : Nat}
    {l : List (Except SyntaxError String × Source)} :
    faultOfMembers? room l = none ↔
      ∀ e ∈ l, (∃ name, e.1 = .ok name) ∧ e.2.fault? room = none := by
  induction l with
  | nil => simp [faultOfMembers?]
  | cons e rest ih =>
    obtain ⟨error | name, s⟩ := e
    · simp [faultOfMembers?]
    · rw [faultOfMembers?, Option.or_eq_none_iff, ih, List.forall_mem_cons]
      simp

/-- The members of an object, all of them with a name. -/
def named (l : List (String × Source)) : List (Except SyntaxError String × Source) :=
  l.map fun e => (.ok e.1, e.2)

theorem exists_eq_named {members : List (Except SyntaxError String × Source)}
    (h : ∀ e ∈ members, ∃ name, e.1 = .ok name) : ∃ l, members = named l := by
  induction members with
  | nil => exact ⟨[], rfl⟩
  | cons e rest ih =>
    obtain ⟨⟨name, hname⟩, hrest⟩ := List.forall_mem_cons.mp h
    obtain ⟨l, rfl⟩ := ih hrest
    obtain ⟨key, s⟩ := e
    obtain rfl : key = .ok name := hname
    exact ⟨(name, s) :: l, rfl⟩

theorem fault?_arr_eq_none_iff {room : Nat} {l : List Source} {ending : Option Break} :
    (arr l ending).fault? room = none ↔
      ∃ inner, room = inner + 1 ∧ ending = none ∧ ∀ s ∈ l, s.fault? inner = none := by
  cases room with
  | zero => simp [fault?]
  | succ inner => simp [fault?, faultOfElements?_eq_none_iff, and_comm]

theorem fault?_obj_eq_none_iff {room : Nat} {members : List (Except SyntaxError String × Source)}
    {ending : Option Break} :
    (obj members ending).fault? room = none ↔ ∃ inner, room = inner + 1 ∧ ending = none ∧
      ∃ l, members = named l ∧ ∀ e ∈ l, e.2.fault? inner = none := by
  cases room with
  | zero => simp [fault?]
  | succ inner =>
    rw [fault?, Option.or_eq_none_iff, faultOfMembers?_eq_none_iff, Option.map_eq_none_iff]
    constructor
    · rintro ⟨hmembers, rfl⟩
      obtain ⟨l, rfl⟩ := exists_eq_named fun e he => (hmembers e he).1
      exact ⟨inner, rfl, rfl, l, rfl, fun e he => (hmembers _ (List.mem_map_of_mem he)).2⟩
    · rintro ⟨_, hroom, rfl, l, rfl, hl⟩
      obtain rfl := Nat.succ.inj hroom
      refine ⟨?_, rfl⟩
      intro _ he
      obtain ⟨e, hmem, rfl⟩ := List.mem_map.mp he
      exact ⟨⟨e.1, rfl⟩, hl e hmem⟩

end Source

/-! ## 3. Clear sources -/

namespace Medium

/-- Nothing in the way of reading the source as a whole. -/
def Clear : Medium → Source → Prop
  | text room, s => s.fault? room = none
  | value, s | buffer, s => ∃ room, s.fault? room = none

namespace Clear

variable {m : Medium} {s : Source}

theorem takeIn (h : m.Clear s) : m.takeIn s = .ok () := by
  cases m with
  | text room =>
    have h : s.fault? room = none := h
    rw [Medium.takeIn, h]
  | value => rfl
  | buffer => rfl

/-- What is clear is clear once it is in a buffer. -/
theorem buffer (h : m.Clear s) : Medium.buffer.Clear s := by
  cases m with
  | text room => exact ⟨room, h⟩
  | value => exact h
  | buffer => exact h

theorem ne_flawed (h : m.Clear s) (e : SyntaxError) : s ≠ .flawed e := by
  rintro rfl
  obtain ⟨room, hroom⟩ := h.buffer
  cases hroom

theorem ne_broken (h : m.Clear s) (b : Break) : s ≠ .broken b := by
  rintro rfl
  obtain ⟨room, hroom⟩ := h.buffer
  cases hroom

theorem arr {l : List Source} {ending : Option Break} (h : m.Clear (.arr l ending)) :
    ∃ inner, m.enter = .ok inner ∧ ending = none ∧ ∀ s ∈ l, inner.Clear s := by
  cases m with
  | text room =>
    obtain ⟨inner, rfl, hending, hl⟩ := Source.fault?_arr_eq_none_iff.mp h
    exact ⟨.text inner, rfl, hending, hl⟩
  | value =>
    obtain ⟨_, h⟩ := h
    obtain ⟨inner, rfl, hending, hl⟩ := Source.fault?_arr_eq_none_iff.mp h
    exact ⟨.value, rfl, hending, fun s hs => ⟨inner, hl s hs⟩⟩
  | buffer =>
    obtain ⟨_, h⟩ := h
    obtain ⟨inner, rfl, hending, hl⟩ := Source.fault?_arr_eq_none_iff.mp h
    exact ⟨.buffer, rfl, hending, fun s hs => ⟨inner, hl s hs⟩⟩

theorem obj {members : List (Except SyntaxError String × Source)} {ending : Option Break}
    (h : m.Clear (.obj members ending)) : ∃ inner, m.enter = .ok inner ∧ ending = none ∧
      ∃ l, members = Source.named l ∧ ∀ e ∈ l, inner.Clear e.2 := by
  cases m with
  | text room =>
    obtain ⟨inner, rfl, hending, hl⟩ := Source.fault?_obj_eq_none_iff.mp h
    exact ⟨.text inner, rfl, hending, hl⟩
  | value =>
    obtain ⟨_, h⟩ := h
    obtain ⟨inner, rfl, hending, l, hmembers, hl⟩ := Source.fault?_obj_eq_none_iff.mp h
    exact ⟨.value, rfl, hending, l, hmembers, fun e he => ⟨inner, hl e he⟩⟩
  | buffer =>
    obtain ⟨_, h⟩ := h
    obtain ⟨inner, rfl, hending, l, hmembers, hl⟩ := Source.fault?_obj_eq_none_iff.mp h
    exact ⟨.buffer, rfl, hending, l, hmembers, fun e he => ⟨inner, hl e he⟩⟩

end Clear

end Medium

/-! ## 4. The object that members stand for -/

namespace Source

variable (l : List (String × Source))

/-- The value of an object with these members. -/
def tableOf : Table Json := toMembers {} (named l)

theorem toMembers_named (acc : Table Json) : toMembers acc (named l) =
    (l.map fun e => (e.1, e.2.toJson)).foldl (fun t e => t.insert e.1 e.2) acc := by
  induction l generalizing acc with
  | nil => rfl
  | cons e rest ih => exact ih (acc.insert e.1 e.2.toJson)

theorem tableOf_sorted : (tableOf l).Sorted := by
  rw [tableOf, toMembers_named]
  exact Table.sorted_ofList _

/-- The last member of a name counts. -/
theorem get?_tableOf (name : String) :
    (tableOf l).get? name = (Table.find? name l.reverse).map toJson := by
  rw [tableOf, toMembers_named, Table.get?_foldl_insert, ← List.map_reverse, Table.find?_map]
  exact Option.or_none

variable {l}

/-- What the object has comes from a member. -/
theorem exists_of_mem_tableOf {e : String × Json} (h : e ∈ (tableOf l).entries) :
    ∃ s, (e.1, s) ∈ l ∧ s.toJson = e.2 := by
  have hget := (tableOf_sorted l).get?_of_mem h
  rw [get?_tableOf, Option.map_eq_some_iff] at hget
  obtain ⟨s, hs, heq⟩ := hget
  exact ⟨s, List.mem_reverse.mp (Table.mem_of_find? hs), heq⟩

/-- Members of different names are all in the object. -/
theorem mem_tableOf (hnodup : (l.map (·.1)).Nodup) {e : String × Source} (h : e ∈ l) :
    (e.1, e.2.toJson) ∈ (tableOf l).entries := by
  refine Table.mem_of_get? ?_
  rw [get?_tableOf, Table.find?_reverse hnodup, (Table.find?_eq_some_iff hnodup).mpr h]
  rfl

end Source

namespace Source

/-- The source of the value that a source stands for: the members of every object are merged, and
    in the order of their names. -/
def merged (s : Source) : Source := ofJson s.toJson

theorem merged_arr (l : List Source) (ending : Option Break) :
    (arr l ending).merged = arr (l.map merged) none := by
  rw [merged, toJson, ofJson, toElements_eq_map, ofElements_eq_map, List.map_map]
  rfl

end Source

/-! ## 5. Distinct names -/

namespace Source

mutual

/-- No object in the tree has two members of one name. -/
def distinct : Source → Bool
  | arr elements _ => distinctElements elements
  | obj members _ =>
    decide (members.filterMap fun e => e.1.toOption).Nodup && distinctMembers members
  | null | bool _ | num _ | str _ | flawed _ | broken _ => true

def distinctElements : List Source → Bool
  | [] => true
  | s :: rest => distinct s && distinctElements rest

def distinctMembers : List (Except SyntaxError String × Source) → Bool
  | [] => true
  | (_, s) :: rest => distinct s && distinctMembers rest

end

theorem distinctElements_iff {l : List Source} : distinctElements l ↔ ∀ s ∈ l, s.distinct := by
  induction l with
  | nil => simp [distinctElements]
  | cons s rest ih => rw [distinctElements, Bool.and_eq_true, ih, List.forall_mem_cons]

theorem distinctMembers_iff {l : List (Except SyntaxError String × Source)} :
    distinctMembers l ↔ ∀ e ∈ l, e.2.distinct := by
  induction l with
  | nil => simp [distinctMembers]
  | cons e rest ih => rw [distinctMembers, Bool.and_eq_true, ih, List.forall_mem_cons]

theorem distinct_arr_iff {l : List Source} {ending : Option Break} :
    (arr l ending).distinct ↔ ∀ s ∈ l, s.distinct := by
  rw [distinct, distinctElements_iff]

theorem distinct_obj_named_iff {l : List (String × Source)} {ending : Option Break} :
    (obj (named l) ending).distinct ↔ (l.map (·.1)).Nodup ∧ ∀ e ∈ l, e.2.distinct := by
  have hnames : (named l).filterMap (fun e => e.1.toOption) = l.map (·.1) := by
    rw [named, List.filterMap_map]
    exact congrFun List.filterMap_eq_map' l
  rw [distinct, Bool.and_eq_true, decide_eq_true_iff, hnames, distinctMembers_iff, named,
    List.forall_mem_map]

end Source

/-! ## 6. What has been read up -/

/-- Members that have been read have names, and each of them has been read. -/
theorem exists_of_readMembers_ok {σ π : Type} {known : List String}
    {read : String → π → σ → Reading σ} {members : List (Except SyntaxError String × π)} :
    ∀ {seen : List String} {acc result : σ},
      readMembers known read seen acc members = .ok result →
      ∀ e ∈ members, ∃ name acc acc', e.1 = .ok name ∧ read name e.2 acc = .ok acc' := by
  induction members with
  | nil => exact fun _ => nofun
  | cons e rest ih =>
    intro seen acc result h
    obtain ⟨error | name, s⟩ := e
    · cases h
    · obtain ⟨_, acc', hacc', h⟩ := readMembers_cons_ok_iff.mp h
      exact List.forall_mem_cons.mpr ⟨⟨name, acc, acc', rfl, hacc'⟩, ih h⟩

namespace Medium

variable {room : Nat} {s : Source}

/-- What has been taken in before anything else is clear. -/
theorem clear_of_takeIn {α : Type} {f : Unit → Reading α} {a : α}
    (h : (text room).takeIn s >>= f = .ok a) : (text room).Clear s := by
  obtain ⟨_, htaken, _⟩ := bind_ok_iff.mp h
  cases hfault : s.fault? room with
  | none => exact hfault
  | some e =>
    rw [takeIn, hfault] at htaken
    cases htaken

theorem clear_of_readString {name : String} (h : s.readString = .ok name) :
    (text room).Clear s := by
  cases s with
  | str name => rfl
  | _ => cases h

theorem clear_of_readOptional {α : Type} {read : Source → Reading α} {o : Option α}
    (hread : ∀ a, read s = .ok a → (text room).Clear s) (h : s.readOptional read = .ok o) :
    (text room).Clear s := by
  by_cases hs : s = .null
  · subst hs
    rfl
  · rw [Source.readOptional_of_ne_null read hs] at h
    cases hvalue : read s with
    | ok a => exact hread a hvalue
    | error e =>
      rw [hvalue] at h
      cases h

/-- A container that has been read is complete, and its contents have been read one level
    further in. -/
theorem exists_of_readContainer {α : Type} {read : Medium → Reading α} {ending : Option Break}
    {v : α} (h : (do
      let v ← read (← (text room).enter)
      Source.finish ending
      return v) = .ok v) :
    ∃ inner, room = inner + 1 ∧ ending = none ∧ read (text inner) = .ok v := by
  obtain ⟨m, henter, h⟩ := bind_ok_iff.mp h
  obtain ⟨v', hread, h⟩ := bind_ok_iff.mp h
  cases ending with
  | some b => cases h
  | none =>
    cases h
    cases room with
    | zero => cases henter
    | succ inner =>
      cases henter
      exact ⟨inner, rfl, rfl, hread⟩

/-- Members that have been read are the members of a clear object. -/
theorem clear_of_readMembers {σ π : Type} {inner : Nat} {known : List String}
    {read : String → π → σ → Reading σ} (part : Source → π)
    (hread : ∀ name s acc acc', read name (part s) acc = .ok acc' → (text inner).Clear s)
    {members : List (Except SyntaxError String × Source)} {seen : List String} {acc result : σ}
    (h : readMembers known read seen acc (members.map fun e => (e.1, part e.2)) = .ok result) :
    (text (inner + 1)).Clear (.obj members none) := by
  have hmembers : Source.faultOfMembers? inner members = none := by
    refine Source.faultOfMembers?_eq_none_iff.mpr fun e he => ?_
    obtain ⟨name, acc, acc', hname, hacc'⟩ :=
      exists_of_readMembers_ok h _ (List.mem_map_of_mem he)
    exact ⟨⟨name, hname⟩, hread name e.2 acc acc' hacc'⟩
  show (Source.obj members none).fault? (inner + 1) = none
  rw [Source.fault?, hmembers]
  rfl

theorem clear_of_readList {α : Type} {read : Medium → Source → Reading α} {l : List α}
    (hread : ∀ inner e a, read (text inner) e = .ok a → (text inner).Clear e)
    (h : s.readList (text room) read = .ok l) : (text room).Clear s := by
  cases s with
  | arr elements ending =>
    obtain ⟨inner, rfl, rfl, hl⟩ := exists_of_readContainer h
    exact Source.fault?_arr_eq_none_iff.mpr ⟨inner, rfl, rfl, fun e he =>
      (exists_of_mapM_ok hl e he).elim fun a ha => hread inner e a ha⟩
  | _ => cases h

end Medium

end SchemaCatalog
