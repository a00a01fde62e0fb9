/-
  Shapes that are written and read again
  ======================================
  **The value of a shape is read as that shape.**

  A shape is written as one object, in which the members of its kind stand beside its
  marks.  A reader takes the marks and sets the rest aside, and then looks for the kind
  in what was set aside.  That this loses nothing rests on the names: no kind uses
  the name of a mark (`notMem_marks_of_mem_orderedKind`), so the name of a mark finds
  the mark and any other name finds what belongs to the kind (`get?_table_of_mem`,
  `get?_table_of_notMem`).  A mark that is not set is not written, and a reader that
  meets no such member leaves it unset.

  The induction is on the shape, with one statement for shapes, for kinds and for the
  fields of a record.
-/
import SchemaCatalog.Shape.Format
import SchemaCatalog.Proofs.Json.Faults
import SchemaCatalog.Proofs.Schema.Writing

namespace SchemaCatalog

namespace Shape

/-! ## 1. Members and their parts -/

/-- A value as what a reader of shapes is handed. -/
def memberOf (v : Json) : Member := (.ofJson v, partsOf (.ofJson v))

theorem partsOfMembers_ofMembers (l : List (String × Json)) :
    partsOfMembers (Source.ofMembers l) = l.map fun e => (.ok e.1, memberOf e.2) := by
  induction l with
  | nil => rfl
  | cons e rest ih => rw [Source.ofMembers, partsOfMembers, ih, List.map_cons]; rfl

theorem partsOfElements_ofElements (l : List Json) :
    partsOfElements (Source.ofElements l) = l.map memberOf := by
  induction l with
  | nil => rfl
  | cons v rest ih => rw [Source.ofElements, partsOfElements, ih, List.map_cons]; rfl

/-- A shape inside another is read as a shape in a buffer. -/
theorem partsOf_shape (v : Json) :
    (partsOf (.ofJson v)).shape () = read .buffer (.ofJson v) := by
  rcases v with _ | _ | _ | _ | elements | ⟨⟨members⟩⟩ <;> rfl

theorem ofJson_obj (t : Table Json) :
    Source.ofJson (.obj t) = .obj (Source.ofMembers t.entries) none := by
  cases t
  rfl

/-! ## 2. Marks -/

/-- The names of the marks. -/
def marks : List String := ["optional", "entity", "exempt"]

/-- What is written for the marks that are set. -/
def orderedMarks (optional : Bool) (entity : Option String) (exempt : Bool) :
    List (String × OrderedJson) :=
  (if optional then [("optional", .bool true)] else []) ++
  (entity.map fun name => ("entity", OrderedJson.str name)).toList ++
  (if exempt then [("exempt", .bool true)] else [])

/-- The members of the object that a shape is written as, with their values. -/
def members (s : Shape) : List (String × Json) :=
  (orderedKind s.kind ++ orderedMarks s.optional s.entity s.exempt).map fun e => (e.1, e.2.toJson)

theorem toJson_eq (s : Shape) : s.toJson = Json.ofMembers s.members := by
  obtain ⟨kind, optional, entity, exempt⟩ := s
  rw [toJson, ordered, OrderedJson.toJson_obj, List.append_assoc, List.append_assoc, members,
    orderedMarks, List.append_assoc]

/-- The marks that are written are among the marks, in their order. -/
theorem orderedMarks_sublist (optional : Bool) (entity : Option String) (exempt : Bool) :
    ((orderedMarks optional entity exempt).map (·.1)).Sublist marks := by
  rw [orderedMarks, List.map_append, List.map_append]
  have hoptional : ((if optional then [("optional", OrderedJson.bool true)] else []).map
      (·.1)).Sublist ["optional"] := by
    cases optional <;> decide
  have hentity : ((entity.map fun name => ("entity", OrderedJson.str name)).toList.map
      (·.1)).Sublist ["entity"] := by
    cases entity <;> simp
  have hexempt : ((if exempt then [("exempt", OrderedJson.bool true)] else []).map
      (·.1)).Sublist ["exempt"] := by
    cases exempt <;> decide
  exact (hoptional.append hentity).append hexempt

/-- **No kind uses the name of a mark.** -/
theorem notMem_marks_of_mem_orderedKind {kind : Kind Shape} {name : String}
    (h : name ∈ (orderedKind kind).map (·.1)) : name ∉ marks := by
  have hnames : name ∈ ["kind", "fields", "value", "element"] := by
    cases kind <;> simp [orderedKind] at h ⊢ <;> grind
  have hapart : ∀ name ∈ ["kind", "fields", "value", "element"], name ∉ marks := by decide
  exact hapart name hnames

theorem nodup_members (s : Shape) : (s.members.map (·.1)).Nodup := by
  have hnames : s.members.map (·.1) = (orderedKind s.kind).map (·.1) ++
      (orderedMarks s.optional s.entity s.exempt).map (·.1) := by
    rw [members, List.map_map, ← List.map_append]
    rfl
  have hmarks := orderedMarks_sublist s.optional s.entity s.exempt
  rw [hnames]
  refine List.nodup_append.mpr ⟨?_, hmarks.nodup (by decide), ?_⟩
  · cases s.kind <;> simp [orderedKind]
  · rintro name hkind _ hmark rfl
    exact notMem_marks_of_mem_orderedKind hkind (hmarks.subset hmark)

/-- The object that a shape is written as. -/
def table (s : Shape) : Table Json := Table.ofList s.members

theorem nodup_table (s : Shape) : s.table.keys.Nodup :=
  (Table.sorted_ofList s.members).nodup_keys

theorem toJson_eq_table (s : Shape) : s.toJson = .obj s.table := toJson_eq s

theorem get?_table (s : Shape) (name : String) :
    s.table.get? name = ((Table.find? name (orderedKind s.kind)).or
      (Table.find? name (orderedMarks s.optional s.entity s.exempt))).map OrderedJson.toJson := by
  rw [table, Table.get?_ofList s.nodup_members, members, Table.find?_map, Table.find?_append]

/-- What is written under a name that is not that of a mark belongs to the kind. -/
theorem get?_table_of_notMem (s : Shape) {name : String} (h : name ∉ marks) :
    s.table.get? name = (Table.find? name (orderedKind s.kind)).map OrderedJson.toJson := by
  have hmarks : Table.find? name (orderedMarks s.optional s.entity s.exempt) = none :=
    Table.find?_eq_none_iff.mpr fun hmem => h ((orderedMarks_sublist _ _ _).subset hmem)
  rw [get?_table, hmarks, Option.or_none]

/-- What is written under the name of a mark is the mark. -/
theorem get?_table_of_mem (s : Shape) {name : String} (h : name ∈ marks) :
    s.table.get? name = (Table.find? name (orderedMarks s.optional s.entity s.exempt)).map
      OrderedJson.toJson := by
  have hkind : Table.find? name (orderedKind s.kind) = none :=
    Table.find?_eq_none_iff.mpr fun hmem => notMem_marks_of_mem_orderedKind hmem h
  rw [get?_table, hkind, Option.none_or]

/-! ## 3. Reading the marks -/

/-- How a reader of shapes takes one member. -/
def readMark (m : Medium) (k : String) (e : Member) (d : Draft) : Reading Draft :=
  match k with
  | "optional" => return { d with optional := ← e.1.readBool }
  | "entity" => return { d with entity := ← e.1.readOptional Source.readString }
  | "exempt" => return { d with exempt := ← e.1.readBool }
  | _ => do
    m.takeIn e.1
    return { d with others := (k, e.1, e.2) :: d.others }

theorem readMark_of_notMem {m : Medium} (hm : m.Unlimited) {k : String} (hk : k ∉ marks)
    (e : Member) (d : Draft) :
    readMark m k e d = .ok { d with others := (k, e) :: d.others } := by
  unfold readMark
  split
  · exact absurd (by decide) hk
  · exact absurd (by decide) hk
  · exact absurd (by decide) hk
  · rw [hm.takeIn]
    rfl

/-- What stands under the names of the marks are these marks. -/
structure Bears (l : List (String × Json)) (optional : Bool) (entity : Option String)
    (exempt : Bool) : Prop where
  optional : Table.find? "optional" l = if optional then some (.bool true) else none
  entity : Table.find? "entity" l = entity.map .str
  exempt : Table.find? "exempt" l = if exempt then some (.bool true) else none

/-- The members that a reader sets aside. -/
def unmarked (l : List (String × Json)) : List (String × Json) := l.filter fun e => e.1 ∉ marks

/-- One member is the mark of its name, or it is set aside. -/
theorem Bears.read_head {m : Medium} (hm : m.Unlimited) {k : String} {v : Json}
    {rest : List (String × Json)} (hfresh : k ∉ rest.map (·.1)) {optional : Bool}
    {entity : Option String} {exempt : Bool} (h : Bears ((k, v) :: rest) optional entity exempt)
    (d : Draft) :
    ∃ optional' entity' exempt' d', readMark m k (memberOf v) d = .ok d' ∧
      Bears rest optional' entity' exempt' ∧
      (optional' || d'.optional) = (optional || d.optional) ∧
      entity'.or d'.entity = entity.or d.entity ∧
      (exempt' || d'.exempt) = (exempt || d.exempt) ∧
      d'.others =
        ((unmarked [(k, v)]).map fun e => (e.1, memberOf e.2)).reverse ++ d.others := by
  obtain ⟨hoptional, hentity, hexempt⟩ := h
  have habsent : Table.find? k rest = none := Table.find?_eq_none_iff.mpr hfresh
  by_cases hmark : k ∈ marks
  · simp only [marks, List.mem_cons, List.not_mem_nil, or_false] at hmark
    rcases hmark with rfl | rfl | rfl
    · obtain ⟨rfl, rfl⟩ : optional = true ∧ v = .bool true := by
        cases optional <;> simp [Table.find?] at hoptional ⊢
        exact hoptional
      exact ⟨false, entity, exempt, { d with optional := true }, rfl,
        ⟨habsent, hentity, hexempt⟩, by simp, rfl, rfl, rfl⟩
    · obtain ⟨name, rfl, rfl⟩ : ∃ name, entity = some name ∧ v = .str name := by
        cases entity <;> simp [Table.find?] at hentity ⊢
        exact hentity
      exact ⟨optional, none, exempt, { d with entity := some name }, rfl,
        ⟨hoptional, habsent, hexempt⟩, rfl, rfl, rfl, rfl⟩
    · obtain ⟨rfl, rfl⟩ : exempt = true ∧ v = .bool true := by
        cases exempt <;> simp [Table.find?] at hexempt ⊢
        exact hexempt
      exact ⟨optional, entity, false, { d with exempt := true }, rfl,
        ⟨hoptional, hentity, habsent⟩, rfl, rfl, by simp, rfl⟩
  · have hne (name : String) (hname : name ∈ marks) : name ≠ k := fun heq => hmark (heq ▸ hname)
    rw [Table.find?, if_neg (hne _ (by decide))] at hoptional hentity hexempt
    refine ⟨optional, entity, exempt, _, readMark_of_notMem hm hmark _ d,
      ⟨hoptional, hentity, hexempt⟩, rfl, rfl, rfl, ?_⟩
    simp [unmarked, hmark]

/-- **The marks are read, and everything else is set aside.** -/
theorem readMarks_eq {m : Medium} (hm : m.Unlimited) {l : List (String × Json)}
    (hnodup : (l.map (·.1)).Nodup) {optional : Bool} {entity : Option String} {exempt : Bool}
    (h : Bears l optional entity exempt) (d : Draft) :
    l.foldlM (fun d e => readMark m e.1 (memberOf e.2) d) d =
      .ok ⟨optional || d.optional, entity.or d.entity, exempt || d.exempt,
        ((unmarked l).map fun e => (e.1, memberOf e.2)).reverse ++ d.others⟩ := by
  induction l generalizing optional entity exempt d with
  | nil =>
    obtain ⟨hoptional, hentity, hexempt⟩ := h
    obtain rfl : optional = false := by cases optional <;> simp [Table.find?] at hoptional ⊢
    obtain rfl : entity = none := by cases entity <;> simp [Table.find?] at hentity ⊢
    obtain rfl : exempt = false := by cases exempt <;> simp [Table.find?] at hexempt ⊢
    rfl
  | cons e rest ih =>
    obtain ⟨k, v⟩ := e
    obtain ⟨hfresh, hnodup⟩ := List.nodup_cons.mp hnodup
    obtain ⟨optional', entity', exempt', d', hread, hrest, hoptional, hentity, hexempt, hothers⟩ :=
      h.read_head hm hfresh d
    have hsplit : unmarked ((k, v) :: rest) = unmarked [(k, v)] ++ unmarked rest := by
      rw [unmarked, unmarked, unmarked, ← List.filter_append, List.singleton_append]
    refine bind_ok_iff.mpr ⟨d', hread, ?_⟩
    rw [ih hnodup hrest, hoptional, hentity, hexempt, hothers, hsplit, List.map_append,
      List.reverse_append, List.append_assoc]

/-- What is written for a shape bears its marks. -/
theorem bears_table (s : Shape) : Bears s.table.entries s.optional s.entity s.exempt := by
  refine ⟨(s.get?_table_of_mem (by decide)).trans ?_, (s.get?_table_of_mem (by decide)).trans ?_,
    (s.get?_table_of_mem (by decide)).trans ?_⟩
  all_goals
    rw [orderedMarks]
    cases s.optional <;> cases s.entity <;> cases s.exempt <;> rfl

/-- A shape is read by taking the marks, and its kind from what has been set aside. -/
theorem ofMembers_eq (m : Medium) (l : List (Except SyntaxError String × Member)) :
    ofMembers m l none = (do
      let draft ← readMembers marks (readMark m) [] {} l
      let kind ← readKind draft.others.reverse
      return ⟨kind, draft.optional, draft.entity, draft.exempt⟩) := rfl

/-! ## 4. Reading the kind -/

section

variable {l : List (String × Json)} (hnodup : (l.map (·.1)).Nodup)
include hnodup

/-- A member that is looked for among those set aside is read from what stands under its name. -/
theorem readOnly_eq {α : Type} {name : String} (hname : name ∉ marks) {v : Json}
    (h : Table.find? name l = some v) (read : Member → Reading α) :
    readOnly name ((unmarked l).map fun e => (e.1, memberOf e.2)) read = read (memberOf v) := by
  have hfind : Table.find? name (unmarked l) = some v :=
    (Table.find?_filter (p := fun name => name ∉ marks) (decide_eq_true hname) l).trans h
  have hnodup' : ((unmarked l).map (·.1)).Nodup := hnodup.sublist (List.filter_sublist.map _)
  have hsole : ((unmarked l).map fun e => (e.1, memberOf e.2)).filter (·.1 = name) =
      [(name, memberOf v)] := by
    rw [List.filter_map]
    exact congrArg (List.map fun e => (e.1, memberOf e.2)) (Table.filter_eq_singleton hnodup' hfind)
  rw [readOnly, hsole]
  cases hread : read (memberOf v) with
  | error e => simp only [hread]; rfl
  | ok a => simp only [hread]; rfl

variable {kind : Kind Shape} (h : ∀ name, name ∉ marks →
  Table.find? name l = (Table.find? name (orderedKind kind)).map OrderedJson.toJson)
include h

/-- The kind that is meant is the one whose name is written. -/
theorem readTag_eq :
    readOnly "kind" ((unmarked l).map fun e => (e.1, memberOf e.2)) (fun (s, _) => readTag s) =
      .ok kind.tag := by
  have hkind : Table.find? "kind" l = some (.str kind.tag) := by
    rw [h "kind" (by decide)]
    cases kind <;> rfl
  rw [readOnly_eq hnodup (by decide) hkind]
  cases kind <;> rfl

end

/-! ## 5. Fields and shapes -/

/-- The object that a field is written as, with its members in the order of their names. -/
theorem ordered_field (declaredName wireName : String) (type : Shape) (skipWhenEmpty : Bool) :
    (OrderedJson.obj ([("declared_name", .str declaredName), ("wire_name", .str wireName),
        ("type", ordered type)] ++
        (if skipWhenEmpty then [("skip_when_empty", .bool true)] else []))).toJson =
      .obj ⟨("declared_name", .str declaredName) ::
        ((if skipWhenEmpty then [("skip_when_empty", .bool true)] else []) ++
          [("type", type.toJson), ("wire_name", .str wireName)])⟩ := by
  cases skipWhenEmpty <;> rfl

/-- A field is read from its value if its type is. -/
theorem field_toJson {declaredName wireName : String} {type : Shape} {skipWhenEmpty : Bool}
    (htype : (partsOf (.ofJson type.toJson)).shape () = .ok type) :
    (partsOf (.ofJson (OrderedJson.obj ([("declared_name", .str declaredName),
        ("wire_name", .str wireName), ("type", ordered type)] ++
        (if skipWhenEmpty then [("skip_when_empty", .bool true)] else []))).toJson)).field () =
      .ok ⟨declaredName, wireName, type, skipWhenEmpty⟩ := by
  rw [ordered_field, ofJson_obj]
  show fieldOfMembers (partsOfMembers _) = _
  rw [partsOfMembers_ofMembers]
  refine bind_ok_iff.mpr
    ⟨⟨some declaredName, some wireName, some type, skipWhenEmpty⟩, ?_, rfl⟩
  rw [readMembers_eq_foldlM memberOf (by cases skipWhenEmpty <;> simp)
    fun _ _ => List.not_mem_nil]
  -- the flag is written only if it is set, and then before the type
  cases skipWhenEmpty with
  | false =>
    exact bind_ok_iff.mpr ⟨_, rfl, bind_ok_iff.mpr ⟨_, bind_ok_iff.mpr ⟨type, htype, rfl⟩, rfl⟩⟩
  | true =>
    exact bind_ok_iff.mpr ⟨_, rfl, bind_ok_iff.mpr ⟨_, rfl,
      bind_ok_iff.mpr ⟨_, bind_ok_iff.mpr ⟨type, htype, rfl⟩, rfl⟩⟩⟩

/-- Fields are read one after the other. -/
theorem fields_cons (v : Json) (l : List Json) :
    (partsOf (.ofJson (.arr (v :: l)))).fields () = (do
      let field ← (partsOf (.ofJson v)).field ()
      let rest ← (partsOf (.ofJson (.arr l))).fields ()
      return field :: rest) := by
  simp only [Source.ofJson, partsOf, partsOfElements_ofElements, List.map_cons, List.mapM_cons]
  rfl

/-- A shape is read from its value if its kind is, since the marks always are. -/
theorem read_toJson_of_readKind {m : Medium} (hm : m.Unlimited) {s : Shape}
    (hkind : readKind ((unmarked s.table.entries).map fun e => (e.1, memberOf e.2)) =
      .ok s.kind) : read m (.ofJson s.toJson) = .ok s := by
  have hmarks := readMarks_eq hm s.nodup_table s.bears_table {}
  rw [toJson_eq_table, ofJson_obj, read, hm.enter]
  show ofMembers m _ none = _
  rw [partsOfMembers_ofMembers, ofMembers_eq,
    readMembers_eq_foldlM memberOf s.nodup_table fun _ _ => List.not_mem_nil, hmarks]
  show (readKind (_ ++ []).reverse >>= fun kind => _) = _
  rw [List.append_nil, List.reverse_reverse, hkind]
  show Except.ok (⟨s.kind, s.optional || false, s.entity.or none, s.exempt || false⟩ : Shape) = _
  rw [Bool.or_false, Option.or_none, Bool.or_false]
  cases s
  rfl

mutual

/-- **A shape is read from its value**, wherever nothing is limited. -/
theorem read_toJson {m : Medium} (hm : m.Unlimited) :
    ∀ s : Shape, read m (.ofJson s.toJson) = .ok s
  | ⟨kind, _, _, _⟩ =>
    read_toJson_of_readKind hm <|
      readKind_ok (nodup_table _) kind fun _ hname => get?_table_of_notMem _ hname

theorem readKind_ok {l : List (String × Json)} (hnodup : (l.map (·.1)).Nodup) :
    ∀ kind : Kind Shape, (∀ name, name ∉ marks →
      Table.find? name l = (Table.find? name (orderedKind kind)).map OrderedJson.toJson) →
      readKind ((unmarked l).map fun e => (e.1, memberOf e.2)) = .ok kind
  | .record fields, h => by
    have hfields := readOnly_eq hnodup (by decide) (h "fields" (by decide))
      fun (_, parts) => parts.fields ()
    exact bind_ok_iff.mpr ⟨_, readTag_eq hnodup h,
      bind_ok_iff.mpr ⟨fields, hfields.trans (fields_toJson fields), rfl⟩⟩
  | .map value, h => by
    have hvalue := readOnly_eq hnodup (by decide) (h "value" (by decide))
      fun (_, parts) => parts.shape ()
    have hread := (partsOf_shape _).trans (read_toJson Medium.unlimited_buffer value)
    exact bind_ok_iff.mpr ⟨_, readTag_eq hnodup h,
      bind_ok_iff.mpr ⟨value, hvalue.trans hread, rfl⟩⟩
  | .array element, h => by
    have helement := readOnly_eq hnodup (by decide) (h "element" (by decide))
      fun (_, parts) => parts.shape ()
    have hread := (partsOf_shape _).trans (read_toJson Medium.unlimited_buffer element)
    exact bind_ok_iff.mpr ⟨_, readTag_eq hnodup h,
      bind_ok_iff.mpr ⟨element, helement.trans hread, rfl⟩⟩
  | .boolean, h | .integer, h | .number, h | .string, h | .bytes, h | .timestamp, h
  | .dynamic, h => by
    rw [readKind, readTag_eq hnodup h]
    rfl

theorem fields_toJson : ∀ fields : List (Field Shape),
    (partsOf (.ofJson (.arr (OrderedJson.toElements (orderedFields fields))))).fields () =
      .ok fields
  | [] => rfl
  | ⟨declaredName, wireName, type, skipWhenEmpty⟩ :: rest => by
    have htype := (partsOf_shape _).trans (read_toJson Medium.unlimited_buffer type)
    rw [orderedFields, OrderedJson.toElements, fields_cons]
    exact bind_ok_iff.mpr ⟨_, field_toJson htype, bind_ok_iff.mpr ⟨_, fields_toJson rest, rfl⟩⟩

end

/-- **A shape survives serialization.**  Reading the value of any shape gives that shape, with
    every kind, name and mark in it. -/
theorem ofJson_toJson_self (s : Shape) : ofJson s.toJson = .ok s :=
  read_toJson Medium.unlimited_value s

end Shape

end SchemaCatalog
