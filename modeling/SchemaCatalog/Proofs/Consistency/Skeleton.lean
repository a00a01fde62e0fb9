/-
  Keywords that the check does not read
  =====================================
  **What a schema says about structure, and everything else.**

  The check reads references, types, properties, items, `additionalProperties` and the
  lists of alternatives, and of the definitions only those of the root.  What is left of a
  document when all other keywords have been taken out of it, everywhere, is its stripped form.

  The check cannot tell a document from its stripped form: it accepts both, or it meets the
  same error in both, at the same position (`checkShape_stripped`).  The two descents are in
  lockstep, since at every step the second one is at the skeleton of the schema that the
  first one is at.
-/
import SchemaCatalog.Proofs.Consistency.Lockstep
import SchemaCatalog.Proofs.Schema.Mapping

namespace SchemaCatalog

namespace Schema

/-! ## 1. Changing every schema of a tree -/

mutual

/-- Applies `g` to every schema of a tree, to a schema after the schemas below it.  Definitions do
    not belong to the tree. -/
def rebuild (g : Schema → Schema) : Schema → Schema
  | ⟨r, t, ⟨p⟩, i, ai, c, ap, all, any, one, n, d, rq, ex, x⟩ =>
    g ⟨r, t, ⟨rebuildTable g p⟩, rebuildItems g i, rebuildOption g ai, rebuildOption g c,
      rebuildOption g ap, rebuildList g all, rebuildList g any, rebuildList g one,
      rebuildOption g n, d, rq, ex, x⟩
  termination_by structural s => s

def rebuildSub (g : Schema → Schema) : Subschema Schema → Subschema Schema
  | .flag b => .flag b
  | .schema s => .schema (rebuild g s)
  termination_by structural s => s

def rebuildOption (g : Schema → Schema) : Option (Subschema Schema) → Option (Subschema Schema)
  | none => none
  | some place => some (rebuildSub g place)
  termination_by structural s => s

def rebuildList (g : Schema → Schema) : List (Subschema Schema) → List (Subschema Schema)
  | [] => []
  | place :: l => rebuildSub g place :: rebuildList g l
  termination_by structural s => s

def rebuildItems (g : Schema → Schema) : Option (Items Schema) → Option (Items Schema)
  | none => none
  | some (.each place) => some (.each (rebuildSub g place))
  | some (.tuple l) => some (.tuple (rebuildList g l))
  termination_by structural s => s

def rebuildTable (g : Schema → Schema) :
    List (String × Subschema Schema) → List (String × Subschema Schema)
  | [] => []
  | (name, place) :: l => (name, rebuildSub g place) :: rebuildTable g l
  termination_by structural s => s

end

section

variable (g : Schema → Schema)

theorem rebuildSub_eq (place : Subschema Schema) :
    rebuildSub g place = place.map (rebuild g) := by
  cases place <;> rfl

theorem rebuildOption_eq (place : Option (Subschema Schema)) :
    rebuildOption g place = place.map (Subschema.map (rebuild g)) := by
  cases place with
  | none => rfl
  | some place => exact congrArg some (rebuildSub_eq g place)

theorem rebuildList_eq (l : List (Subschema Schema)) :
    rebuildList g l = l.map (Subschema.map (rebuild g)) := by
  induction l with
  | nil => rfl
  | cons place l ih => rw [rebuildList, ih, rebuildSub_eq, List.map_cons]

theorem rebuildItems_eq (items : Option (Items Schema)) :
    rebuildItems g items = items.map (Items.map (rebuild g)) := by
  rcases items with _ | (place | l)
  · rfl
  · rw [rebuildItems, rebuildSub_eq]
    rfl
  · rw [rebuildItems, rebuildList_eq]
    rfl

theorem rebuildTable_eq (l : List (String × Subschema Schema)) :
    rebuildTable g l = l.map fun e => (e.1, e.2.map (rebuild g)) := by
  induction l with
  | nil => rfl
  | cons e l ih => rw [rebuildTable, ih, rebuildSub_eq, List.map_cons]

theorem rebuild_eq (s : Schema) : s.rebuild g = g (s.mapChildren (rebuild g)) := by
  obtain ⟨r, t, ⟨p⟩, i, ai, c, ap, all, any, one, n, d, rq, ex, x⟩ := s
  simp only [rebuild, mapChildren, rebuildOption_eq, rebuildList_eq, rebuildItems_eq,
    rebuildTable_eq, Table.map]

end

/-! ## 2. Stripping -/

/-- A schema without the keywords that the check does not read of it; definitions are read only of
    the root. -/
def bare (s : Schema) : Schema :=
  { s with
    additionalItems := none
    contains := none
    not := none
    definitions := {}
    required := []
    examples := []
    extra := {} }

/-- The tree of a schema without the keywords that the check does not read. -/
def skeleton (s : Schema) : Schema := s.rebuild bare

/-- The document without the keywords that the check does not read, in its tree and in the trees of
    its definitions. -/
def stripped (s : Schema) : Schema :=
  { s.skeleton with definitions := s.definitions.map (Subschema.map skeleton) }

theorem skeleton_eq (s : Schema) : s.skeleton = (s.mapChildren skeleton).bare :=
  rebuild_eq bare s

/-- The definitions of the root stay, those of a definition go. -/
example :
    stripped {
      properties := ⟨[("id", .schema { type := some (.single "string"), examples := [.str "a"] })]⟩
      required := ["id"]
      definitions := ⟨[("Item", .schema {
        items := some (.each (.flag true))
        definitions := ⟨[("Sku", .flag true)]⟩ })]⟩ } =
    { properties := ⟨[("id", .schema { type := some (.single "string") })]⟩
      definitions := ⟨[("Item", .schema { items := some (.each (.flag true)) })]⟩ } := by
  rfl

/-! ## 3. A schema and its changed children -/

section

variable {α : Type} {R : α → α → Prop} {g : α → α}

theorem optionRel_map (h : ∀ a, R a (g a)) (o : Option α) : Option.Rel R o (o.map g) := by
  cases o with
  | none => exact .none
  | some a => exact .some (h a)

theorem forall₂_map (h : ∀ a, R a (g a)) (l : List α) : List.Forall₂ R l (l.map g) := by
  rw [List.forall₂_map_right_iff, List.forall₂_same]
  exact fun a _ => h a

theorem tableRel_map (h : ∀ a, R a (g a)) (t : Table α) : t.Rel R (t.map g) :=
  forall₂_map (fun e => ⟨rfl, h e.2⟩) t.entries

end

section

variable {R : Schema → Schema → Prop} {g : Schema → Schema}

theorem subschemaRel_map (h : ∀ s, R s (g s)) (place : Subschema Schema) :
    Subschema.Rel R place (place.map g) := by
  cases place with
  | flag b => exact .flag b
  | schema s => exact .schema (h s)

theorem itemsRel_map (h : ∀ s, R s (g s)) (items : Items Schema) :
    Items.Rel (Subschema.Rel R) items (items.map g) := by
  cases items with
  | each place => exact .each (subschemaRel_map h place)
  | tuple l => exact .tuple (forall₂_map (subschemaRel_map h) l)

/-- **Changing the children leaves the face**, with the children that were there beside those that
    have come from them. -/
theorem sameFace_mapChildren (h : ∀ s, R s (g s)) (s : Schema) :
    SameFace (Subschema.Rel R) (Subschema.Rel R) s (s.mapChildren g) where
  ref := rfl
  type := rfl
  properties := tableRel_map (subschemaRel_map h) _
  additionalProperties := optionRel_map (subschemaRel_map h) _
  items := optionRel_map (itemsRel_map h) _
  allOf := forall₂_map (subschemaRel_map h) _
  anyOf := forall₂_map (subschemaRel_map h) _
  oneOf := forall₂_map (subschemaRel_map h) _

end

/-! ## 4. What the check reads of a skeleton -/

/-- The second schema is the skeleton of the first one, perhaps with definitions. -/
def Reduces (s s' : Schema) : Prop :=
  ∃ definitions, s' = { s.skeleton with definitions := definitions }

theorem reduces_skeleton (s : Schema) : s.Reduces s.skeleton := by
  refine ⟨{}, ?_⟩
  rw [skeleton_eq]
  rfl

theorem reduces_stripped (s : Schema) : s.Reduces s.stripped := ⟨_, rfl⟩

/-- **A skeleton has the face of the schema.** -/
theorem Reduces.sameFace {s s' : Schema} (h : s.Reduces s') :
    SameFace (Subschema.Rel Reduces) (Subschema.Rel Reduces) s s' := by
  obtain ⟨definitions, rfl⟩ := h
  rw [skeleton_eq]
  have hface := sameFace_mapChildren reduces_skeleton s
  exact { hface with }

end Schema

/-! ## 5. The check -/

open Consistency in
/-- The descents through a document and through its stripped form are in lockstep. -/
theorem Consistency.lockstep_stripped (o : ConsistencyOptions) (s : Schema) :
    Lockstep Schema.Reduces Schema.Reduces ⟨s, o⟩ ⟨s.stripped, o⟩ where
  options := rfl
  target := by
    intro p t t' h
    have hdefines : DefinesAlike Schema.Reduces ⟨s, o⟩ ⟨s.stripped, o⟩ := by
      refine ⟨rfl, fun name => ?_⟩
      exact (Schema.tableRel_map (Schema.subschemaRel_map Schema.reduces_skeleton) _).get? name
    refine target_alike hdefines ?_ h.sameFace.ref h.sameFace.oneOf h
    intro member member' hmember
    exact ⟨hmember.sameFace.ref, hmember.sameFace.type⟩
  face := Schema.Reduces.sameFace

/-- **The check reads nothing but structure.**  Whatever the document, the shape, the name and the
    options, the check says the same of the document and of its stripped form: that they
    agree with the shape, or the same error. -/
theorem Schema.checkShape_stripped (o : ConsistencyOptions) (s : Schema) (shape : Shape)
    (rootName : String) :
    s.stripped.checkShape o shape rootName = s.checkShape o shape rootName :=
  (Consistency.lockstep_stripped o s).descend_eq shape (.root rootName)
    (.some s.reduces_stripped)

end SchemaCatalog
