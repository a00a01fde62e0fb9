/-
  Replacing a node
  ================
  **A schema in which one place holds something else.**

  A `Step` leads from a schema to a place directly below it, a path is a list
  of steps.  `Schema.node?` is the schema at the end of a path, and
  `Schema.replaceAt` puts something else there.

  Along the path every keyword stays as it is apart from the one that the path goes through.
  `Schema.SameFace` says so for the keywords that a check of the schema looks at: the two schemas
  differ at most in what lies below them, and the places below are related one by one.
-/
import Mathlib.Data.List.Forall2
import SchemaCatalog.Proofs.Table
import SchemaCatalog.Schema.Basic

namespace SchemaCatalog

/-! ## 1. Steps and paths -/

/-- Puts `value` in the place of the first entry under `name`. -/
def Table.setEntry {α : Type} (name : String) (value : α) : List (String × α) → List (String × α)
  | [] => []
  | (k, v) :: rest => if name = k then (k, value) :: rest else (k, v) :: setEntry name value rest

namespace Schema

/-- The keyword under which a place lies, with the name or the position that it has there. -/
inductive Step where
  | property (name : String)
  | items
  | item (i : Nat)
  | additionalItems
  | contains
  | additionalProperties
  | allOf (i : Nat)
  | anyOf (i : Nat)
  | oneOf (i : Nat)
  | not
  | definition (name : String)
deriving DecidableEq, Repr

/-- The step leads to an alternative. -/
def Step.isOneOf : Step → Bool
  | oneOf _ => true
  | _ => false

def Step.isDefinition : Step → Bool
  | definition _ => true
  | _ => false

def place? (s : Schema) : Step → Option (Subschema Schema)
  | .property name => s.properties.get? name
  | .items =>
    match s.items with
    | some (.each place) => some place
    | _ => none
  | .item i =>
    match s.items with
    | some (.tuple l) => l[i]?
    | _ => none
  | .additionalItems => s.additionalItems
  | .contains => s.contains
  | .additionalProperties => s.additionalProperties
  | .allOf i => s.allOf[i]?
  | .anyOf i => s.anyOf[i]?
  | .oneOf i => s.oneOf[i]?
  | .not => s.not
  | .definition name => s.definitions.get? name

/-- Puts something else in a place that the schema has. -/
def setPlace (s : Schema) (new : Subschema Schema) : Step → Schema
  | .property name => { s with properties := ⟨Table.setEntry name new s.properties.entries⟩ }
  | .items => { s with items := some (.each new) }
  | .item i =>
    match s.items with
    | some (.tuple l) => { s with items := some (.tuple (l.set i new)) }
    | _ => s
  | .additionalItems => { s with additionalItems := some new }
  | .contains => { s with contains := some new }
  | .additionalProperties => { s with additionalProperties := some new }
  | .allOf i => { s with allOf := s.allOf.set i new }
  | .anyOf i => { s with anyOf := s.anyOf.set i new }
  | .oneOf i => { s with oneOf := s.oneOf.set i new }
  | .not => { s with not := some new }
  | .definition name => { s with definitions := ⟨Table.setEntry name new s.definitions.entries⟩ }

/-- The schema at the end of a path. -/
def node? : List Step → Schema → Option Schema
  | [], s => some s
  | step :: rest, s => ((s.place? step).bind Subschema.schema?).bind (node? rest)

/-- Puts something else at the end of a path that leads somewhere below the schema. -/
def replaceAt (new : Subschema Schema) : List Step → Schema → Schema
  | [], s => s
  | [step], s => s.setPlace new step
  | step :: next :: rest, s =>
    match s.place? step with
    | some (.schema t) => s.setPlace (.schema (replaceAt new (next :: rest) t)) step
    | _ => s

end Schema

/-! ## 2. Related places -/

section

variable {σ : Type} {R : σ → σ → Prop}

/-- The same flag, or schemas that are related. -/
inductive Subschema.Rel (R : σ → σ → Prop) : Subschema σ → Subschema σ → Prop where
  | flag (b : Bool) : Rel R (.flag b) (.flag b)
  | schema {s s' : σ} : R s s' → Rel R (.schema s) (.schema s')

theorem Subschema.Rel.refl (h : ∀ s, R s s) : ∀ place : Subschema σ, Rel R place place
  | .flag b => .flag b
  | .schema s => .schema (h s)

theorem Subschema.Rel.mono {S : σ → σ → Prop} (h : ∀ s s', R s s' → S s s')
    {place place' : Subschema σ} : Rel R place place' → Rel S place place'
  | .flag b => .flag b
  | .schema hs => .schema (h _ _ hs)

theorem Subschema.Rel.schema? {place place' : Subschema σ} (h : Rel R place place') :
    Option.Rel R place.schema? place'.schema? := by
  cases h with
  | flag b => exact .none
  | schema h => exact .some h

theorem Subschema.Rel.flag? {place place' : Subschema σ} (h : Rel R place place') :
    place'.flag? = place.flag? := by
  cases h <;> rfl

theorem optionRel_schema? {place place' : Option (Subschema σ)}
    (h : Option.Rel (Subschema.Rel R) place place') :
    Option.Rel R (place.bind Subschema.schema?) (place'.bind Subschema.schema?) := by
  cases h with
  | none => exact .none
  | some h => exact h.schema?

/-- Beside a schema there is a related one. -/
theorem exists_schema_of_optionRel {place place' : Option (Subschema σ)} {s : σ}
    (h : Option.Rel (Subschema.Rel R) place place') (hplace : place = some (.schema s)) :
    ∃ s', place' = some (.schema s') ∧ R s s' := by
  subst hplace
  cases h with
  | some h =>
    cases h with
    | schema hs => exact ⟨_, rfl, hs⟩

theorem optionRel_flag? {place place' : Option (Subschema σ)}
    (h : Option.Rel (Subschema.Rel R) place place') :
    place'.bind Subschema.flag? = place.bind Subschema.flag? := by
  cases h with
  | none => rfl
  | some h => exact h.flag?

end

section

variable {α : Type} {R : α → α → Prop}

theorem optionRel_refl (h : ∀ a, R a a) : ∀ o : Option α, Option.Rel R o o
  | none => .none
  | some a => .some (h a)

theorem isNone_eq_of_optionRel {o o' : Option α} (h : Option.Rel R o o') :
    o'.isNone = o.isNone := by
  cases h <;> rfl

/-- Nothing changes if a position gets the member that it has. -/
theorem set_getElem?_self {l : List α} {i : Nat} {a : α} (h : l[i]? = some a) : l.set i a = l := by
  obtain ⟨hi, rfl⟩ := List.getElem?_eq_some_iff.mp h
  exact List.set_getElem_self hi

theorem forall₂_set_set (hrefl : ∀ a, R a a) {a b : α} (h : R a b) (l : List α) (i : Nat) :
    List.Forall₂ R (l.set i a) (l.set i b) := by
  induction l generalizing i with
  | nil => exact .nil
  | cons x rest ih =>
    cases i with
    | zero => exact .cons h (List.forall₂_same.mpr fun y _ => hrefl y)
    | succ i => exact .cons (hrefl x) (ih i)

theorem exists_mem_of_forall₂ {l l' : List α} (h : List.Forall₂ R l l') :
    ∀ a ∈ l, ∃ b ∈ l', R a b := by
  induction h with
  | nil => exact fun _ => nofun
  | @cons a b rest rest' hab _ ih =>
    rw [List.forall_mem_cons]
    refine ⟨⟨b, List.mem_cons_self, hab⟩, fun c hc => ?_⟩
    obtain ⟨d, hd, hcd⟩ := ih c hc
    exact ⟨d, List.mem_cons_of_mem _ hd, hcd⟩

namespace Table

/-- The same names in the same order, with related values. -/
def Rel (R : α → α → Prop) (t t' : Table α) : Prop :=
  List.Forall₂ (fun e e' => e.1 = e'.1 ∧ R e.2 e'.2) t.entries t'.entries

theorem Rel.refl (h : ∀ a, R a a) (t : Table α) : Rel R t t :=
  List.forall₂_same.mpr fun e _ => ⟨rfl, h e.2⟩

theorem Rel.keys {t t' : Table α} (h : Rel R t t') : t'.keys = t.keys := by
  obtain ⟨l⟩ := t
  obtain ⟨l'⟩ := t'
  change List.Forall₂ _ l l' at h
  change l'.map (·.1) = l.map (·.1)
  induction h with
  | nil => rfl
  | cons hentry _ ih => rw [List.map_cons, List.map_cons, hentry.1, ih]

theorem Rel.get? {t t' : Table α} (h : Rel R t t') (name : String) :
    Option.Rel R (t.get? name) (t'.get? name) := by
  obtain ⟨l⟩ := t
  obtain ⟨l'⟩ := t'
  change List.Forall₂ _ l l' at h
  change Option.Rel R (find? name l) (find? name l')
  induction h with
  | nil => exact .none
  | @cons e e' _ _ hentry _ ih =>
    obtain ⟨k, v⟩ := e
    obtain ⟨k', v'⟩ := e'
    obtain ⟨rfl, hvalue⟩ := hentry
    simp only [find?]
    split
    · exact .some hvalue
    · exact ih

theorem Rel.exists_entry {t t' : Table α} (h : Rel R t t') {name : String} {a : α}
    (hentry : (name, a) ∈ t.entries) : ∃ a', (name, a') ∈ t'.entries ∧ R a a' := by
  obtain ⟨⟨_, a'⟩, hentry', rfl, ha⟩ := exists_mem_of_forall₂ h _ hentry
  exact ⟨a', hentry', ha⟩

/-- Nothing changes if a name gets the value that it has. -/
theorem setEntry_get? {t : Table α} {name : String} {a : α} (h : t.get? name = some a) :
    Table.setEntry name a t.entries = t.entries := by
  obtain ⟨l⟩ := t
  change find? name l = some a at h
  change Table.setEntry name a l = l
  induction l with
  | nil => rfl
  | cons e rest ih =>
    obtain ⟨k, v⟩ := e
    simp only [find?] at h
    simp only [Table.setEntry]
    split at h
    · next hname =>
      obtain rfl := Option.some.inj h
      rw [if_pos hname]
    · next hname => rw [if_neg hname, ih h]

theorem Rel.setEntry (hrefl : ∀ a, R a a) {a b : α} (h : R a b) (name : String)
    (l : List (String × α)) : Rel R ⟨Table.setEntry name a l⟩ ⟨Table.setEntry name b l⟩ := by
  change List.Forall₂ _ (Table.setEntry name a l) (Table.setEntry name b l)
  induction l with
  | nil => exact .nil
  | cons e rest ih =>
    obtain ⟨k, v⟩ := e
    simp only [Table.setEntry]
    split
    · exact .cons ⟨rfl, h⟩ (List.forall₂_same.mpr fun e _ => ⟨rfl, hrefl e.2⟩)
    · exact .cons ⟨rfl, hrefl v⟩ ih

theorem Rel.set (hrefl : ∀ a, R a a) {t : Table α} {name : String} {a b : α}
    (hget : t.get? name = some a) (h : R a b) :
    Rel R t ⟨Table.setEntry name b t.entries⟩ := by
  have hboth := Rel.setEntry hrefl h name t.entries
  rwa [setEntry_get? hget] at hboth

end Table

end

/-- Items of the same form at related places. -/
inductive Items.Rel {σ : Type} (R : Subschema σ → Subschema σ → Prop) :
    Items σ → Items σ → Prop where
  | each {place place' : Subschema σ} : R place place' → Rel R (.each place) (.each place')
  | tuple {l l' : List (Subschema σ)} : List.Forall₂ R l l' → Rel R (.tuple l) (.tuple l')

theorem Items.Rel.refl {σ : Type} {R : Subschema σ → Subschema σ → Prop}
    (h : ∀ place, R place place) : ∀ items : Items σ, Rel R items items
  | .each place => .each (h place)
  | .tuple _ => .tuple (List.forall₂_same.mpr fun place _ => h place)

/-- The place that describes the first element has a counterpart. -/
theorem Items.Rel.exists_first {σ : Type} {R : Subschema σ → Subschema σ → Prop}
    {items items' : Option (Items σ)} {place : Subschema σ}
    (h : Option.Rel (Items.Rel R) items items')
    (hfirst : items = some (.each place) ∨ ∃ rest, items = some (.tuple (place :: rest))) :
    ∃ place', (items' = some (.each place') ∨ ∃ rest, items' = some (.tuple (place' :: rest))) ∧
      R place place' := by
  rcases hfirst with rfl | ⟨rest, rfl⟩
  · cases h with
    | some h =>
      cases h with
      | each hplace => exact ⟨_, Or.inl rfl, hplace⟩
  · cases h with
    | some h =>
      cases h with
      | tuple h =>
        cases h with
        | cons hplace _ => exact ⟨_, Or.inr ⟨_, rfl⟩, hplace⟩

/-! ## 3. Schemas that differ only below -/

namespace Schema

/-- The keywords that the check of a schema looks at are the same, and the places under them
    are related: by `S` where they are alternatives, by `R` elsewhere. -/
structure SameFace (R S : Subschema Schema → Subschema Schema → Prop) (s s' : Schema) : Prop where
  ref : s'.ref = s.ref
  type : s'.type = s.type
  properties : s.properties.Rel R s'.properties
  additionalProperties : Option.Rel R s.additionalProperties s'.additionalProperties
  items : Option.Rel (Items.Rel R) s.items s'.items
  allOf : List.Forall₂ R s.allOf s'.allOf
  anyOf : List.Forall₂ R s.anyOf s'.anyOf
  oneOf : List.Forall₂ S s.oneOf s'.oneOf

variable {R S : Subschema Schema → Subschema Schema → Prop}

theorem SameFace.refl (hR : ∀ place, R place place) (hS : ∀ place, S place place) (s : Schema) :
    SameFace R S s s where
  ref := rfl
  type := rfl
  properties := .refl hR s.properties
  additionalProperties := optionRel_refl hR _
  items := optionRel_refl (Items.Rel.refl hR) _
  allOf := List.forall₂_same.mpr fun place _ => hR place
  anyOf := List.forall₂_same.mpr fun place _ => hR place
  oneOf := List.forall₂_same.mpr fun place _ => hS place

/-- **Two things in the same place**, with everything else alike.  What is said about a definition
    does not count. -/
theorem sameFace_setPlace_setPlace (hR : ∀ place, R place place) (hS : ∀ place, S place place)
    (s : Schema) {step : Step} {new new' : Subschema Schema}
    (hnew : step.isDefinition = false → R new new')
    (halternative : step.isOneOf = true → S new new') :
    SameFace R S (s.setPlace new step) (s.setPlace new' step) := by
  have hrefl := SameFace.refl hR hS s
  cases step with
  | property name => exact { hrefl with properties := .setEntry hR (hnew rfl) name _ }
  | items => exact { hrefl with items := .some (.each (hnew rfl)) }
  | item i =>
    simp only [setPlace]
    split
    · exact { hrefl with items := .some (.tuple (forall₂_set_set hR (hnew rfl) _ i)) }
    · exact hrefl
  | additionalProperties => exact { hrefl with additionalProperties := .some (hnew rfl) }
  | allOf i => exact { hrefl with allOf := forall₂_set_set hR (hnew rfl) _ i }
  | anyOf i => exact { hrefl with anyOf := forall₂_set_set hR (hnew rfl) _ i }
  | oneOf i => exact { hrefl with oneOf := forall₂_set_set hS (halternative rfl) _ i }
  | additionalItems | contains | not | definition => exact { hrefl with }

/-- Nothing changes if a place gets what it holds. -/
theorem setPlace_place {s : Schema} {step : Step} {place : Subschema Schema}
    (h : s.place? step = some place) : s.setPlace place step = s := by
  cases s
  cases step with
  | property name | definition name =>
    simp only [setPlace, Table.setEntry_get? h]
  | items =>
    simp only [place?] at h
    split at h
    · rw [setPlace, ← Option.some.inj h]
    · cases h
  | item i =>
    simp only [place?] at h
    split at h
    · simp only [setPlace, set_getElem?_self h]
    · cases h
  | additionalItems | contains | additionalProperties | not =>
    simp only [setPlace, ← h, place?]
  | allOf i | anyOf i | oneOf i =>
    simp only [place?] at h
    simp only [setPlace, set_getElem?_self h]

/-- **Replacing what is in one place changes nothing but that place.** -/
theorem sameFace_setPlace (hR : ∀ place, R place place) (hS : ∀ place, S place place)
    {s : Schema} {step : Step} {place new : Subschema Schema} (hplace : s.place? step = some place)
    (hnew : R place new) (halternative : step.isOneOf = true → S place new) :
    SameFace R S s (s.setPlace new step) := by
  have hboth := sameFace_setPlace_setPlace hR hS s (fun _ => hnew) halternative
  rwa [setPlace_place hplace] at hboth

theorem replaceAt_cons {s t : Schema} {step : Step} {rest : List Step} (new : Subschema Schema)
    (hplace : s.place? step = some (.schema t)) (hrest : rest ≠ []) :
    s.replaceAt new (step :: rest) = s.setPlace (.schema (t.replaceAt new rest)) step := by
  cases rest with
  | nil => exact absurd rfl hrest
  | cons next rest => simp only [replaceAt, hplace]

theorem node?_cons_eq_some_iff {s node : Schema} {step : Step} {rest : List Step} :
    s.node? (step :: rest) = some node ↔
      ∃ t, s.place? step = some (.schema t) ∧ t.node? rest = some node := by
  rw [node?]
  rcases s.place? step with _ | (b | t) <;> simp [Subschema.schema?]

/-- The definitions change only by a step to one of them. -/
theorem definitions_setPlace {s : Schema} {step : Step} (new : Subschema Schema)
    (h : step.isDefinition = false) : (s.setPlace new step).definitions = s.definitions := by
  cases step with
  | definition => cases h
  | item => simp only [setPlace]; split <;> rfl
  | property | items | additionalItems | contains | additionalProperties | allOf | anyOf | oneOf
  | not => rfl

end Schema

end SchemaCatalog
