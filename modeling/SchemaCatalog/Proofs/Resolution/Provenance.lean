/-
  Provenance
  ==========
  **Which entity brought a definition along.**

  Hoisting an entity enters its definitions and theirs, but stops at a name
  that is taken.  `Carries taken e name d` is what comes along when the names
  of `taken` are: a part of what is nested in `e`.

  A table that grew from a given one by hoisting `Stems` from it: every new
  entry is an entity that was hoisted or was carried by one, and that entity
  stands in the table itself, under its name.
-/
import SchemaCatalog.Proofs.Resolution.Passes

namespace SchemaCatalog.Schema

variable {entities : Registry} {o : ResolverOptions}

/-! ## 1. What an entity carries along -/

/-- Hoisting `e` brings `d` under `name`, while the names of `taken` are passed over. -/
inductive Carries (taken : Definitions) : Schema → String → Subschema Schema → Prop where
  | direct {e : Schema} {name : String} {d : Subschema Schema} :
      (name, d) ∈ e.definitions.entries → taken.contains name = false → Carries taken e name d
  | within {e q : Schema} {key name : String} {d : Subschema Schema} :
      (key, .schema q) ∈ e.definitions.entries → taken.contains key = false →
      Carries taken q name d → Carries taken e name d

namespace Carries

variable {taken more : Definitions} {e : Schema} {name : String} {d : Subschema Schema}

theorem nests (h : Carries taken e name d) : e.Nests name d := by
  induction h with
  | direct hmem _ => exact .direct hmem
  | within hmem _ _ ih => exact .within hmem ih

theorem free (h : Carries taken e name d) : taken.contains name = false := by
  induction h with
  | direct _ hfree => exact hfree
  | within _ _ _ ih => exact ih

/-- The more names are taken, the less comes along. -/
theorem anti (hmore : ∀ name, more.contains name = false → taken.contains name = false)
    (h : Carries more e name d) : Carries taken e name d := by
  induction h with
  | direct hmem hfree => exact .direct hmem (hmore _ hfree)
  | within hmem hfree _ ih => exact .within hmem (hmore _ hfree) ih

theorem of_extends (hextends : taken.Extends more) (h : Carries more e name d) :
    Carries taken e name d :=
  h.anti fun _ => hextends.free

end Carries

theorem hoistEntries_carries {l : List (String × Subschema Schema)}
    (each : ∀ name d, (name, .schema d) ∈ l → ∀ (t : Definitions) (k key : String)
      (v : Subschema Schema), t.contains k = false → (hoist t k d).get? key = some v →
        t.get? key = some v ∨ (key = k ∧ v = .schema d) ∨ Carries t d key v)
    {t : Definitions} {key : String} {v : Subschema Schema}
    (h : (hoistEntries t l).get? key = some v) :
    t.get? key = some v ∨ ((key, v) ∈ l ∧ t.contains key = false) ∨
      ∃ name d, (name, .schema d) ∈ l ∧ t.contains name = false ∧ Carries t d key v := by
  induction l generalizing t with
  | nil => exact Or.inl h
  | cons entry rest ih =>
    obtain ⟨name, d⟩ := entry
    have hrest {u : Definitions} (hu : t.Extends u) (h : (hoistEntries u rest).get? key = some v) :
        u.get? key = some v ∨ ((key, v) ∈ (name, d) :: rest ∧ t.contains key = false) ∨
          ∃ name' d', (name', .schema d') ∈ (name, d) :: rest ∧ t.contains name' = false ∧
            Carries t d' key v := by
      rcases ih (fun name d h => each name d (List.mem_cons_of_mem _ h)) h with
        hold | ⟨hmem, hkey⟩ | ⟨k, q, hmem, hk, hcarries⟩
      · exact Or.inl hold
      · exact Or.inr (Or.inl ⟨List.mem_cons_of_mem _ hmem, hu.free hkey⟩)
      · exact Or.inr (Or.inr ⟨k, q, List.mem_cons_of_mem _ hmem, hu.free hk,
          hcarries.of_extends hu⟩)
    by_cases htaken : t.contains name = true
    · -- a taken name is passed over
      have hskip : hoistEntries t ((name, d) :: rest) = hoistEntries t rest := by
        cases d with
        | flag b => rw [hoistEntries, Table.insertIfNew, if_pos htaken]
        | schema s => rw [hoistEntries, if_pos htaken]
      rw [hskip] at h
      exact hrest (Table.Extends.refl t) h
    · have hfree := Bool.eq_false_iff.mpr htaken
      cases d with
      | flag b =>
        rw [hoistEntries, Table.insertIfNew, if_neg htaken] at h
        rcases hrest (Table.extends_insert _ hfree) h with hold | hlater
        · rw [Table.get?_insert] at hold
          split at hold
          · next hkey =>
            cases hold
            exact Or.inr (Or.inl ⟨hkey ▸ List.mem_cons_self, hkey ▸ hfree⟩)
          · exact Or.inl hold
        · exact Or.inr hlater
      | schema s =>
        rw [hoistEntries, if_neg htaken] at h
        rcases hrest (completes_hoist s t name hfree).1.extends_ h with hold | hlater
        · rcases each name s List.mem_cons_self t name key v hfree hold with
            hold | ⟨rfl, rfl⟩ | hcarries
          · exact Or.inl hold
          · exact Or.inr (Or.inl ⟨List.mem_cons_self, hfree⟩)
          · exact Or.inr (Or.inr ⟨name, s, List.mem_cons_self, hfree, hcarries⟩)
        · exact Or.inr hlater

/-- **What hoisting adds**: the schema itself and what it carries. -/
theorem hoist_carries (s : Schema) : ∀ (t : Definitions) (name key : String)
    (v : Subschema Schema), t.contains name = false → (hoist t name s).get? key = some v →
      t.get? key = some v ∨ (key = name ∧ v = .schema s) ∨ Carries t s key v := by
  induction s using inductionOnDefinitions with
  | step s ih =>
    intro t name key v hfree h
    have hextends : t.Extends (t.insert name (.schema s)) := Table.extends_insert _ hfree
    rw [hoist_eq] at h
    -- inside `s` more names are taken than before it, so what is carried there is carried here
    rcases hoistEntries_carries ih h with hget | ⟨hmem, hkey⟩ | ⟨k, d, hmem, hk, hcarries⟩
    · rw [Table.get?_insert] at hget
      split at hget
      · next hkey => exact Or.inr (Or.inl ⟨hkey, (Option.some.inj hget).symm⟩)
      · exact Or.inl hget
    · exact Or.inr (Or.inr (.direct hmem (hextends.free hkey)))
    · exact Or.inr (Or.inr (.within hmem (hextends.free hk) (hcarries.of_extends hextends)))

theorem sorted_hoistEntries {l : List (String × Subschema Schema)}
    (each : ∀ name d, (name, .schema d) ∈ l → ∀ (t : Definitions) (k : String), t.Sorted →
      (hoist t k d).Sorted)
    {t : Definitions} (h : t.Sorted) : (hoistEntries t l).Sorted := by
  induction l generalizing t with
  | nil => exact h
  | cons entry rest ih =>
    obtain ⟨name, d⟩ := entry
    have hrest {u : Definitions} (hu : u.Sorted) : (hoistEntries u rest).Sorted :=
      ih (fun name d h => each name d (List.mem_cons_of_mem _ h)) hu
    cases d with
    | flag b =>
      rw [hoistEntries, Table.insertIfNew]
      split
      · exact hrest h
      · exact hrest (h.insert name _)
    | schema s =>
      rw [hoistEntries]
      split
      · exact hrest h
      · exact hrest (each name s List.mem_cons_self t name h)

theorem sorted_hoist (s : Schema) : ∀ (t : Definitions) (name : String), t.Sorted →
    (hoist t name s).Sorted := by
  induction s using inductionOnDefinitions with
  | step s ih =>
    intro t name h
    rw [hoist_eq]
    exact sorted_hoistEntries ih (h.insert name _)

/-! ## 2. Tables that grew by hoisting -/

/-- The table `t` grew from `given` by hoisting entities, of which `hoisted` holds: any other
    entry came with an entity that stands in the table, and so do the definitions beside it. -/
structure Stems (hoisted : String → Schema → Prop) (given t : Definitions) : Prop where
  sorted : t.Sorted
  completes : Completes given t
  origin : ∀ name d, t.get? name = some d → given.get? name = some d ∨
    ∃ owner e, hoisted owner e ∧ given.contains owner = false ∧
      t.get? owner = some (.schema e) ∧
      ((name = owner ∧ d = .schema e) ∨ Carries given e name d)

namespace Stems

variable {hoisted : String → Schema → Prop} {given t : Definitions}

theorem refl (h : given.Sorted) : Stems hoisted given given where
  sorted := h
  completes := .refl given
  origin _ _ hget := Or.inl hget

/-- One entity more. -/
theorem hoist (h : Stems hoisted given t) {name : String} {e : Schema}
    (hfree : t.contains name = false) (he : hoisted name e) :
    Stems hoisted given (Schema.hoist t name e) := by
  obtain ⟨hcompletes, hself⟩ := completes_hoist e t name hfree
  have hgiven : given.contains name = false := h.completes.extends_.free hfree
  refine ⟨sorted_hoist e t name h.sorted, h.completes.trans hcompletes, ?_⟩
  intro key d hget
  rcases hoist_carries e t name key d hfree hget with hold | hnew | hcarries
  · rcases h.origin key d hold with hgivenkey | ⟨owner, q, hq, howner, hstands, hcame⟩
    · exact Or.inl hgivenkey
    · exact Or.inr ⟨owner, q, hq, howner, hcompletes.extends_ _ _ hstands, hcame⟩
  · exact Or.inr ⟨name, e, he, hgiven, hself, Or.inl hnew⟩
  · exact Or.inr ⟨name, e, he, hgiven, hself,
      Or.inr (hcarries.of_extends h.completes.extends_)⟩

/-- **A pass hoists the entities that its tokens name.** -/
theorem inlineTokens {s out : Schema} {tokens : List String}
    (h : Stems hoisted given s.definitions)
    (hhoisted : ∀ token ∈ tokens,
      s.definitions.contains (entityIdentifier token o.definitionsPrefix) = false →
      ∀ e, entities.Supplies (entityIdentifier token o.definitionsPrefix) e →
        hoisted (entityIdentifier token o.definitionsPrefix) e)
    (hpass : Schema.inlineTokens entities o s tokens = .ok out) :
    Stems hoisted given out.definitions := by
  induction tokens generalizing s with
  | nil =>
    cases hpass
    exact h
  | cons token rest ih =>
    rcases inlineTokens_cons_ok_iff.mp hpass with ⟨_, hrest⟩ | ⟨hfree, e, hsupplies, hrest⟩
    · exact ih h (fun t ht => hhoisted t (List.mem_cons_of_mem _ ht)) hrest
    · have hextends := (completes_hoist e s.definitions _ hfree).1.extends_
      refine ih (h.hoist hfree (hhoisted token List.mem_cons_self hfree e hsupplies)) ?_ hrest
      intro t ht hlater
      exact hhoisted t (List.mem_cons_of_mem _ ht) (hextends.free hlater)

end Stems

end SchemaCatalog.Schema
