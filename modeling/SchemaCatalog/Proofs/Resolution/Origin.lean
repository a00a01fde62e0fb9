/-
  Where definitions come from
  ===========================
  **Resolution only adds definitions, and every one it adds can be traced.**

  A pass and a resolution to the end both leave a document as it is apart from
  its definitions, and keep those it has.  What they add under a name is the
  entity registered under it, which the result refers to, or it is copied as it is
  from the definitions of an entry that was added as well (`Traced`).

  The relation `Adds given t u` says this of two tables, where `given` are the entries
  that need no owner.  It is transitive, so it is shown of one entry hoisted and holds of
  any number of tokens and of any number of passes.
-/
import SchemaCatalog.Proofs.Resolution.SelfContained
import SchemaCatalog.Proofs.Schema.Reading
import SchemaCatalog.Proofs.Schema.Visiting

namespace SchemaCatalog.Schema

variable {entities : Registry} {o : ResolverOptions}

/-! ## 1. Tables that grow -/

/-- A schema that only `u` has holds `d` under `name` among its own definitions. -/
def Inherited (t u : Definitions) (name : String) (d : Subschema Schema) : Prop :=
  ∃ owner e, t.contains owner = false ∧ u.get? owner = some (.schema e) ∧
    e.definitions.get? name = some d

/-- What is new after the later table is new after the earlier one. -/
theorem Inherited.of_extends {t t' u : Definitions} {name : String} {d : Subschema Schema}
    (h : t.Extends t') (hd : Inherited t' u name d) : Inherited t u name d := by
  obtain ⟨owner, e, hfree, howner, hd⟩ := hd
  rw [← Bool.not_eq_true] at hfree
  exact ⟨owner, e, Bool.eq_false_iff.mpr (mt h.contains hfree), howner, hd⟩

/-- The table `u` has all entries of `t`, and any other entry is given or inherited. -/
structure Adds (given : String → Subschema Schema → Prop) (t u : Definitions) : Prop where
  extends_ : t.Extends u
  entries : t.entries ⊆ u.entries
  origin : ∀ name d, u.get? name = some d →
    t.get? name = some d ∨ given name d ∨ Inherited t u name d

namespace Adds

variable {given given' : String → Subschema Schema → Prop} {t u v : Definitions}

theorem refl (given : String → Subschema Schema → Prop) (t : Definitions) : Adds given t t where
  extends_ := Table.Extends.refl t
  entries := List.Subset.refl _
  origin _ _ h := Or.inl h

theorem mono (h : Adds given t u) (hgiven : ∀ name d, given name d → given' name d) :
    Adds given' t u where
  extends_ := h.extends_
  entries := h.entries
  origin name d hget := by
    rcases h.origin name d hget with hold | hnew | hinherited
    · exact Or.inl hold
    · exact Or.inr (Or.inl (hgiven name d hnew))
    · exact Or.inr (Or.inr hinherited)

theorem trans (h : Adds given t u) (h' : Adds given u v) : Adds given t v where
  extends_ := h.extends_.trans h'.extends_
  entries := List.Subset.trans h.entries h'.entries
  origin name d hget := by
    rcases h'.origin name d hget with hold | hnew | hinherited
    · rcases h.origin name d hold with hold | hnew | ⟨owner, e, hfree, howner, hd⟩
      · exact Or.inl hold
      · exact Or.inr (Or.inl hnew)
      · exact Or.inr (Or.inr ⟨owner, e, hfree, h'.extends_ owner _ howner, hd⟩)
    · exact Or.inr (Or.inl hnew)
    · exact Or.inr (Or.inr (hinherited.of_extends h.extends_))

theorem insert {name : String} {d : Subschema Schema} (hfree : t.contains name = false)
    (hgiven : given name d) : Adds given t (t.insert name d) where
  extends_ := Table.extends_insert d hfree
  entries := Table.entries_subset_insert d hfree
  origin k e hget := by
    rw [Table.get?_insert] at hget
    split at hget
    · next hk =>
      cases hget
      exact Or.inr (Or.inl (hk ▸ hgiven))
    · exact Or.inl hget

end Adds

/-! ## 2. Hoisting -/

/-- What hoisting adds for a list of definitions are these definitions, or it is inherited. -/
theorem adds_hoistEntries {l : List (String × Subschema Schema)}
    (each : ∀ name d, (name, .schema d) ∈ l → ∀ (t : Definitions) (k : String),
      t.contains k = false → Adds (fun n v => n = k ∧ v = .schema d) t (hoist t k d))
    (t : Definitions) : Adds (fun n v => (n, v) ∈ l) t (hoistEntries t l) := by
  induction l generalizing t with
  | nil => exact Adds.refl _ t
  | cons entry rest ih =>
    obtain ⟨name, d⟩ := entry
    have hrest (u : Definitions) :
        Adds (fun n v => (n, v) ∈ (name, d) :: rest) u (hoistEntries u rest) :=
      (ih (fun name d h => each name d (List.mem_cons_of_mem _ h)) u).mono
        fun n v h => List.mem_cons_of_mem _ h
    by_cases htaken : t.contains name = true
    · -- a taken name is passed over
      have hskip : hoistEntries t ((name, d) :: rest) = hoistEntries t rest := by
        cases d with
        | flag b => rw [hoistEntries, Table.insertIfNew, if_pos htaken]
        | schema s => rw [hoistEntries, if_pos htaken]
      rw [hskip]
      exact hrest t
    · have hfree := Bool.eq_false_iff.mpr htaken
      cases d with
      | flag b =>
        rw [hoistEntries, Table.insertIfNew, if_neg htaken]
        exact (Adds.insert hfree List.mem_cons_self).trans (hrest _)
      | schema s =>
        rw [hoistEntries, if_neg htaken]
        refine ((each name s List.mem_cons_self t name hfree).mono ?_).trans (hrest _)
        rintro n v ⟨rfl, rfl⟩
        exact List.mem_cons_self

/-- **Hoisting adds the schema, and what it inherits.** -/
theorem adds_hoist (s : Schema) (hs : s.WellFormed) : ∀ (t : Definitions) (name : String),
    t.contains name = false → Adds (fun n v => n = name ∧ v = .schema s) t (hoist t name s) := by
  induction s using inductionOnDefinitions with
  | step s ih =>
    intro t name hfree
    have hentries := adds_hoistEntries
      (fun k d hd => ih k d hd (hs.of_mem_definitions hd)) (t.insert name (.schema s))
    have hinsert : t.Extends (t.insert name (.schema s)) := Table.extends_insert _ hfree
    rw [hoist_eq]
    refine ⟨hinsert.trans hentries.extends_,
      List.Subset.trans (Table.entries_subset_insert _ hfree) hentries.entries, ?_⟩
    intro n v hget
    rcases hentries.origin n v hget with hold | hmem | hinherited
    · rw [Table.get?_insert] at hold
      split at hold
      · next hn => exact Or.inr (Or.inl ⟨hn, (Option.some.inj hold).symm⟩)
      · exact Or.inl hold
    · -- the schema that was hoisted owns its definitions
      have hself := hentries.extends_ name (.schema s) (by rw [Table.get?_insert, if_pos rfl])
      exact Or.inr (Or.inr ⟨name, s, hfree, hself, hs.definitions_sorted.get?_of_mem hmem⟩)
    · exact Or.inr (Or.inr (hinherited.of_extends hinsert))

/-! ## 3. Passes -/

/-- The entity registered under `name` has the schema `d`, and one of the tokens names it. -/
def Referred (entities : Registry) (o : ResolverOptions) (tokens : String → Prop) (name : String)
    (d : Subschema Schema) : Prop :=
  ∃ e token, entities.Supplies name e ∧ d = .schema e ∧ tokens token ∧
    entityIdentifier token o.definitionsPrefix = name

theorem Supplies.wellFormed {name : String} {e : Schema} (h : entities.Supplies name e) :
    e.WellFormed := by
  obtain ⟨_, bytes, _, _, hread⟩ := h
  rw [ofBytesNamed] at hread
  cases hbytes : ofBytes bytes with
  | error err =>
    rw [hbytes] at hread
    cases hread
  | ok s =>
    rw [hbytes] at hread
    cases hread
    exact ofBytes_wellFormed hbytes

theorem adds_inlineTokens {s out : Schema} {tokens : List String}
    (h : inlineTokens entities o s tokens = .ok out) :
    Adds (Referred entities o (· ∈ tokens)) s.definitions out.definitions := by
  induction tokens generalizing s with
  | nil =>
    cases h
    exact Adds.refl _ _
  | cons token rest ih =>
    have hrest {s' : Schema} (h : inlineTokens entities o s' rest = .ok out) :
        Adds (Referred entities o (· ∈ token :: rest)) s'.definitions out.definitions := by
      refine (ih h).mono ?_
      rintro name d ⟨e, t, hsupplies, hd, ht, hname⟩
      exact ⟨e, t, hsupplies, hd, List.mem_cons_of_mem _ ht, hname⟩
    rcases inlineTokens_cons_ok_iff.mp h with ⟨_, h⟩ | ⟨hfree, e, hsupplies, h⟩
    · exact hrest h
    · refine ((adds_hoist e (Supplies.wellFormed hsupplies) _ _ hfree).mono ?_).trans (hrest h)
      rintro name d ⟨rfl, rfl⟩
      exact ⟨e, token, hsupplies, rfl, List.mem_cons_self, rfl⟩

/-- A document refers to what it referred to before its table of definitions grew. -/
theorem RefersTo.mono {s out : Schema} (hframe : out = { s with definitions := out.definitions })
    (hentries : s.definitions.entries ⊆ out.definitions.entries) {token : String}
    (h : s.RefersTo token) : out.RefersTo token := by
  obtain ⟨t, (_ | @⟨_, c, _, segment, hc, ht⟩) | ⟨name, e, he, ht⟩, href⟩ := h
  · refine ⟨out, Or.inl (.self out), ?_⟩
    rw [hframe]
    exact href
  · have hc' : (segment, c) ∈ out.children := by
      rw [hframe]
      exact hc
    exact ⟨t, Or.inl (.deeper hc' ht), href⟩
  · exact ⟨t, Or.inr ⟨name, e, hentries he, ht⟩, href⟩

theorem adds_dereference {s out : Schema} (h : s.dereference entities o = .ok out) :
    Adds (Referred entities o out.RefersTo) s.definitions out.definitions := by
  obtain ⟨tokens, hrefs, hinline⟩ := dereference_ok_iff.mp h
  have hadds := adds_inlineTokens hinline
  refine hadds.mono ?_
  rintro name d ⟨e, token, hsupplies, hd, htoken, hname⟩
  have hrefers : s.RefersTo token := (mem_refs_iff hrefs).mp htoken
  exact ⟨e, token, hsupplies, hd, hrefers.mono (dereference_grows h).frame hadds.entries, hname⟩

theorem adds_dereferencePasses {fuel : Nat} {s out : Schema}
    (h : s.dereferencePasses entities o fuel = .ok out) :
    Adds (Referred entities o out.RefersTo) s.definitions out.definitions := by
  induction fuel generalizing s with
  | zero =>
    cases h
    exact Adds.refl _ _
  | succ fuel ih =>
    obtain ⟨next, hpass, ⟨_, rfl⟩ | ⟨_, hrest⟩⟩ := dereferencePasses_succ_ok_iff.mp h
    · exact adds_dereference hpass
    · -- what the next document refers to, the last one still refers to
      have hlater := ih hrest
      refine ((adds_dereference hpass).mono ?_).trans hlater
      rintro name d ⟨e, token, hsupplies, hd, hrefers, hname⟩
      exact ⟨e, token, hsupplies, hd,
        hrefers.mono (dereferencePasses_grows hrest).frame hlater.entries, hname⟩

/-! ## 4. Every addition is traced -/

/-- Every definition that `out` has and `s` has not is the entity registered under its name, which
    one of the tokens names, or stands as it is among the definitions of another one. -/
def Traced (entities : Registry) (o : ResolverOptions) (s out : Schema) (tokens : List String) :
    Prop :=
  ∀ name d, out.definitions.get? name = some d → name ∉ s.definitions.keys →
    (∃ e, entities.Supplies name e ∧ d = .schema e ∧
      ∃ token ∈ tokens, entityIdentifier token o.definitionsPrefix = name) ∨
    ∃ owner e, owner ≠ name ∧ owner ∉ s.definitions.keys ∧
      out.definitions.get? owner = some (.schema e) ∧ e.definitions.get? name = some d

/-- No schema stands among its own definitions. -/
theorem ne_of_get?_definitions {e d : Schema} {name : String}
    (h : e.definitions.get? name = some (.schema d)) : d ≠ e := by
  rintro rfl
  exact Nat.lt_irrefl _ (rank_lt_of_mem_definitions (Table.mem_of_get? h))

theorem Adds.traced {s out : Schema} {maxDepth : Nat} {tokens : List String}
    (h : Adds (Referred entities o out.RefersTo) s.definitions out.definitions)
    (hrefs : out.refs maxDepth = .ok tokens) : Traced entities o s out tokens := by
  intro name d hget hnew
  rcases h.origin name d hget with hold | ⟨e, token, hsupplies, hd, hrefers, hname⟩ |
    ⟨owner, e, hfree, howner, hd⟩
  · exact absurd (Table.mem_keys_iff.mpr (Table.contains_of_get? hold)) hnew
  · exact Or.inl ⟨e, hsupplies, hd, token, (mem_refs_iff hrefs).mpr hrefers, hname⟩
  · refine Or.inr ⟨owner, e, ?_, ?_, howner, hd⟩
    · rintro rfl
      obtain rfl : Subschema.schema e = d := Option.some.inj (howner.symm.trans hget)
      exact ne_of_get?_definitions hd rfl
    · rw [Table.mem_keys_iff, hfree]
      exact Bool.false_ne_true

/-- **Resolution adds definitions of known origin, and changes nothing else.**  Whatever the
    document, the registry and the options: a pass that succeeds, and a resolution to the end that
    does, keep every keyword and every definition, and what they add is traced to the references of
    the result.  Those of the result of one pass are found by a walk to a sufficient depth, and
    those of the final result by the walk of the options.  What one pass adds, a resolution to the
    end adds as well. -/
theorem resolution_adds_traced (entities : Registry) (o : ResolverOptions) (s : Schema) :
    (∀ out, s.dereference entities o = .ok out →
      out = { s with definitions := out.definitions } ∧
      s.definitions.Extends out.definitions ∧
      (∃ maxDepth tokens, out.refs maxDepth = .ok tokens) ∧
      ∀ maxDepth tokens, out.refs maxDepth = .ok tokens → Traced entities o s out tokens) ∧
    (∀ out, s.dereferenceTransitive entities o = .ok out →
      out = { s with definitions := out.definitions } ∧
      s.definitions.Extends out.definitions ∧
      ∃ tokens, out.refs o.maxDepth = .ok tokens ∧ Traced entities o s out tokens) ∧
    (∀ once full, s.dereference entities o = .ok once →
      s.dereferenceTransitive entities o = .ok full →
      once.definitions.Extends full.definitions) := by
  refine ⟨?_, ?_, ?_⟩
  · intro out h
    obtain ⟨tokens, hrefs⟩ := exists_refs_ok out (Nat.le_refl _)
    exact ⟨(dereference_grows h).frame, (adds_dereference h).extends_, ⟨_, tokens, hrefs⟩,
      fun _ _ hrefs => (adds_dereference h).traced hrefs⟩
  · intro out h
    obtain ⟨tokens, hrefs, _⟩ := dereference_ok_iff.mp (dereferenceTransitive_fixpoint h)
    exact ⟨(dereferencePasses_grows h).frame, (adds_dereferencePasses h).extends_, tokens, hrefs,
      (adds_dereferencePasses h).traced hrefs⟩
  · intro once full honce hfull
    obtain ⟨next, hnext, ⟨_, rfl⟩ | ⟨_, hrest⟩⟩ := dereferencePasses_succ_ok_iff.mp hfull
    · obtain rfl : once = next := Except.ok.inj (honce.symm.trans hnext)
      exact Table.Extends.refl _
    · obtain rfl : once = next := Except.ok.inj (honce.symm.trans hnext)
      exact (adds_dereferencePasses hrest).extends_

/-- A reference to the first of two entities that refer to each other, after one pass. -/
def onceResolvedDocument : Schema where
  ref := some "#/definitions/Outer"
  definitions := ⟨[("Outer", .schema outerSchema), ("Own", .flag true)]⟩

/-- One pass brings the entity and the flag that it owns; the second entity comes later. -/
theorem cyclicDocument_traced :
    (reference "#/definitions/Outer").dereference cyclicRegistry {} = .ok onceResolvedDocument ∧
    (reference "#/definitions/Outer").dereferenceTransitive cyclicRegistry {} =
      .ok cyclicDocument ∧
    Traced cyclicRegistry {} (reference "#/definitions/Outer") onceResolvedDocument
      ["#/definitions/Outer", "#/definitions/Inner"] ∧
    (∃ tokens, cyclicDocument.refs defaultMaxDepth = .ok tokens ∧
      Traced cyclicRegistry {} (reference "#/definitions/Outer") cyclicDocument tokens) ∧
    onceResolvedDocument.definitions.Extends cyclicDocument.definitions := by
  have honce : (reference "#/definitions/Outer").dereference cyclicRegistry {} =
      .ok onceResolvedDocument := by decide +kernel
  have hfull : (reference "#/definitions/Outer").dereferenceTransitive cyclicRegistry {} =
      .ok cyclicDocument := by decide +kernel
  have hrefs : onceResolvedDocument.refs defaultMaxDepth =
      .ok ["#/definitions/Outer", "#/definitions/Inner"] := by decide +kernel
  obtain ⟨hpass, hend, hsub⟩ :=
    resolution_adds_traced cyclicRegistry {} (reference "#/definitions/Outer")
  obtain ⟨_, _, _, htraced⟩ := hpass _ honce
  obtain ⟨_, _, hlast⟩ := hend _ hfull
  exact ⟨honce, hfull, htraced _ _ hrefs, hlast, hsub _ _ honce hfull⟩

end SchemaCatalog.Schema
