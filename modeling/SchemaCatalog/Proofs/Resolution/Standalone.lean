/-
  Standalone resolution
  =====================
  **An entity's document resolved by itself, and a reference to the entity.**

  Both resolutions look for the same entities, but not from the same places.
  By itself the document keeps its definitions as they are: a walk enters
  those of the root and none further down.  Behind a reference the document is
  hoisted, and then its definitions at any depth are definitions of the root.
  So what is nested in a definition is referred to, and can be referred
  to, only in the second case (`standalone_differs`).

  The names that either resolution looks for are those `Called` for.  Where
  every name has one meaning (`Unambiguous`), both succeed exactly if the
  registry supplies each name called for: a resolution that is `Underway`
  meets no reference but to names it has and to names called for
  (`Underway.answered_or_called`), and one that has ended has
  all of them (`Underway.supplies_of_called`).
-/
import SchemaCatalog.Proofs.Resolution.Failure
import SchemaCatalog.Proofs.Resolution.Origin
import SchemaCatalog.Proofs.Resolution.Provenance
import SchemaCatalog.Proofs.Reference

namespace SchemaCatalog.Schema

variable {entities : Registry} {o : ResolverOptions} {name : String} {s : Schema}

/-! ## 1. The names that a resolution looks for -/

/-- A schema that comes when `e` is hoisted: `e` itself, or one that it carries. -/
inductive Comes (own : Definitions) (e : Schema) : Schema → Prop where
  | self : Comes own e e
  | carried {key : String} {q : Schema} : Carries own e key (.schema q) → Comes own e q

/-- The names that a document refers to without defining them, and those that an entity called
    for refers to while neither the document defines them nor the entity carries them. -/
inductive Called (entities : Registry) (o : ResolverOptions) (s : Schema) : String → Prop where
  | root {token : String} : s.RefersTo token →
      s.definitions.contains (entityIdentifier token o.definitionsPrefix) = false →
      Called entities o s (entityIdentifier token o.definitionsPrefix)
  | through {owner token : String} {e q : Schema} : Called entities o s owner →
      entities.Supplies owner e → Comes s.definitions e q → q.TreeRefersTo token →
      s.definitions.contains (entityIdentifier token o.definitionsPrefix) = false →
      (∀ d, ¬ Carries s.definitions e (entityIdentifier token o.definitionsPrefix) d) →
      Called entities o s (entityIdentifier token o.definitionsPrefix)

/-- An entity called for comes with `d` under the name `key`. -/
def Offered (entities : Registry) (o : ResolverOptions) (s : Schema) (key : String)
    (d : Subschema Schema) : Prop :=
  ∃ owner e, Called entities o s owner ∧ entities.Supplies owner e ∧
    ((key = owner ∧ d = .schema e) ∨ Carries s.definitions e key d)

/-- Every name has one meaning in the document `s` of the entity `name` and in what it calls for. -/
structure Unambiguous (entities : Registry) (o : ResolverOptions) (name : String) (s : Schema) :
    Prop where
  name_free : name ∉ s.definitions.keys
  /-- What is nested anywhere under the name of a definition of the document is that definition. -/
  own : ∀ key d, s.Nests key d → key ∈ s.definitions.keys → s.definitions.get? key = some d
  /-- What is nested under another name is not looked for, and what it refers to is defined by the
      document or looked for anyway. -/
  idle : ∀ key d, s.Nests key d → key ∉ s.definitions.keys → key ≠ name →
    ¬ Called entities o s key ∧ (∀ d', Offered entities o s key d' → d' = d) ∧
      ∀ q token, d = .schema q → q.TreeRefersTo token →
        entityIdentifier token o.definitionsPrefix ∈ s.definitions.keys ∨
          Called entities o s (entityIdentifier token o.definitionsPrefix)
  self : ∀ d, Offered entities o s name d → d = .schema s
  unique : ∀ key d d', Offered entities o s key d → Offered entities o s key d' → d = d'
  /-- A name that is called for is not left to what some other entity carries. -/
  registered : ∀ key d, Called entities o s key → Offered entities o s key d →
    ∃ e, entities.Supplies key e

theorem Called.free {key : String} (h : Called entities o s key) :
    s.definitions.contains key = false := by
  cases h with
  | root _ hfree => exact hfree
  | through _ _ _ _ hfree _ => exact hfree

theorem Offered.free {key : String} {d : Subschema Schema} (h : Offered entities o s key d) :
    s.definitions.contains key = false := by
  obtain ⟨owner, e, hcalled, _, ⟨rfl, _⟩ | hcarries⟩ := h
  · exact hcalled.free
  · exact hcarries.free

/-! ## 2. A resolution underway -/

/-- The definitions that a resolution starts from are those of the document, or the document itself
    and what is nested in it. -/
structure Start (name : String) (s : Schema) (given : Definitions) : Prop where
  sorted : given.Sorted
  extends_ : s.definitions.Extends given
  origin : ∀ key d, given.get? key = some d → s.definitions.get? key = some d ∨
    (key = name ∧ d = .schema s) ∨ (s.Nests key d ∧ key ∉ s.definitions.keys ∧ key ≠ name)
  closed : ∀ key e, given.get? key = some (.schema e) → key ∉ s.definitions.keys →
    ∀ k ∈ e.definitions.keys, given.contains k = true

/-- What holds of the document in hand while the document `s` is resolved. -/
structure Underway (entities : Registry) (o : ResolverOptions) (s : Schema) (given : Definitions)
    (doc : Schema) : Prop where
  stems : Stems (fun owner e => Called entities o s owner ∧ entities.Supplies owner e) given
    doc.definitions
  tree : ∀ token, doc.TreeRefersTo token → s.RefersTo token ∨
    doc.definitions.contains (entityIdentifier token o.definitionsPrefix) = true
  covers : ∀ token, s.RefersTo token → doc.RefersTo token

namespace Underway

variable {given : Definitions} {doc : Schema}

theorem extends_ (hstart : Start name s given) (h : Underway entities o s given doc) :
    s.definitions.Extends doc.definitions :=
  hstart.extends_.trans h.stems.completes.extends_

theorem origin (hstart : Start name s given) (h : Underway entities o s given doc) {key : String}
    {d : Subschema Schema} (hget : doc.definitions.get? key = some d) :
    s.definitions.get? key = some d ∨ (key = name ∧ d = .schema s) ∨
      (s.Nests key d ∧ key ∉ s.definitions.keys ∧ key ≠ name) ∨ Offered entities o s key d := by
  rcases h.stems.origin key d hget with hgiven | ⟨owner, e, ⟨hcalled, hsupplies⟩, _, _, hcame⟩
  · rcases hstart.origin key d hgiven with hown | hself | hidle
    · exact Or.inl hown
    · exact Or.inr (Or.inl hself)
    · exact Or.inr (Or.inr (Or.inl hidle))
  · refine Or.inr (Or.inr (Or.inr ⟨owner, e, hcalled, hsupplies, ?_⟩))
    rcases hcame with hself | hcarries
    · exact Or.inl hself
    · exact Or.inr (hcarries.of_extends hstart.extends_)

/-- What is offered under a name is what stands there. -/
theorem eq_of_offered (hu : Unambiguous entities o name s) (hstart : Start name s given)
    (h : Underway entities o s given doc) {key : String} {d d' : Subschema Schema}
    (hoffered : Offered entities o s key d) (hget : doc.definitions.get? key = some d') :
    d' = d := by
  rcases h.origin hstart hget with hown | ⟨rfl, rfl⟩ | ⟨hnests, hkey, hne⟩ | hoffered'
  · have hfree := hoffered.free
    rw [Table.contains_of_get? hown] at hfree
    cases hfree
  · exact (hu.self d hoffered).symm
  · exact ((hu.idle key d' hnests hkey hne).2.1 d hoffered).symm
  · exact hu.unique key d' d hoffered' hoffered

theorem closed (hstart : Start name s given) (h : Underway entities o s given doc) {key : String}
    {e : Schema} (hget : doc.definitions.get? key = some (.schema e))
    (hfree : s.definitions.contains key = false) :
    ∀ k ∈ e.definitions.keys, doc.definitions.contains k = true := by
  intro k hk
  by_cases hgiven : given.contains key = true
  · obtain ⟨d, hd⟩ := Table.contains_iff.mp hgiven
    have hsame := h.stems.completes.extends_ key d hd
    rw [hget] at hsame
    cases hsame
    have hkey : key ∉ s.definitions.keys := by
      rw [Table.mem_keys_iff, hfree]
      exact Bool.false_ne_true
    exact h.stems.completes.extends_.contains (hstart.closed key e hd hkey k hk)
  · exact h.stems.completes.closed key e hget (Bool.eq_false_iff.mpr hgiven) k hk

/-- An entity that has been hoisted has everything that it carries beside it. -/
theorem get?_of_carries (hu : Unambiguous entities o name s) (hstart : Start name s given)
    (h : Underway entities o s given doc) {e : Schema} {key : String} {d : Subschema Schema}
    (hcarries : Carries s.definitions e key d)
    (hoffered : ∀ k v, Carries s.definitions e k v → Offered entities o s k v)
    (hstands : ∃ owner, doc.definitions.get? owner = some (.schema e) ∧
      s.definitions.contains owner = false) :
    doc.definitions.get? key = some d := by
  have hdirect {e : Schema} {key : String} {d : Subschema Schema}
      (hmem : (key, d) ∈ e.definitions.entries) (hoffered : Offered entities o s key d)
      (hstands : ∃ owner, doc.definitions.get? owner = some (.schema e) ∧
        s.definitions.contains owner = false) : doc.definitions.get? key = some d := by
    obtain ⟨owner, hget, hfree⟩ := hstands
    obtain ⟨d', hd'⟩ := Table.contains_iff.mp
      (h.closed hstart hget hfree key (List.mem_map.mpr ⟨(key, d), hmem, rfl⟩))
    rw [hd', h.eq_of_offered hu hstart hoffered hd']
  -- what `e` carries directly stands in the table, and becomes the owner for the next level
  induction hcarries with
  | direct hmem hfree => exact hdirect hmem (hoffered _ _ (.direct hmem hfree)) hstands
  | @within e q k key d hmem hfree _ ih =>
    refine ih (fun k' v hv => hoffered k' v (.within hmem hfree hv)) ⟨k, ?_, hfree⟩
    exact hdirect hmem (hoffered _ _ (.direct hmem hfree)) hstands

/-- **A reference that is met is answered, or calls for its name.** -/
theorem answered_or_called (hu : Unambiguous entities o name s) (hstart : Start name s given)
    (h : Underway entities o s given doc) {token : String} (hrefers : doc.RefersTo token) :
    doc.definitions.contains (entityIdentifier token o.definitionsPrefix) = true ∨
      Called entities o s (entityIdentifier token o.definitionsPrefix) := by
  have hdocument (hs : s.RefersTo token) :
      doc.definitions.contains (entityIdentifier token o.definitionsPrefix) = true ∨
        Called entities o s (entityIdentifier token o.definitionsPrefix) := by
    by_cases hown : s.definitions.contains (entityIdentifier token o.definitionsPrefix) = true
    · exact Or.inl ((h.extends_ hstart).contains hown)
    · exact Or.inr (.root hs (Bool.eq_false_iff.mpr hown))
  rcases refersTo_iff.mp hrefers with htree | ⟨key, q, hmem, hq⟩
  · rcases h.tree token htree with hs | hanswered
    · exact hdocument hs
    · exact Or.inl hanswered
  have hget : doc.definitions.get? key = some (.schema q) := h.stems.sorted.get?_of_mem hmem
  rcases h.stems.origin key _ hget with
    hgiven | ⟨owner, e, ⟨hcalled, hsupplies⟩, hfree, hstands, hcame⟩
  · rcases hstart.origin key _ hgiven with hown | ⟨_, hself⟩ | ⟨hnests, hkey, hne⟩
    · exact hdocument (refersTo_iff.mpr (Or.inr ⟨key, q, Table.mem_of_get? hown, hq⟩))
    · cases hself
      exact hdocument (refersTo_iff.mpr (Or.inl hq))
    · rcases (hu.idle key _ hnests hkey hne).2.2 q token rfl hq with hown | hcalled
      · exact Or.inl ((h.extends_ hstart).contains (Table.mem_keys_iff.mp hown))
      · exact Or.inr hcalled
  · have hcomes : Comes s.definitions e q := by
      rcases hcame with ⟨_, hself⟩ | hcarries
      · cases hself
        exact .self
      · exact .carried (hcarries.of_extends hstart.extends_)
    by_cases hown : s.definitions.contains (entityIdentifier token o.definitionsPrefix) = true
    · exact Or.inl ((h.extends_ hstart).contains hown)
    by_cases hcarries :
        ∃ d, Carries s.definitions e (entityIdentifier token o.definitionsPrefix) d
    · obtain ⟨d, hd⟩ := hcarries
      refine Or.inl (Table.contains_of_get? (h.get?_of_carries hu hstart hd ?_
        ⟨owner, hstands, hcalled.free⟩))
      intro k v hv
      exact ⟨owner, e, hcalled, hsupplies, Or.inr hv⟩
    · exact Or.inr (.through hcalled hsupplies hcomes hq (Bool.eq_false_iff.mpr hown)
        fun d hd => hcarries ⟨d, hd⟩)

/-! ## 3. Steps and runs -/

theorem inlineTokens (hu : Unambiguous entities o name s) (hstart : Start name s given)
    (h : Underway entities o s given doc) {tokens : List String} {out : Schema}
    (htokens : ∀ token ∈ tokens, doc.RefersTo token)
    (hpass : Schema.inlineTokens entities o doc tokens = .ok out) :
    Underway entities o s given out := by
  have hgrows := (inlineTokens_ok hpass).1
  refine ⟨?_, ?_, ?_⟩
  · refine h.stems.inlineTokens ?_ hpass
    intro token htoken hfree e hsupplies
    rcases h.answered_or_called hu hstart (htokens token htoken) with hanswered | hcalled
    · rw [hanswered] at hfree
      cases hfree
    · exact ⟨hcalled, hsupplies⟩
  · intro token htree
    rw [hgrows.frame, treeRefersTo_definitions_iff] at htree
    rcases h.tree token htree with hs | hanswered
    · exact Or.inl hs
    · exact Or.inr (hgrows.completes.extends_.contains hanswered)
  · intro token hs
    exact (h.covers token hs).mono hgrows.frame (adds_inlineTokens hpass).entries

theorem dereference (hu : Unambiguous entities o name s) (hstart : Start name s given)
    (h : Underway entities o s given doc) {next : Schema}
    (hpass : doc.dereference entities o = .ok next) : Underway entities o s given next := by
  obtain ⟨tokens, hrefs, hinline⟩ := dereference_ok_iff.mp hpass
  exact h.inlineTokens hu hstart (fun token ht => (mem_refs_iff hrefs).mp ht) hinline

/-- A resolution that fails within its depth was refused a name called for. -/
theorem refused_of_error (hu : Unambiguous entities o name s) (hstart : Start name s given)
    (h : Underway entities o s given doc) {fuel : Nat} {err : SchemaError}
    (herror : doc.dereferencePasses entities o fuel = .error err) :
    (∃ path, err = depthError o.maxDepth path) ∨
      ∃ key, Called entities o s key ∧ entities.Refuses key err := by
  obtain ⟨t, ht, herror⟩ := dereferencePasses_error_invariant
    (fun _ _ hdoc hpass => Underway.dereference hu hstart hdoc hpass) h herror
  rcases dereference_error herror with hdepth | ⟨before, token, mid, _, htoken, hmid, hfree, hno⟩
  · exact Or.inl hdepth
  · rcases ht.answered_or_called hu hstart htoken with hanswered | hcalled
    · rw [(inlineTokens_ok hmid).1.completes.extends_.contains hanswered] at hfree
      cases hfree
    · exact Or.inr ⟨_, hcalled, hno⟩

/-- **A resolution that has ended has every name called for.** -/
theorem supplies_of_called (hsupplies : entities.Supplies name s)
    (hu : Unambiguous entities o name s) (hstart : Start name s given)
    (h : Underway entities o s given doc) (hend : doc.SelfContained o) {key : String}
    (hcalled : Called entities o s key) :
    ∃ e, entities.Supplies key e ∧ doc.definitions.get? key = some (.schema e) := by
  obtain ⟨tokens, hrefs, hanswered⟩ := hend
  -- a name that is called for and stands in the table is supplied
  have hstands {key : String} (hcalled : Called entities o s key)
      (hthere : doc.definitions.contains key = true) :
      ∃ e, entities.Supplies key e ∧ doc.definitions.get? key = some (.schema e) := by
    obtain ⟨d, hget⟩ := Table.contains_iff.mp hthere
    rcases h.origin hstart hget with hown | ⟨rfl, rfl⟩ | ⟨hnests, hkey, hne⟩ | hoffered
    · have hfree := hcalled.free
      rw [Table.contains_of_get? hown] at hfree
      cases hfree
    · exact ⟨s, hsupplies, hget⟩
    · exact absurd hcalled (hu.idle key d hnests hkey hne).1
    · obtain ⟨e, he⟩ := hu.registered key d hcalled hoffered
      have hself : Offered entities o s key (.schema e) :=
        ⟨key, e, hcalled, he, Or.inl ⟨rfl, rfl⟩⟩
      rw [hu.unique key d _ hoffered hself] at hget
      exact ⟨e, he, hget⟩
  induction hcalled with
  | root hrefers hfree =>
    exact hstands (.root hrefers hfree)
      (hanswered _ ((mem_refs_iff hrefs).mpr (h.covers _ hrefers)))
  | @through owner token e q howner he hcomes hq hfree hnone ih =>
    obtain ⟨e', he', hget⟩ := ih
    obtain rfl := he.unique he'
    have hplace : ∃ k, (k, .schema q) ∈ doc.definitions.entries := by
      cases hcomes with
      | self => exact ⟨owner, Table.mem_of_get? hget⟩
      | @carried k _ hcarries =>
        refine ⟨k, Table.mem_of_get? (h.get?_of_carries hu hstart hcarries ?_
          ⟨owner, hget, howner.free⟩)⟩
        intro k v hv
        exact ⟨owner, e, howner, he, Or.inr hv⟩
    -- a schema that stands in the table is walked, so its references have been answered
    obtain ⟨k, hk⟩ := hplace
    have hrefers : doc.RefersTo token := refersTo_iff.mpr (Or.inr ⟨k, q, hk, hq⟩)
    exact hstands (.through howner he hcomes hq hfree hnone)
      (hanswered _ ((mem_refs_iff hrefs).mpr hrefers))

/-- **A resolution succeeds exactly if every name called for is supplied**, unless it exceeds its
    depth or is given too few passes. -/
theorem succeeds_iff (hsupplies : entities.Supplies name s) (hu : Unambiguous entities o name s)
    (hstart : Start name s given) (h : Underway entities o s given doc) {fuel : Nat}
    (hend : ∀ out, doc.dereferencePasses entities o fuel = .ok out →
      out.dereference entities o = .ok out)
    (hdepth : ∀ breadcrumb limit,
      doc.dereferencePasses entities o fuel ≠ .error (.depthLimit breadcrumb limit)) :
    (∃ out, doc.dereferencePasses entities o fuel = .ok out) ↔
      ∀ key, Called entities o s key → ∃ e, entities.Supplies key e := by
  constructor
  · rintro ⟨out, hout⟩ key hcalled
    have hunderway : Underway entities o s given out := dereferencePasses_invariant
      (fun _ _ hdoc hpass => Underway.dereference hu hstart hdoc hpass) h hout
    obtain ⟨e, he, _⟩ := hunderway.supplies_of_called hsupplies hu hstart
      (dereference_eq_self_iff.mp (hend out hout)) hcalled
    exact ⟨e, he⟩
  · intro hall
    cases hrun : doc.dereferencePasses entities o fuel with
    | ok out => exact ⟨out, rfl⟩
    | error err =>
      rcases h.refused_of_error hu hstart hrun with ⟨path, rfl⟩ | ⟨key, hcalled, hrefuses⟩
      · exact absurd hrun (hdepth _ _)
      · obtain ⟨e, he⟩ := hall key hcalled
        exact absurd he hrefuses.not_supplies

end Underway

/-! ## 4. The two resolutions of an entity -/

theorem start_self (hs : s.WellFormed) : Start name s s.definitions where
  sorted := hs.definitions_sorted
  extends_ := Table.Extends.refl _
  origin _ _ h := Or.inl h
  closed := by
    intro key e hget hkey
    exact absurd (Table.mem_keys_iff.mpr (Table.contains_of_get? hget)) hkey

theorem underway_self (hs : s.WellFormed) : Underway entities o s s.definitions s where
  stems := Stems.refl hs.definitions_sorted
  tree _ h := Or.inl (refersTo_iff.mpr (Or.inl h))
  covers _ h := h

theorem contains_empty (name : String) : ({} : Definitions).contains name = false := rfl

theorem start_hoist (hu : Unambiguous entities o name s) : Start name s (hoist {} name s) := by
  obtain ⟨hcompletes, hself⟩ := completes_hoist s {} name (contains_empty name)
  have horigin : ∀ key d, (hoist {} name s).get? key = some d → s.definitions.get? key = some d ∨
      (key = name ∧ d = .schema s) ∨ (s.Nests key d ∧ key ∉ s.definitions.keys ∧ key ≠ name) := by
    intro key d hget
    by_cases hname : key = name
    · subst hname
      rw [hself] at hget
      cases hget
      exact Or.inr (Or.inl ⟨rfl, rfl⟩)
    rcases hoist_origin s {} name key d hget with hold | hsame | hnests
    · cases hold
    · exact absurd hsame.1 hname
    · by_cases hkey : key ∈ s.definitions.keys
      · exact Or.inl (hu.own key d hnests hkey)
      · exact Or.inr (Or.inr ⟨hnests, hkey, hname⟩)
  refine ⟨sorted_hoist s {} name List.Pairwise.nil, ?_, horigin, ?_⟩
  · intro key d hget
    have hkey : key ∈ s.definitions.keys := Table.mem_keys_iff.mpr (Table.contains_of_get? hget)
    obtain ⟨d', hd'⟩ := Table.contains_iff.mp
      (hcompletes.closed name s hself (contains_empty name) key hkey)
    rcases horigin key d' hd' with hown | ⟨rfl, _⟩ | ⟨_, hnone, _⟩
    · rw [hd', ← hown, hget]
    · exact absurd hkey hu.name_free
    · exact absurd hkey hnone
  · intro key e hget _
    exact hcompletes.closed key e hget (contains_empty key)

/-- The document of a reference to an entity, after its first pass. -/
def afterFirstPass (token name : String) (s : Schema) : Schema :=
  { reference token with definitions := hoist {} name s }

theorem treeRefersTo_reference_iff {token token' : String} :
    (reference token).TreeRefersTo token' ↔ token' = token := by
  constructor
  · rintro ⟨t, _ | ⟨hc, _⟩, href⟩
    · exact (Option.some.inj href).symm
    · cases hc
  · rintro rfl
    exact ⟨_, .self _, rfl⟩

theorem underway_afterFirstPass (hs : s.WellFormed) (hu : Unambiguous entities o name s)
    {token : String} (hname : entityIdentifier token o.definitionsPrefix = name) :
    Underway entities o s (hoist {} name s) (afterFirstPass token name s) := by
  have hstart := start_hoist hu
  have hself := (completes_hoist s {} name (contains_empty name)).2
  refine ⟨Stems.refl hstart.sorted, ?_, ?_⟩
  · intro token' htree
    rw [afterFirstPass, treeRefersTo_definitions_iff, treeRefersTo_reference_iff] at htree
    rw [htree, hname]
    exact Or.inr (Table.contains_of_get? hself)
  · intro token' hrefers
    rw [refersTo_iff]
    rcases refersTo_iff.mp hrefers with htree | ⟨key, q, hmem, hq⟩
    · exact Or.inr ⟨name, s, Table.mem_of_get? hself, htree⟩
    · have hget := hstart.extends_ key _ (hs.definitions_sorted.get?_of_mem hmem)
      exact Or.inr ⟨key, q, Table.mem_of_get? hget, hq⟩

theorem refs_reference (maxDepth : Nat) (token : String) :
    (reference token).refs maxDepth = .ok [token] := rfl

theorem dereference_reference (hsupplies : entities.Supplies name s) {token : String}
    (hname : entityIdentifier token o.definitionsPrefix = name) :
    (reference token).dereference entities o = .ok (afterFirstPass token name s) := by
  subst hname
  refine dereference_ok_iff.mpr ⟨[token], refs_reference _ _, ?_⟩
  exact inlineTokens_cons_ok_iff.mpr (Or.inr ⟨contains_empty _, s, hsupplies, rfl⟩)

/-- After the first pass the other passes are left. -/
theorem dereferenceTransitive_reference (hsupplies : entities.Supplies name s) {token : String}
    (hname : entityIdentifier token o.definitionsPrefix = name) :
    (reference token).dereferenceTransitive entities o =
      (afterFirstPass token name s).dereferencePasses entities o entities.size := by
  have hsize : (afterFirstPass token name s).definitions.size ≠
      (reference token).definitions.size := by
    have hlt := size_lt_hoist s {} name (contains_empty name)
    exact Nat.ne_of_gt hlt
  rw [dereferenceTransitive, dereferencePasses, dereference_reference hsupplies hname]
  exact if_neg hsize

/-- **An entity resolves by itself exactly if a reference to it does.**  Let a registered entity
    have a schema that reads as `s`, and let every name have one meaning in it and in what it
    calls for.  Unless one of the two resolutions exceeds the depth, the document `s` can be
    resolved if and only if the document can that refers to the entity. -/
theorem standalone_resolves_iff (entities : Registry) (o : ResolverOptions) (name : String)
    (s : Schema) (hsupplies : entities.Supplies name s) (hu : Unambiguous entities o name s)
    (hself : ∀ breadcrumb limit,
      s.dereferenceTransitive entities o ≠ .error (.depthLimit breadcrumb limit))
    (hreference : ∀ breadcrumb limit,
      (reference (o.definitionsPrefix ++ name)).dereferenceTransitive entities o ≠
        .error (.depthLimit breadcrumb limit)) :
    (∃ out, s.dereferenceTransitive entities o = .ok out) ↔
      ∃ out, (reference (o.definitionsPrefix ++ name)).dereferenceTransitive entities o =
        .ok out := by
  have hs : s.WellFormed := Supplies.wellFormed hsupplies
  have hname : entityIdentifier (o.definitionsPrefix ++ name) o.definitionsPrefix = name := by
    rw [entityIdentifier, stripPrefix?_eq_some_iff.mpr rfl, Option.getD_some]
  have hrun := dereferenceTransitive_reference hsupplies hname
  have hendReference : ∀ out, (afterFirstPass (o.definitionsPrefix ++ name) name
      s).dereferencePasses entities o entities.size = .ok out →
      out.dereference entities o = .ok out := by
    intro out hout
    exact dereferenceTransitive_fixpoint (hrun.trans hout)
  rw [hrun] at hreference ⊢
  rw [(underway_afterFirstPass hs hu hname).succeeds_iff hsupplies hu (start_hoist hu)
    hendReference hreference]
  exact (underway_self hs).succeeds_iff hsupplies hu (start_self hs)
    (fun _ hout => dereferenceTransitive_fixpoint hout) hself

/-! ## 5. Where the two differ -/

/-- The registry of documents, each under its name. -/
def registryOf (documents : List (String × Schema)) : Registry :=
  .ofEntities (documents.map fun (name, s) => { name, schema := some (Bytes.ofString s.text) })

/-- A document with a reference inside a definition that is nested in a definition. -/
def buriedReference : Schema where
  definitions := ⟨[("Part", .schema
    { definitions := ⟨[("Detail", .schema (.reference "#/definitions/Missing"))]⟩ })]⟩

/-- A document that refers to a definition that is nested in a definition. -/
def buriedTarget : Schema where
  ref := some "#/definitions/Detail"
  definitions := ⟨[("Part", .schema
    { definitions := ⟨[("Detail", .schema (.ofType "string"))]⟩ })]⟩

/-- A document with a definition of its own name. -/
def ownName : Schema where
  definitions := ⟨[("Entity", .schema (.reference "#/definitions/Missing"))]⟩

/-- A document that refers to one entity and, in a definition, to another one. -/
def orderSensitive (direct indirect : String) : Schema where
  properties := ⟨[("direct", .schema (.reference direct))]⟩
  definitions := ⟨[("Detail", .schema (.reference indirect))]⟩

/-- An entity with a definition `Target` of its own. -/
def withTarget (target : Schema) : Schema where
  definitions := ⟨[("Target", .schema target)]⟩

/-- `Target` is registered, and `Other` has another definition of that name. -/
def shadowedTarget : Registry :=
  registryOf [("Entity", orderSensitive "#/definitions/Target" "#/definitions/Other"),
    ("Other", withTarget (.reference "#/definitions/Missing")), ("Target", .ofType "string")]

/-- `Target` is not registered, and `Other` has a definition of that name. -/
def borrowedTarget : Registry :=
  registryOf [("Entity", orderSensitive "#/definitions/Other" "#/definitions/Target"),
    ("Other", withTarget (.ofType "string"))]

/-- **The two resolutions can differ, in either direction.**  Behind a reference, a reference that
    is nested too deep for the walk is met, and so is a definition that is nested as deep, and a
    definition of the entity's own name is passed over.  The definitions of the document come before
    its tree there, which counts where an entity carries a name that is registered as well, or one
    that is not and that the document refers to. -/
theorem standalone_differs :
    ((registryOf [("Entity", buriedReference)]).Supplies "Entity" buriedReference ∧
      (buriedReference.dereferenceTransitive (registryOf [("Entity", buriedReference)]) {}).isOk ∧
      (reference "#/definitions/Entity").dereferenceTransitive
        (registryOf [("Entity", buriedReference)]) {} =
          .error (.unresolvedReference "Missing")) ∧
    ((registryOf [("Entity", buriedTarget)]).Supplies "Entity" buriedTarget ∧
      buriedTarget.dereferenceTransitive (registryOf [("Entity", buriedTarget)]) {} =
        .error (.unresolvedReference "Detail") ∧
      ((reference "#/definitions/Entity").dereferenceTransitive
        (registryOf [("Entity", buriedTarget)]) {}).isOk) ∧
    ((registryOf [("Entity", ownName)]).Supplies "Entity" ownName ∧
      ownName.dereferenceTransitive (registryOf [("Entity", ownName)]) {} =
        .error (.unresolvedReference "Missing") ∧
      ((reference "#/definitions/Entity").dereferenceTransitive
        (registryOf [("Entity", ownName)]) {}).isOk) ∧
    (shadowedTarget.Supplies "Entity"
        (orderSensitive "#/definitions/Target" "#/definitions/Other") ∧
      ((orderSensitive "#/definitions/Target" "#/definitions/Other").dereferenceTransitive
        shadowedTarget {}).isOk ∧
      (reference "#/definitions/Entity").dereferenceTransitive shadowedTarget {} =
        .error (.unresolvedReference "Missing")) ∧
    (borrowedTarget.Supplies "Entity"
        (orderSensitive "#/definitions/Other" "#/definitions/Target") ∧
      ((orderSensitive "#/definitions/Other" "#/definitions/Target").dereferenceTransitive
        borrowedTarget {}).isOk ∧
      (reference "#/definitions/Entity").dereferenceTransitive borrowedTarget {} =
        .error (.unresolvedReference "Target")) := by
  refine ⟨⟨⟨_, _, rfl, rfl, ?_⟩, ?_, ?_⟩, ⟨⟨_, _, rfl, rfl, ?_⟩, ?_, ?_⟩,
    ⟨⟨_, _, rfl, rfl, ?_⟩, ?_, ?_⟩, ⟨⟨_, _, rfl, rfl, ?_⟩, ?_, ?_⟩,
    ⟨⟨_, _, rfl, rfl, ?_⟩, ?_, ?_⟩⟩
  all_goals decide +kernel

/-! ## 6. An entity whose names have one meaning each -/

/-- An entity that refers to a second one and, through its own definition, back to itself. -/
def orderSchema : Schema where
  properties := ⟨[("customer", .schema (.reference "#/definitions/Customer")),
    ("item", .schema (.reference "#/definitions/Item"))]⟩
  definitions := ⟨[("Item", .schema (.reference "#/definitions/Order"))]⟩

/-- An entity with a definition that it refers to. -/
def customerSchema : Schema where
  properties := ⟨[("address", .schema (.reference "#/definitions/Address"))]⟩
  definitions := ⟨[("Address", .schema (.ofType "string"))]⟩

def orderRegistry : Registry :=
  registryOf [("Customer", customerSchema), ("Order", orderSchema)]

theorem orderRegistry_supplies :
    orderRegistry.Supplies "Order" orderSchema ∧
      orderRegistry.Supplies "Customer" customerSchema := by
  refine ⟨⟨_, _, rfl, rfl, ?_⟩, ⟨_, _, rfl, rfl, ?_⟩⟩
  · decide +kernel
  · decide +kernel

theorem orderSchema_nests {key : String} {d : Subschema Schema} (h : orderSchema.Nests key d) :
    orderSchema.definitions.get? key = some d := by
  cases h with
  | direct hmem =>
    cases List.mem_singleton.mp hmem
    rfl
  | within hmem hnests =>
    cases List.mem_singleton.mp hmem
    cases hnests with
    | direct hmem => cases hmem
    | within hmem _ => cases hmem

theorem orderSchema_carries {key : String} {d : Subschema Schema} :
    ¬ Carries orderSchema.definitions orderSchema key d := by
  intro h
  have hfree := h.free
  have hget := orderSchema_nests h.nests
  rw [Table.contains_of_get? hget] at hfree
  cases hfree

theorem customerSchema_carries {key : String} {d : Subschema Schema}
    (h : Carries orderSchema.definitions customerSchema key d) :
    key = "Address" ∧ d = .schema (.ofType "string") := by
  cases h with
  | direct hmem _ =>
    cases List.mem_singleton.mp hmem
    exact ⟨rfl, rfl⟩
  | within hmem _ hcarries =>
    cases List.mem_singleton.mp hmem
    cases hcarries with
    | direct hmem _ => cases hmem
    | within hmem _ _ => cases hmem

theorem orderSchema_refers {token : String} (h : orderSchema.RefersTo token)
    (hfree : orderSchema.definitions.contains (entityIdentifier token definitionsPrefix) = false) :
    entityIdentifier token definitionsPrefix = "Customer" ∨
      entityIdentifier token definitionsPrefix = "Order" := by
  have hrefs : orderSchema.refs defaultMaxDepth =
      .ok ["#/definitions/Customer", "#/definitions/Item", "#/definitions/Order"] := by
    decide +kernel
  have hmem := (mem_refs_iff hrefs).mpr h
  simp only [List.mem_cons, List.not_mem_nil, or_false] at hmem
  rcases hmem with rfl | rfl | rfl
  · exact Or.inl (by decide +kernel)
  · revert hfree
    decide +kernel
  · exact Or.inr (by decide +kernel)

theorem orderSchema_called {key : String} (h : Called orderRegistry {} orderSchema key) :
    key = "Customer" ∨ key = "Order" := by
  induction h with
  | root hrefers hfree => exact orderSchema_refers hrefers hfree
  | @through owner token e q _ he hcomes hq hfree hnone ih =>
    rcases ih with rfl | rfl
    · obtain rfl := he.unique orderRegistry_supplies.2
      cases hcomes with
      | self =>
        have hrefs : customerSchema.refs defaultMaxDepth = .ok ["#/definitions/Address"] := by
          decide +kernel
        have hmem := (mem_refs_iff hrefs).mpr (refersTo_iff.mpr (Or.inl hq))
        cases List.mem_singleton.mp hmem
        have hcarries : Carries orderSchema.definitions customerSchema "Address"
            (.schema (.ofType "string")) := .direct List.mem_cons_self (by decide +kernel)
        have hname : entityIdentifier "#/definitions/Address" definitionsPrefix = "Address" := by
          decide +kernel
        exact absurd (hname ▸ hcarries) (hnone _)
      | carried hcarries =>
        obtain ⟨_, hd⟩ := customerSchema_carries hcarries
        cases hd
        have hrefs : (ofType "string").refs defaultMaxDepth = .ok [] := by decide +kernel
        cases (mem_refs_iff hrefs).mpr (refersTo_iff.mpr (Or.inl hq))
    · obtain rfl := he.unique orderRegistry_supplies.1
      cases hcomes with
      | self => exact orderSchema_refers (refersTo_iff.mpr (Or.inl hq)) hfree
      | carried hcarries => exact absurd hcarries orderSchema_carries

/-- What comes with the entities called for. -/
def orderOffers : Definitions :=
  ⟨[("Address", .schema (.ofType "string")), ("Customer", .schema customerSchema),
    ("Order", .schema orderSchema)]⟩

theorem orderSchema_offered {key : String} {d : Subschema Schema}
    (h : Offered orderRegistry {} orderSchema key d) : orderOffers.get? key = some d := by
  obtain ⟨owner, e, hcalled, he, hcame⟩ := h
  rcases orderSchema_called hcalled with rfl | rfl
  · obtain rfl := he.unique orderRegistry_supplies.2
    rcases hcame with ⟨rfl, rfl⟩ | hcarries
    · rfl
    · obtain ⟨rfl, rfl⟩ := customerSchema_carries hcarries
      rfl
  · obtain rfl := he.unique orderRegistry_supplies.1
    rcases hcame with ⟨rfl, rfl⟩ | hcarries
    · rfl
    · exact absurd hcarries orderSchema_carries

theorem orderSchema_unambiguous : Unambiguous orderRegistry {} "Order" orderSchema where
  name_free := by decide
  own _ _ hnests _ := orderSchema_nests hnests
  idle := by
    intro key d hnests hkey
    exact absurd (Table.mem_keys_iff.mpr (Table.contains_of_get? (orderSchema_nests hnests))) hkey
  unique := by
    intro key d d' h h'
    exact Option.some.inj ((orderSchema_offered h).symm.trans (orderSchema_offered h'))
  self := by
    intro d h
    have horder : orderOffers.get? "Order" = some (.schema orderSchema) := rfl
    exact Option.some.inj ((orderSchema_offered h).symm.trans horder)
  registered := by
    intro key d hcalled _
    rcases orderSchema_called hcalled with rfl | rfl
    · exact ⟨_, orderRegistry_supplies.2⟩
    · exact ⟨_, orderRegistry_supplies.1⟩

/-- An entity that resolves both by itself and through a reference. -/
theorem orderSchema_resolves_iff :
    orderRegistry.Supplies "Order" orderSchema ∧
    Unambiguous orderRegistry {} "Order" orderSchema ∧
    (orderSchema.dereferenceTransitive orderRegistry {}).isOk ∧
    ((∃ out, orderSchema.dereferenceTransitive orderRegistry {} = .ok out) ↔
      ∃ out, (reference (definitionsPrefix ++ "Order")).dereferenceTransitive orderRegistry {} =
        .ok out) := by
  have hself : (orderSchema.dereferenceTransitive orderRegistry {}).isOk := by decide +kernel
  have hreference : ((reference (definitionsPrefix ++ "Order")).dereferenceTransitive
      orderRegistry {}).isOk := by decide +kernel
  have hdepth {x : Outcome Schema} (h : x.isOk) (breadcrumb : String) (limit : Nat) :
      x ≠ .error (.depthLimit breadcrumb limit) := by
    rintro rfl
    cases h
  exact ⟨orderRegistry_supplies.1, orderSchema_unambiguous, hself,
    standalone_resolves_iff orderRegistry {} "Order" orderSchema orderRegistry_supplies.1
      orderSchema_unambiguous (hdepth hself) (hdepth hreference)⟩

end SchemaCatalog.Schema
