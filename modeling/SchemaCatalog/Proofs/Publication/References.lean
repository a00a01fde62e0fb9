/-
  Published references
  ====================
  **What the references of a published document refer to.**

  The document collects the schemas of all entities and the schemas among their
  definitions, each under its own name, and every reference in it carries the
  name of a reference that one of the entities makes.  The reference graph has
  followed these references before, so that a graph without dangling
  references promises that their names are there.

  The graph and the document do not agree on everything, and each
  disagreement is a `Gap`.  The entity for the empty object is registered, but
  is not published; a flag answers a reference inside its own document, but is
  not collected; the graph reads a token without a prefix whole, while
  publishing reads what stands after its last slash; and the graph does not
  look at references that are buried in definitions inside definitions.
  Outside the gaps every published reference has its target
  (`components_references`), and each of them can be hit
  (`components_dangle`).
-/
import SchemaCatalog.Proofs.Collector.Presence
import SchemaCatalog.Proofs.Publication.Retargeting
import SchemaCatalog.Proofs.ReferenceGraph

namespace SchemaCatalog

/-! ## 1. What is published -/

namespace Registry

/-- The published schemas of entities, each with its name; the entity for the empty object and
    entities that have no published schema are left out. -/
def publishedOf (o : PublishOptions) (l : List Entity) : List (String × Schema) :=
  l.filterMap fun e =>
    if e.name = Entity.nilName then none else (e.publish o).toOption.map (e.name, ·)

variable {o : PublishOptions} {l : List Entity}

theorem mem_publishedOf_iff {p : String × Schema} :
    p ∈ publishedOf o l ↔ ∃ e ∈ l, e.name ≠ Entity.nilName ∧ e.name = p.1 ∧ e.publish o = .ok p.2 := by
  obtain ⟨name, s⟩ := p
  unfold publishedOf
  simp only [List.mem_filterMap]
  constructor
  · rintro ⟨e, he, h⟩
    by_cases hnil : e.name = Entity.nilName
    · simp [hnil] at h
    · rw [if_neg hnil] at h
      cases hpublish : e.publish o with
      | error err => simp [hpublish, Except.toOption] at h
      | ok out =>
        simp [hpublish, Except.toOption] at h
        obtain ⟨rfl, rfl⟩ := h
        exact ⟨e, he, hnil, rfl, hpublish⟩
  · rintro ⟨e, he, hnil, rfl, hpublish⟩
    refine ⟨e, he, ?_⟩
    rw [if_neg hnil, hpublish]
    rfl

theorem publishedOf_cons_of_skipped {e : Entity} (h : e.name = Entity.nilName ∨ ¬ e.hasSchema) :
    publishedOf o (e :: l) = publishedOf o l := by
  unfold publishedOf
  rw [List.filterMap_cons]
  by_cases hnil : e.name = Entity.nilName
  · rw [if_pos hnil]
  · have hschema : e.schema = none := by
      have := h.resolve_left hnil
      simpa [Entity.hasSchema] using this
    rw [if_neg hnil]
    simp [Entity.publish, Entity.readSchema, hschema, bind, Except.bind, Except.toOption]

theorem publishedOf_cons_of_publish {e : Entity} {s : Schema} (hnil : e.name ≠ Entity.nilName)
    (h : e.publish o = .ok s) : publishedOf o (e :: l) = (e.name, s) :: publishedOf o l := by
  unfold publishedOf
  rw [List.filterMap_cons, if_neg hnil, h]
  rfl

/-- **Collecting the entities is adding their published schemas one after the other.**  When it
    succeeds, every entity with a schema has been published, except for the empty object. -/
theorem collectPublished_ok {c c' : Collector} (h : collectPublished o c l = .ok c') :
    c.Succeeds (publishedOf o l) ∧ c' = (c.addEach (publishedOf o l)).1 ∧
      ∀ e ∈ l, e.name ≠ Entity.nilName → e.hasSchema = true →
        ∃ s, (e.name, s) ∈ publishedOf o l := by
  induction l generalizing c with
  | nil =>
    cases h
    exact ⟨fun _ h => absurd h List.not_mem_nil, rfl, fun _ h => absurd h List.not_mem_nil⟩
  | cons e rest ih =>
    unfold collectPublished at h
    by_cases hskipped : e.name = Entity.nilName ∨ ¬ e.hasSchema
    · rw [if_pos hskipped] at h
      obtain ⟨hsucceeds, hrun, hall⟩ := ih h
      rw [publishedOf_cons_of_skipped hskipped]
      refine ⟨hsucceeds, hrun, ?_⟩
      intro e' he' hnil hschema
      rcases List.mem_cons.mp he' with rfl | he'
      · exact absurd hskipped (not_or.mpr ⟨hnil, not_not_intro hschema⟩)
      · exact hall e' he' hnil hschema
    · rw [if_neg hskipped] at h
      obtain ⟨s, hpublish, h⟩ := bind_ok_iff.mp h
      rw [publishedOf_cons_of_publish (not_or.mp hskipped).1 hpublish]
      rcases hadd : c.add e.name s with ⟨c₁, err | ⟨⟩⟩
      · rw [hadd] at h
        cases h
      · rw [hadd] at h
        obtain ⟨hsucceeds, hrun, hall⟩ := ih h
        refine ⟨?_, ?_, ?_⟩
        · apply Collector.succeeds_cons_iff.mpr
          simp only [hadd]
          exact ⟨trivial, hsucceeds⟩
        · rw [Collector.addEach_cons]
          simp only [hadd]
          exact hrun
        · intro e' he' hnil hschema
          rcases List.mem_cons.mp he' with rfl | he'
          · exact ⟨s, List.mem_cons_self⟩
          · obtain ⟨s', hs'⟩ := hall e' he' hnil hschema
            exact ⟨s', List.mem_cons_of_mem _ hs'⟩

end Registry

/-! ## 2. Where published references come from -/

/-- The name that a reference keeps when it is published. -/
def publishedName (token : String) : String :=
  refIdentifier token [definitionsPrefix, componentsPrefix]

namespace Schema

/-- The document makes a reference: in its tree, or in that of a definition at any depth. -/
def Mentions (s : Schema) (token : String) : Prop :=
  s.TreeRefersTo token ∨ ∃ name d, s.Nests name (.schema d) ∧ d.TreeRefersTo token

theorem nests_of_mem_contributionsOf {s : Schema} :
    ∀ p ∈ Collector.contributionsOf s.definitions.entries, s.Nests p.1 (.schema p.2) := by
  induction s using Schema.inductionOnDefinitions with
  | step s ih =>
    intro p hp
    obtain ⟨key, d, hd, hp⟩ := Collector.mem_contributionsOf_iff.mp hp
    rw [Collector.contributions_eq] at hp
    rcases List.mem_cons.mp hp with rfl | hp
    · exact .direct hd
    · exact .within hd (ih key d hd p hp)

theorem mem_contributionsOf_of_nests {s : Schema} {name : String} {place : Subschema Schema}
    (h : s.Nests name place) : ∀ d, place = .schema d →
      (name, d) ∈ Collector.contributionsOf s.definitions.entries := by
  induction h with
  | direct hd =>
    rintro d rfl
    exact Collector.mem_contributionsOf_iff.mpr ⟨_, d, hd, Collector.self_mem_contributions _ d⟩
  | within he _ ih =>
    rintro d rfl
    apply Collector.mem_contributionsOf_iff.mpr
    refine ⟨_, _, he, ?_⟩
    rw [Collector.contributions_eq]
    exact List.mem_cons_of_mem _ (ih d rfl)

end Schema

section

variable {e : Entity} {out : Schema}

/-- A published schema and the document that it was published from. -/
structure Entity.PublishedFrom (e : Entity) (out document : Schema) : Prop where
  reads : e.readSchema = .ok document
  /-- Each contribution of the one makes the references of the other, retargeted. -/
  mentions : ∀ p ∈ Collector.contributions e.name out, ∀ token, p.2.TreeRefersTo token →
    ∃ original, document.Mentions original ∧ token = componentsPrefix ++ publishedName original
  defines : ∀ name d, document.definitions.get? name = some (.schema d) →
    ∃ d', (name, .schema d') ∈ out.definitions.entries
  nests : ∀ name d, document.Nests name (.schema d) →
    ∃ d', (name, d') ∈ Collector.contributions e.name out

theorem Entity.publishedFrom_of_publish (h : e.publish {} = .ok out) :
    ∃ document, e.PublishedFrom out document := by
  obtain ⟨s, sample, hread, _, rfl⟩ := Entity.publish_ok diverge_definitions_components h
  refine ⟨s, hread, ?_, ?_, ?_⟩
  · intro p hp token htoken
    rw [Collector.contributions_mapNested] at hp
    obtain ⟨⟨name, q⟩, hq, rfl⟩ := List.mem_map.mp hp
    obtain ⟨original, horiginal, rfl⟩ := (Schema.treeRefersTo_mapNested_iff _).mp htoken
    refine ⟨original, ?_, rfl⟩
    rw [Collector.contributions_eq, Schema.definitions_withSample] at hq
    rcases List.mem_cons.mp hq with heq | hq
    · cases heq
      exact Or.inl (Schema.treeRefersTo_withSample_iff.mp horiginal)
    · exact Or.inr ⟨name, q, Schema.nests_of_mem_contributionsOf _ hq, horiginal⟩
  · intro name d hd
    rw [Schema.definitions_mapNested, Schema.definitions_withSample]
    exact ⟨_, List.mem_map.mpr ⟨(name, .schema d), Table.mem_of_get? hd, rfl⟩⟩
  · intro name d hd
    rw [Collector.contributions_mapNested, Collector.contributions_eq, Schema.definitions_withSample]
    refine ⟨_, List.mem_map.mpr ⟨(name, d), List.mem_cons_of_mem _ ?_, rfl⟩⟩
    exact Schema.mem_contributionsOf_of_nests hd d rfl

end

/-! ## 3. Where targets are missing -/

/-- A name stands neither for a registered entity nor for a definition of the document; nor for
    one further down, if checksums tell the published schemas apart. -/
structure Unknown (r : Registry) (document : Schema) (name : String) : Prop where
  unregistered : r.contains name = false
  undefined : ∀ d, document.definitions.get? name ≠ some (.schema d)
  unnested : Collector.Faithful (Collector.allContributions (Registry.publishedOf {} r.values)) →
    ∀ d, ¬ document.Nests name (.schema d)

/-- Why the target of a published reference may be missing. -/
inductive Gap (r : Registry) (document : Schema) (token : String) : Prop where
  /-- The entity for the empty object is not published. -/
  | nil : publishedName token = Entity.nilName → Gap r document token
  /-- The document answers the reference by a flag. -/
  | flag (b : Bool) : document.definitions.get? (publishedName token) = some (.flag b) →
      Unknown r document (publishedName token) → Gap r document token
  /-- The graph reads another name than publishing does. -/
  | reading : entityIdentifier token definitionsPrefix ≠ publishedName token →
      Unknown r document (publishedName token) → Gap r document token
  /-- The reference stands only in definitions inside definitions. -/
  | buried : ¬ document.RefersTo token → Unknown r document (publishedName token) →
      Gap r document token

theorem Gap.of_unknown {r : Registry} {document : Schema} {owner token : String}
    (hv : ReferenceGraph.Vouches {} r) (hsupplies : r.Supplies owner document)
    (hunknown : Unknown r document (publishedName token)) : Gap r document token := by
  by_cases hrefers : document.RefersTo token
  · by_cases hreading : entityIdentifier token definitionsPrefix = publishedName token
    · rcases hv.answers owner document token hsupplies hrefers with hown | hregistered
      · obtain ⟨place, hplace⟩ := Table.contains_iff.mp hown
        rw [hreading] at hplace
        rcases place with b | d
        · exact .flag b hplace hunknown
        · exact absurd hplace (hunknown.undefined d)
      · rw [hreading, hunknown.unregistered] at hregistered
        cases hregistered
    · exact .reading hreading hunknown
  · exact .buried hrefers hunknown

/-! ## 4. Published documents -/

/-- A name that has not been collected is unknown, unless it is that of the empty object. -/
theorem unknown_of_not_has {r : Registry} {c : Collector} {e : Entity} {out document : Schema}
    (hr : r.Indexed) (hschema : ∀ e ∈ r.values, e.hasSchema = true)
    (hc : Registry.collectPublished {} {} r.values = .ok c)
    (hout : (e.name, out) ∈ Registry.publishedOf {} r.values) (hfrom : e.PublishedFrom out document)
    (hpresent : ∀ name d, (name, .schema d) ∈ out.definitions.entries → c.Has name)
    {name : String} (hnil : name ≠ Entity.nilName) (hname : ¬ c.Has name) :
    Unknown r document name := by
  obtain ⟨hsucceeds, hrun, hall⟩ := Registry.collectPublished_ok hc
  refine ⟨?_, ?_, ?_⟩
  · rw [← Table.get?_eq_none_iff, Option.eq_none_iff_forall_ne_some]
    intro e' he'
    obtain rfl := hr.name_of_get? he'
    have hmem : e' ∈ r.values := List.mem_map.mpr ⟨_, Table.mem_of_get? he', rfl⟩
    obtain ⟨s, hs⟩ := hall e' hmem hnil (hschema e' hmem)
    apply hname
    rw [hrun]
    exact (Collector.gathered_of_succeeds hsucceeds).present (e'.name, s) hs
  · intro d hd
    obtain ⟨d', hd'⟩ := hfrom.defines name d hd
    exact hname (hpresent name d' hd')
  · intro hfaithful d hd
    obtain ⟨d', hd'⟩ := hfrom.nests name d hd
    apply hname
    rw [hrun]
    exact Collector.has_of_faithful hfaithful hsucceeds (name, d')
      (List.mem_flatMap.mpr ⟨_, hout, hd'⟩)

/-- **Published references have their targets, except for the gaps.**  If every entity has a schema
    and the reference graph has no dangling references, every reference of the published
    document is one that the document of some entity makes, retargeted; and the name it
    carries is a name of the published document, or falls into a gap. -/
theorem Registry.components_references {l : List Entity} {g : ReferenceGraph} {table : Table Schema}
    (hschema : ∀ e ∈ (ofEntities l).values, e.hasSchema = true)
    (hgraph : ReferenceGraph.ofRegistry {} (ofEntities l) = .ok g) (hdangling : g.dangling = [])
    (htable : (ofEntities l).components {} none = .ok table) :
    ∀ name s, (name, s) ∈ table.entries → ∀ token, s.RefersTo token →
      ∃ e ∈ (ofEntities l).values, ∃ document original, e.readSchema = .ok document ∧
        document.Mentions original ∧ token = componentsPrefix ++ publishedName original ∧
        (publishedName original ∈ table.keys ∨ Gap (ofEntities l) document original) := by
  intro name s hs token htoken
  have hr : (ofEntities l).Indexed := indexed_ofEntities l
  have hv := ReferenceGraph.vouches_of_ofRegistry hr hgraph hdangling
  obtain ⟨c, hc, rfl⟩ := return_ok htable
  obtain ⟨hsucceeds, hrun, _⟩ := collectPublished_ok hc
  have hgathered := Collector.gathered_of_succeeds hsucceeds
  rw [← hrun] at hgathered
  -- the entry was contributed by a published schema, and its references are in its tree
  obtain ⟨key, entry, hentry, rfl, rfl⟩ := Collector.mem_entries_finalize hgathered.sorted hs
  obtain ⟨⟨owner, out⟩, hout, hcontributed, hpresent⟩ := hgathered.origin key entry hentry
  obtain ⟨e, he, _, rfl, hpublish⟩ := mem_publishedOf_iff.mp hout
  have htree : entry.schema.TreeRefersTo token := by
    rcases Schema.refersTo_iff.mp htoken with htree | ⟨_, _, hnone, _⟩
    · exact Schema.treeRefersTo_definitions_iff.mp htree
    · cases hnone
  obtain ⟨document, hfrom⟩ := Entity.publishedFrom_of_publish hpublish
  obtain ⟨original, hmentions, rfl⟩ := hfrom.mentions _ hcontributed token htree
  refine ⟨e, he, document, original, hfrom.reads, hmentions, rfl, ?_⟩
  by_cases hhas : c.Has (publishedName original)
  · exact Or.inl (Collector.mem_keys_finalize true hhas)
  · right
    by_cases hnil : publishedName original = Entity.nilName
    · exact .nil hnil
    · have hsupplies := (hr.supplies_iff (hr.get?_of_mem_values he)).mpr hfrom.reads
      exact .of_unknown hv hsupplies
        (unknown_of_not_has hr hschema hc hout hfrom hpresent hnil hhas)

/-! ## 5. Documents with and without gaps -/

namespace Registry

/-- The graph has nothing to say against the entities, and yet their published document has a
    reference to a name that it does not have. -/
structure Dangles (l : List Entity) (table : Table Schema) (name token : String) : Prop where
  schemas : ∀ e ∈ (ofEntities l).values, e.hasSchema = true
  graph : ∃ g, ReferenceGraph.ofRegistry {} (ofEntities l) = .ok g ∧ g.dangling = []
  published : (ofEntities l).components {} none = .ok table
  refers : ∃ s, table.get? name = some s ∧ s.RefersTo token
  missing : ∀ target ∈ table.keys, token ≠ componentsPrefix ++ target

/-- **Each gap leaves a reference without a target**: to the empty object, to a flag, to what stands
    after the last slash of a name, and from a definition inside a definition. -/
theorem components_dangle :
    Dangles [.nil, entityOf "Reply" (.reference "#/definitions/NilEntity")]
      ⟨[("Reply", .reference "#/components/schemas/NilEntity")]⟩
      "Reply" "#/components/schemas/NilEntity" ∧
    Dangles [entityOf "Reply"
        { Schema.reference "#/definitions/Any" with definitions := ⟨[("Any", .flag true)]⟩ }]
      ⟨[("Reply", .reference "#/components/schemas/Any")]⟩ "Reply" "#/components/schemas/Any" ∧
    Dangles [entityOf "Reply" (.reference "types/Text"), entityOf "types/Text" (.ofType "string")]
      ⟨[("Reply", .reference "#/components/schemas/Text"), ("types/Text", .ofType "string")]⟩
      "Reply" "#/components/schemas/Text" ∧
    Dangles [entityOf "Reply" { definitions := ⟨[("Body", .schema { definitions :=
        ⟨[("Part", .schema (.reference "#/definitions/Missing"))]⟩ })]⟩ }]
      ⟨[("Body", {}), ("Part", .reference "#/components/schemas/Missing"), ("Reply", {})]⟩
      "Part" "#/components/schemas/Missing" := by
  refine ⟨?_, ?_, ?_, ?_⟩
  · refine ⟨by decide +kernel, ⟨⟨⟨[("NilEntity", []), ("Reply", ["NilEntity"])]⟩, []⟩, ?_, rfl⟩,
      by decide +kernel, ⟨_, rfl, _, .inl (.self _), rfl⟩, by decide +kernel⟩
    decide +kernel
  · refine ⟨by decide +kernel, ⟨⟨⟨[("Reply", [])]⟩, []⟩, ?_, rfl⟩,
      by decide +kernel, ⟨_, rfl, _, .inl (.self _), rfl⟩, by decide +kernel⟩
    decide +kernel
  · refine ⟨by decide +kernel, ⟨⟨⟨[("Reply", ["types/Text"]), ("types/Text", [])]⟩, []⟩, ?_, rfl⟩,
      by decide +kernel, ⟨_, rfl, _, .inl (.self _), rfl⟩, by decide +kernel⟩
    decide +kernel
  · refine ⟨by decide +kernel, ⟨⟨⟨[("Reply", [])]⟩, []⟩, ?_, rfl⟩,
      by decide +kernel, ⟨_, rfl, _, .inl (.self _), rfl⟩, by decide +kernel⟩
    decide +kernel

/-- An order with an item of its own, and a customer who has orders. -/
def shopEntities : List Entity :=
  [entityOf "Customer" { items := some (.each (.schema (.reference "#/definitions/Order"))) },
    entityOf "Order" { Schema.reference "#/definitions/Item" with
      definitions := ⟨[("Item", .schema (.ofType "string"))]⟩ }]

def shopTable : Table Schema :=
  ⟨[("Customer", { items := some (.each (.schema (.reference "#/components/schemas/Order"))) }),
    ("Item", .ofType "string"), ("Order", .reference "#/components/schemas/Item")]⟩

/-- The references of orders and customers have their targets. -/
theorem shopEntities_references :
    (ofEntities shopEntities).components {} none = .ok shopTable ∧
    ∀ name s, (name, s) ∈ shopTable.entries → ∀ token, s.RefersTo token →
      ∃ e ∈ (ofEntities shopEntities).values, ∃ document original,
        e.readSchema = .ok document ∧ document.Mentions original ∧
        token = componentsPrefix ++ publishedName original ∧
        (publishedName original ∈ shopTable.keys ∨
          Gap (ofEntities shopEntities) document original) := by
  have hschema : ∀ e ∈ (ofEntities shopEntities).values, e.hasSchema = true := by decide +kernel
  have hgraph : ReferenceGraph.ofRegistry {} (ofEntities shopEntities) =
      .ok ⟨⟨[("Customer", ["Order"]), ("Order", [])]⟩, []⟩ := by
    decide +kernel
  have htable : (ofEntities shopEntities).components {} none = .ok shopTable := by decide +kernel
  exact ⟨htable, components_references hschema hgraph rfl htable⟩

end Registry

end SchemaCatalog
