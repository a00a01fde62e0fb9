/-
  Shadowed entities
  =================
  **When a reference gets the entity registered under its name.**

  A pass treats the references of a document in order, and a reference whose
  name is taken is passed over.  A name that the document does not define can
  still be taken by then: an entity that an earlier reference named may have
  brought a definition of that name with it.  Such a definition `Shadowed` the
  registered entity, and the reference gets the definition instead.

  `dereference_resolves_iff` says that this is the only way in which a reference
  misses the entity of its name.  `shadowed_entity_missed` is a document
  where it happens, and where the outcome turns on the order of two
  references.
-/
import SchemaCatalog.Proofs.Resolution.Passes

namespace SchemaCatalog.Schema

variable {entities : Registry} {o : ResolverOptions}

/-! ## 1. A pass in two parts -/

theorem inlineTokens_append_ok_iff {s out : Schema} {before rest : List String} :
    inlineTokens entities o s (before ++ rest) = .ok out ↔
      ∃ mid, inlineTokens entities o s before = .ok mid ∧
        inlineTokens entities o mid rest = .ok out := by
  induction before generalizing s with
  | nil =>
    constructor
    · intro h
      exact ⟨s, rfl, h⟩
    · rintro ⟨mid, hmid, h⟩
      cases hmid
      exact h
  | cons token before ih =>
    rw [List.cons_append, inlineTokens_cons_ok_iff]
    constructor
    · rintro (⟨htaken, h⟩ | ⟨hfree, e, hsupplies, h⟩)
      · obtain ⟨mid, hmid, h⟩ := ih.mp h
        exact ⟨mid, inlineTokens_cons_ok_iff.mpr (Or.inl ⟨htaken, hmid⟩), h⟩
      · obtain ⟨mid, hmid, h⟩ := ih.mp h
        exact ⟨mid, inlineTokens_cons_ok_iff.mpr (Or.inr ⟨hfree, e, hsupplies, hmid⟩), h⟩
    · rintro ⟨mid, hmid, h⟩
      rcases inlineTokens_cons_ok_iff.mp hmid with ⟨htaken, hmid⟩ | ⟨hfree, e, hsupplies, hmid⟩
      · exact Or.inl ⟨htaken, ih.mpr ⟨mid, hmid, h⟩⟩
      · exact Or.inr ⟨hfree, e, hsupplies, ih.mpr ⟨mid, hmid, h⟩⟩

/-- An entry that tokens brought is an entity that one of them named, or nested in such an
    entity. -/
theorem inlineTokens_origin {s out : Schema} {tokens : List String}
    (h : inlineTokens entities o s tokens = .ok out) {key : String} {d : Subschema Schema}
    (hget : out.definitions.get? key = some d) :
    s.definitions.get? key = some d ∨
      ∃ token ∈ tokens, ∃ e, entities.Supplies (entityIdentifier token o.definitionsPrefix) e ∧
        ((key = entityIdentifier token o.definitionsPrefix ∧ d = .schema e) ∨ e.Nests key d) := by
  induction tokens generalizing s with
  | nil =>
    cases h
    exact Or.inl hget
  | cons token rest ih =>
    rcases inlineTokens_cons_ok_iff.mp h with ⟨_, hrest⟩ | ⟨_, e, hsupplies, hrest⟩
    · rcases ih hrest with hold | ⟨t, ht, horigin⟩
      · exact Or.inl hold
      · exact Or.inr ⟨t, List.mem_cons_of_mem _ ht, horigin⟩
    · rcases ih hrest with hold | ⟨t, ht, horigin⟩
      · rcases hoist_origin e _ _ key d hold with hold | hself | hnests
        · exact Or.inl hold
        · exact Or.inr ⟨token, List.mem_cons_self, e, hsupplies, Or.inl hself⟩
        · exact Or.inr ⟨token, List.mem_cons_self, e, hsupplies, Or.inr hnests⟩
      · exact Or.inr ⟨t, List.mem_cons_of_mem _ ht, horigin⟩

/-! ## 2. Shadowing -/

/-- When the first token that names `name` is reached, the definition `d` stands under `name`
    already. -/
def Shadowed (entities : Registry) (o : ResolverOptions) (s : Schema) (tokens : List String)
    (name : String) (d : Subschema Schema) : Prop :=
  ∃ before token after mid, tokens = before ++ token :: after ∧
    entityIdentifier token o.definitionsPrefix = name ∧
    (∀ t ∈ before, entityIdentifier t o.definitionsPrefix ≠ name) ∧
    inlineTokens entities o s before = .ok mid ∧ mid.definitions.get? name = some d

/-- A token that names `name` has a first one of its kind, with the tokens before it. -/
theorem exists_first_token {tokens : List String} {name : String}
    (h : ∃ token ∈ tokens, entityIdentifier token o.definitionsPrefix = name) :
    ∃ before token after, tokens = before ++ token :: after ∧
      entityIdentifier token o.definitionsPrefix = name ∧
      ∀ t ∈ before, entityIdentifier t o.definitionsPrefix ≠ name := by
  induction tokens with
  | nil =>
    obtain ⟨token, htoken, _⟩ := h
    cases htoken
  | cons first rest ih =>
    by_cases hfirst : entityIdentifier first o.definitionsPrefix = name
    · exact ⟨[], first, rest, rfl, hfirst, by simp⟩
    · have hrest : ∃ token ∈ rest, entityIdentifier token o.definitionsPrefix = name := by
        obtain ⟨token, htoken, hname⟩ := h
        rcases List.mem_cons.mp htoken with rfl | htoken
        · exact absurd hname hfirst
        · exact ⟨token, htoken, hname⟩
      obtain ⟨before, token, after, hsplit, hname, hbefore⟩ := ih hrest
      refine ⟨first :: before, token, after, by rw [hsplit, List.cons_append], hname, ?_⟩
      intro t ht
      rcases List.mem_cons.mp ht with rfl | ht
      · exact hfirst
      · exact hbefore t ht

/-- What shadows a name the document does not define is nested in an entity that another token
    names. -/
theorem Shadowed.origin {s : Schema} {tokens : List String} {name : String}
    {d : Subschema Schema} (h : Shadowed entities o s tokens name d)
    (hfree : s.definitions.contains name = false) :
    ∃ token ∈ tokens, ∃ e, entityIdentifier token o.definitionsPrefix ≠ name ∧
      entities.Supplies (entityIdentifier token o.definitionsPrefix) e ∧ e.Nests name d := by
  obtain ⟨before, token, after, mid, rfl, _, hbefore, hmid, hget⟩ := h
  rcases inlineTokens_origin hmid hget with hold | ⟨t, ht, e, hsupplies, hself | hnests⟩
  · rw [Table.contains_of_get? hold] at hfree
    exact absurd hfree (by decide)
  · exact absurd hself.1.symm (hbefore t ht)
  · exact ⟨t, List.mem_append_left _ ht, e, hbefore t ht, hsupplies, hnests⟩

/-- **The first token of a name decides.**  What stands under the name when it is reached stays;
    if nothing does, the registered entity comes there. -/
theorem inlineTokens_at_first {s out : Schema} {before after : List String} {token : String}
    (h : inlineTokens entities o s (before ++ token :: after) = .ok out) :
    ∃ mid, inlineTokens entities o s before = .ok mid ∧
      ((∃ d, mid.definitions.get? (entityIdentifier token o.definitionsPrefix) = some d ∧
          out.definitions.get? (entityIdentifier token o.definitionsPrefix) = some d) ∨
        (mid.definitions.get? (entityIdentifier token o.definitionsPrefix) = none ∧
          ∃ e, entities.Supplies (entityIdentifier token o.definitionsPrefix) e ∧
            out.definitions.get? (entityIdentifier token o.definitionsPrefix) =
              some (.schema e))) := by
  obtain ⟨mid, hmid, h⟩ := inlineTokens_append_ok_iff.mp h
  refine ⟨mid, hmid, ?_⟩
  rcases inlineTokens_cons_ok_iff.mp h with ⟨htaken, _⟩ | ⟨hfree, e, hsupplies, hrest⟩
  · obtain ⟨d, hd⟩ := Table.contains_iff.mp htaken
    exact Or.inl ⟨d, hd, (inlineTokens_ok h).1.completes.extends_ _ d hd⟩
  · refine Or.inr ⟨Table.get?_eq_none_iff.mpr hfree, e, hsupplies, ?_⟩
    exact (inlineTokens_ok hrest).1.completes.extends_ _ _ (completes_hoist e _ _ hfree).2

/-- **A reference gets the registered entity unless another one shadows it.**  Let a token name
    what the document does not define.  After a pass the registered entity stands under that name
    exactly if no other definition shadowed it; a definition that did stands there instead, and
    is nested in an entity that another token names.  So the registered entity is found whenever
    no other entity referred to has a definition of that name inside. -/
theorem dereference_resolves_iff (entities : Registry) (o : ResolverOptions) (s out : Schema)
    (tokens : List String) (token name : String) (hrefs : s.refs o.maxDepth = .ok tokens)
    (htoken : token ∈ tokens) (hname : entityIdentifier token o.definitionsPrefix = name)
    (hfree : name ∉ s.definitions.keys) (h : s.dereference entities o = .ok out) :
    ((∃ e, entities.Supplies name e ∧ out.definitions.get? name = some (.schema e)) ↔
      ∀ d, Shadowed entities o s tokens name d → ∃ e, entities.Supplies name e ∧ d = .schema e) ∧
    (∀ d, Shadowed entities o s tokens name d → out.definitions.get? name = some d ∧
      ∃ other ∈ tokens, ∃ e, entityIdentifier other o.definitionsPrefix ≠ name ∧
        entities.Supplies (entityIdentifier other o.definitionsPrefix) e ∧ e.Nests name d) ∧
    ((∀ other ∈ tokens, ∀ e d, entityIdentifier other o.definitionsPrefix ≠ name →
        entities.Supplies (entityIdentifier other o.definitionsPrefix) e → ¬ e.Nests name d) →
      ∃ e, entities.Supplies name e ∧ out.definitions.get? name = some (.schema e)) := by
  obtain ⟨tokens', hrefs', hinline⟩ := dereference_ok_iff.mp h
  obtain rfl : tokens = tokens' := Except.ok.inj (hrefs.symm.trans hrefs')
  have hfree' : s.definitions.contains name = false := by
    rw [← Bool.not_eq_true]
    exact fun hcontains => hfree (Table.mem_keys_iff.mpr hcontains)
  -- whatever shadows the name is there in the result
  have hstays : ∀ d, Shadowed entities o s tokens name d →
      out.definitions.get? name = some d := by
    rintro d ⟨before, first, after, mid, rfl, _, _, hmid, hget⟩
    obtain ⟨mid', hmid', hrest⟩ := inlineTokens_append_ok_iff.mp hinline
    obtain rfl : mid = mid' := Except.ok.inj (hmid.symm.trans hmid')
    exact (inlineTokens_ok hrest).1.completes.extends_ _ d hget
  -- the first token of the name finds it taken, or the registered entity comes there
  have hfirst : (∃ d, Shadowed entities o s tokens name d) ∨
      ∃ e, entities.Supplies name e ∧ out.definitions.get? name = some (.schema e) := by
    obtain ⟨before, first, after, hsplit, hfirst, hbefore⟩ :=
      exists_first_token ⟨token, htoken, hname⟩
    rw [hsplit] at hinline
    obtain ⟨mid, hmid, ⟨d, hget, _⟩ | ⟨_, e, hsupplies, hout⟩⟩ := inlineTokens_at_first hinline
    · rw [hfirst] at hget
      exact Or.inl ⟨d, before, first, after, mid, hsplit, hfirst, hbefore, hmid, hget⟩
    · rw [hfirst] at hsupplies hout
      exact Or.inr ⟨e, hsupplies, hout⟩
  refine ⟨⟨?_, ?_⟩, fun d hd => ⟨hstays d hd, hd.origin hfree'⟩, ?_⟩
  · rintro ⟨e, hsupplies, hout⟩ d hd
    exact ⟨e, hsupplies, Option.some.inj ((hstays d hd).symm.trans hout)⟩
  · intro hshadow
    rcases hfirst with ⟨d, hd⟩ | hresolved
    · obtain ⟨e, hsupplies, rfl⟩ := hshadow d hd
      exact ⟨e, hsupplies, hstays _ hd⟩
    · exact hresolved
  · intro hnone
    rcases hfirst with ⟨d, hd⟩ | hresolved
    · obtain ⟨other, hother, e, hne, hsupplies, hnests⟩ := hd.origin hfree'
      exact absurd hnests (hnone other hother e d hne hsupplies)
    · exact hresolved

/-! ## 3. A document whose reference misses its entity -/

/-- An entity that brings a definition `Target` of its own. -/
def carrierSchema : Schema where
  definitions := ⟨[("Target", .schema (.ofType "string"))]⟩

def shadowingRegistry : Registry :=
  .ofEntities [
    { name := "Carrier", schema := some (Bytes.ofString carrierSchema.text) },
    { name := "Target", schema := some (Bytes.ofString (Schema.ofType "object").text) }]

/-- References to the two entities, in a given order. -/
def referringTo (first second : String) : Schema where
  allOf := [.schema (.reference first), .schema (.reference second)]

def carrierToken : String := "#/definitions/Carrier"

def targetToken : String := "#/definitions/Target"

/-- `referringTo carrierToken targetToken`, resolved. -/
def shadowedDocument : Schema :=
  { referringTo carrierToken targetToken with
    definitions := ⟨[("Carrier", .schema carrierSchema), ("Target", .schema (.ofType "string"))]⟩ }

/-- `referringTo targetToken carrierToken`, resolved. -/
def resolvedDocument : Schema :=
  { referringTo targetToken carrierToken with
    definitions := ⟨[("Carrier", .schema carrierSchema), ("Target", .schema (.ofType "object"))]⟩ }

theorem shadowingRegistry_supplies :
    shadowingRegistry.Supplies "Carrier" carrierSchema ∧
      shadowingRegistry.Supplies "Target" (.ofType "object") := by
  refine ⟨⟨_, _, rfl, rfl, ?_⟩, ⟨_, _, rfl, rfl, ?_⟩⟩
  · decide +kernel
  · decide +kernel

/-- **A registered entity can be missed.**  With the carrier first, the reference to the target,
    which the document does not define, gets the definition inside the carrier and not the
    registered entity; with the two references exchanged it gets the entity. -/
theorem shadowed_entity_missed :
    (referringTo carrierToken targetToken).refs defaultMaxDepth =
      .ok [carrierToken, targetToken] ∧
    entityIdentifier targetToken definitionsPrefix = "Target" ∧
    "Target" ∉ (referringTo carrierToken targetToken).definitions.keys ∧
    shadowingRegistry.Supplies "Target" (.ofType "object") ∧
    (referringTo carrierToken targetToken).dereference shadowingRegistry {} =
      .ok shadowedDocument ∧
    shadowedDocument.definitions.get? "Target" ≠ some (.schema (.ofType "object")) ∧
    (referringTo targetToken carrierToken).dereference shadowingRegistry {} =
      .ok resolvedDocument ∧
    resolvedDocument.definitions.get? "Target" = some (.schema (.ofType "object")) := by
  refine ⟨by decide +kernel, by decide +kernel, by decide +kernel, shadowingRegistry_supplies.2,
    by decide +kernel, ?_, by decide +kernel, rfl⟩
  intro h
  have htarget : Schema.ofType "string" = Schema.ofType "object" :=
    Subschema.schema.inj (Option.some.inj h)
  revert htarget
  decide

/-- The criterion at the document whose reference misses its entity. -/
theorem shadowedDocument_resolves_iff :
    (referringTo carrierToken targetToken).refs defaultMaxDepth =
      .ok [carrierToken, targetToken] ∧
    targetToken ∈ [carrierToken, targetToken] ∧
    entityIdentifier targetToken definitionsPrefix = "Target" ∧
    "Target" ∉ (referringTo carrierToken targetToken).definitions.keys ∧
    (referringTo carrierToken targetToken).dereference shadowingRegistry {} =
      .ok shadowedDocument ∧
    ((∃ e, shadowingRegistry.Supplies "Target" e ∧
        shadowedDocument.definitions.get? "Target" = some (.schema e)) ↔
      ∀ d, Shadowed shadowingRegistry {} (referringTo carrierToken targetToken)
          [carrierToken, targetToken] "Target" d →
        ∃ e, shadowingRegistry.Supplies "Target" e ∧ d = .schema e) ∧
    (∀ d, Shadowed shadowingRegistry {} (referringTo carrierToken targetToken)
        [carrierToken, targetToken] "Target" d →
      shadowedDocument.definitions.get? "Target" = some d ∧
      ∃ other ∈ [carrierToken, targetToken], ∃ e,
        entityIdentifier other definitionsPrefix ≠ "Target" ∧
        shadowingRegistry.Supplies (entityIdentifier other definitionsPrefix) e ∧
        e.Nests "Target" d) ∧
    ((∀ other ∈ [carrierToken, targetToken], ∀ e d,
        entityIdentifier other definitionsPrefix ≠ "Target" →
        shadowingRegistry.Supplies (entityIdentifier other definitionsPrefix) e →
        ¬ e.Nests "Target" d) →
      ∃ e, shadowingRegistry.Supplies "Target" e ∧
        shadowedDocument.definitions.get? "Target" = some (.schema e)) := by
  have hrefs : (referringTo carrierToken targetToken).refs defaultMaxDepth =
      .ok [carrierToken, targetToken] := by decide +kernel
  have htoken : targetToken ∈ [carrierToken, targetToken] := by decide
  have hname : entityIdentifier targetToken definitionsPrefix = "Target" := by decide +kernel
  have hfree : "Target" ∉ (referringTo carrierToken targetToken).definitions.keys := by decide
  have hpass : (referringTo carrierToken targetToken).dereference shadowingRegistry {} =
      .ok shadowedDocument := by decide +kernel
  exact ⟨hrefs, htoken, hname, hfree, hpass,
    dereference_resolves_iff shadowingRegistry {} _ _ _ targetToken "Target" hrefs htoken hname
      hfree hpass⟩

end SchemaCatalog.Schema
