/-
  What publishing changes
  =======================
  **A published schema differs from the schema in its example and in its references, and in
  nothing else.**

  The references that are replaced are those of the schemas to which a path leads that goes through a
  chain of definitions, of any length, and then down one tree.  Each of them is replaced once: the new
  token is made from the one in the schema before it was published
  (`ref_node?_mapNested`).  Definitions that are entered further down, in the middle of a
  tree, are not published in a form of their own and stay as they are
  (`node?_mapNested_of_enters`).
-/
import SchemaCatalog.Proofs.Publication.Retargeting
import SchemaCatalog.Proofs.Schema.Addressing

namespace SchemaCatalog

namespace Schema

/-! ## 1. Addresses after the map of every depth -/

/-- A path through definitions of definitions, by their names. -/
def chainOf (names : List String) : List Step := names.map .definition

section

variable (f : String → String)

/-- A chain of definitions leads to the definition that was there, mapped at every depth. -/
theorem node?_chain_mapNested (names : List String) (s : Schema) :
    (s.mapNested f).node? (chainOf names) = (s.node? (chainOf names)).map (mapNested f) := by
  induction names generalizing s with
  | nil => rfl
  | cons name names ih =>
    change (s.mapNested f).node? (.definition name :: chainOf names) =
      (s.node? (.definition name :: chainOf names)).map (mapNested f)
    rw [node?_cons_definition_map (definitions_mapNested f s), node?, place?]
    cases (s.definitions.get? name).bind Subschema.schema? with
    | none => rfl
    | some d => exact ih d

/-- **Down a tree at the end of a chain of definitions, the token is the one that was there,
    replaced.** -/
theorem ref_node?_mapNested (names : List String) {below : List Step} (h : Descends below)
    (s : Schema) :
    ((s.mapNested f).node? (chainOf names ++ below)).map ref =
      (s.node? (chainOf names ++ below)).map fun t => t.ref.map f := by
  rw [node?_append, node?_append, node?_chain_mapNested]
  cases s.node? (chainOf names) with
  | none => rfl
  | some d =>
    change ((d.mapNested f).node? below).map ref = (d.node? below).map fun t => t.ref.map f
    rw [mapNested_eq]
    exact ref_node?_definitions f h d _

/-- **Behind a step into definitions from the middle of a tree, everything is as it was.** -/
theorem node?_mapNested_of_enters (names : List String) {step : Step}
    (hstep : step.isDefinition = false) (before : List Step) (name : String) (rest : List Step)
    (s : Schema) :
    (s.mapNested f).node? (chainOf names ++ (step :: before ++ .definition name :: rest)) =
      s.node? (chainOf names ++ (step :: before ++ .definition name :: rest)) := by
  rw [node?_append, node?_append, node?_chain_mapNested]
  cases s.node? (chainOf names) with
  | none => rfl
  | some d =>
    change (d.mapNested f).node? (step :: before ++ .definition name :: rest) =
      d.node? (step :: before ++ .definition name :: rest)
    rw [mapNested_eq]
    exact node?_definitions_of_enters f hstep before name rest d _

end

/-! ## 2. Addresses and the sample -/

theorem node?_cons_withSample (sample : Option Json) (step : Step) (rest : List Step)
    (s : Schema) : (s.withSample sample).node? (step :: rest) = s.node? (step :: rest) := by
  cases sample with
  | none => rfl
  | some v => cases step <;> rfl

/-- What is read off the tokens does not depend on the sample. -/
theorem ref_node?_withSample {α : Type} (g : Option String → α) (sample : Option Json)
    (path : List Step) (s : Schema) :
    ((s.withSample sample).node? path).map (fun t => g t.ref) =
      (s.node? path).map fun t => g t.ref := by
  cases path with
  | nil => cases sample <;> rfl
  | cons step rest => rw [node?_cons_withSample]

end Schema

/-! ## 3. The published schema -/

namespace Entity

theorem readSample_ok {e : Entity} {sample : Option Json} (h : e.readSample = .ok sample) :
    (e.sample.isBlank = true → sample = none) ∧
    (e.sample.isBlank = false → ∃ v, Json.ofBytes e.sample = .ok v ∧ sample = some v) := by
  rw [readSample] at h
  split at h
  · next hblank =>
    cases h
    exact ⟨fun _ => rfl, fun hnot => absurd hblank (Bool.eq_false_iff.mp hnot)⟩
  · next hblank =>
    refine ⟨fun hyes => absurd hyes hblank, fun _ => ?_⟩
    cases hread : Json.ofBytes e.sample with
    | error fault =>
      rw [hread] at h
      cases h
    | ok v =>
      rw [hread] at h
      cases h
      exact ⟨v, rfl, rfl⟩

/-- **Publishing replaces every reference exactly once, and nothing but the example besides.**  If
    neither of the two prefixes begins with the other, a published schema is the schema of the
    entity, with the sample as its only example unless that is blank, mapped at every depth.

    At the end of a chain of definitions and a path down from there stands the schema
    that was there, and if it had a token, the token of the same name under the output
    prefix.  What is found behind a step into definitions from the middle of a tree is the same as
    before. -/
theorem publish_retargets_once {o : PublishOptions}
    (ho : Diverge o.definitionsPrefix o.outputPrefix) {e : Entity} {out : Schema}
    (h : e.publish o = .ok out) :
    ∃ s sample, e.readSchema = .ok s ∧
      (e.sample.isBlank = true → sample = none) ∧
      (e.sample.isBlank = false → ∃ v, Json.ofBytes e.sample = .ok v ∧ sample = some v) ∧
      out = (s.withSample sample).mapNested (retargetToken o.definitionsPrefix o.outputPrefix) ∧
      (∀ names below, Schema.Descends below →
        (out.node? (Schema.chainOf names ++ below)).map Schema.ref =
          (s.node? (Schema.chainOf names ++ below)).map fun t => t.ref.map fun token =>
            o.outputPrefix ++ refIdentifier token [o.definitionsPrefix, o.outputPrefix]) ∧
      ∀ names step before name rest, step.isDefinition = false →
        out.node? (Schema.chainOf names ++ (step :: before ++ .definition name :: rest)) =
          s.node? (Schema.chainOf names ++ (step :: before ++ .definition name :: rest)) := by
  obtain ⟨s, sample, hs, hsample, rfl⟩ := publish_ok ho h
  obtain ⟨hblank, hread⟩ := readSample_ok hsample
  refine ⟨s, sample, hs, hblank, hread, rfl, ?_, ?_⟩
  · intro names below hbelow
    rw [Schema.ref_node?_mapNested _ names hbelow]
    exact Schema.ref_node?_withSample (Option.map _) sample _ s
  · intro names step before name rest hstep
    rw [Schema.node?_mapNested_of_enters _ names hstep]
    cases names with
    | nil => exact Schema.node?_cons_withSample sample _ _ s
    | cons first names => exact Schema.node?_cons_withSample sample _ _ s

/-- An order whose item has a definition of its own, with references under either prefix and under
    none; the part of the item has a definition that no chain leads to. -/
def orderSchema : Schema where
  properties := ⟨[("item", .schema (.reference "#/definitions/Item"))]⟩
  definitions := ⟨[("Item", .schema {
    properties := ⟨[("part", .schema {
      ref := some "#/components/schemas/Part"
      definitions := ⟨[("Local", .schema (.reference "#/definitions/Part"))]⟩ })]⟩
    definitions := ⟨[("Sku", .schema { not := some (.schema (.reference "shared.json/Code")) })]⟩ })]⟩

def orderEntity : Entity where
  name := "Order"
  schema := some (Bytes.ofString orderSchema.text)
  sample := Bytes.ofString "[\"A-1\"]"

/-- The order is published with its sample, and each of its references once. -/
theorem orderEntity_retargets_once :
    Diverge definitionsPrefix componentsPrefix ∧ ∃ out, orderEntity.publish {} = .ok out ∧
      out.examples = [.arr [.str "A-1"]] ∧
      (out.node? [.property "item"]).map Schema.ref = some (some "#/components/schemas/Item") ∧
      (out.node? [.definition "Item", .property "part"]).map Schema.ref =
        some (some "#/components/schemas/Part") ∧
      (out.node? [.definition "Item", .definition "Sku", .not]).map Schema.ref =
        some (some "#/components/schemas/Code") ∧
      (out.node? [.definition "Item", .property "part", .definition "Local"]).map Schema.ref =
        some (some "#/definitions/Part") := by
  have hread : orderEntity.readSchema = .ok orderSchema := by decide +kernel
  have hsample : orderEntity.readSample = .ok (some (.arr [.str "A-1"])) := by decide +kernel
  have hpublish : orderEntity.publish {} =
      .ok ((orderSchema.withSample (some (.arr [.str "A-1"]))).mapNested
        (retargetToken definitionsPrefix componentsPrefix)) := by
    rw [publish, hread, hsample]
    decide +kernel
  obtain ⟨s, sample, hs, -, -, -, htokens, hkept⟩ :=
    publish_retargets_once diverge_definitions_components hpublish
  obtain rfl : orderSchema = s := Except.ok.inj (hread.symm.trans hs)
  refine ⟨diverge_definitions_components, _, hpublish, rfl, ?_, ?_, ?_, ?_⟩
  · have hitem := htokens [] [.property "item"] (by decide)
    exact hitem.trans (by decide)
  · have hpart := htokens ["Item"] [.property "part"] (by decide)
    exact hpart.trans (by decide)
  · have hsku := htokens ["Item", "Sku"] [.not] (by decide)
    exact hsku.trans (by decide)
  · have hlocal := hkept ["Item"] (.property "part") [] "Local" [] rfl
    exact congrArg (Option.map Schema.ref) hlocal

end Entity

end SchemaCatalog
