/-
  Retargeting
  ===========
  **Publishing a schema replaces its references at every depth, each once.**

  One walk reaches the tree of a schema and the trees of its definitions.  To
  reach what is nested further down, publishing walks from each definition
  again as from a root, so it meets the tree of every definition twice.
  Between prefixes that diverge the second time changes nothing, and what
  comes out is the map of all references (`retargetNested_ok`).

  So a published schema contributes, definition by definition, what the schema
  contributes before it is published (`contributions_mapNested`).
-/
import SchemaCatalog.Publication
import SchemaCatalog.Proofs.Outcome
import SchemaCatalog.Proofs.Reference
import SchemaCatalog.Proofs.Schema.Mapping
import SchemaCatalog.Proofs.Collector.Merging

namespace SchemaCatalog

namespace Schema

/-! ## 1. Mapping at every depth -/

mutual

/-- Replaces the references of a schema and of the definitions inside it, to any depth. -/
def mapNested (f : String → String) : Schema → Schema
  | s@{ definitions := ⟨definitions⟩, .. } =>
    { s.mapTree f with definitions := ⟨mapNestedOf f definitions⟩ }

def mapNestedOf (f : String → String) :
    List (String × Subschema Schema) → List (String × Subschema Schema)
  | [] => []
  | (name, .flag b) :: rest => (name, .flag b) :: mapNestedOf f rest
  | (name, .schema s) :: rest => (name, .schema (mapNested f s)) :: mapNestedOf f rest

end

section

variable (f : String → String)

theorem mapNestedOf_eq (l : List (String × Subschema Schema)) :
    mapNestedOf f l = l.map fun e => (e.1, e.2.map (mapNested f)) := by
  induction l with
  | nil => rfl
  | cons e rest ih =>
    obtain ⟨name, b | s⟩ := e
    · rw [mapNestedOf, ih]
      rfl
    · rw [mapNestedOf, ih]
      rfl

theorem mapNested_eq (s : Schema) :
    s.mapNested f =
      { s.mapTree f with definitions := s.definitions.map (Subschema.map (mapNested f)) } := by
  cases s
  rw [mapNested, mapNestedOf_eq]
  rfl

theorem definitions_mapNested (s : Schema) :
    (s.mapNested f).definitions = s.definitions.map (Subschema.map (mapNested f)) := by
  rw [mapNested_eq]

theorem treeRefersTo_mapNested_iff {s : Schema} {token : String} :
    (s.mapNested f).TreeRefersTo token ↔ ∃ original, s.TreeRefersTo original ∧ f original = token := by
  rw [mapNested_eq, treeRefersTo_definitions_iff, treeRefersTo_mapTree_iff]

end

/-- A tree that has been mapped once is not changed by a map that leaves its own results. -/
theorem mapNested_mapTree {f : String → String} (hf : ∀ token, f (f token) = f token) (s : Schema) :
    (s.mapTree f).mapNested f = s.mapNested f := by
  have htwice : f ∘ f = f := funext hf
  rw [mapNested_eq, mapNested_eq, mapTree_mapTree, htwice, definitions_mapTree]

/-! ## 2. Levels -/

theorem definitionDepth_eq (s : Schema) :
    s.definitionDepth = definitionDepthOf s.definitions.entries := by
  cases s
  rfl

theorem definitionDepth_mapTree (f : String → String) (s : Schema) :
    (s.mapTree f).definitionDepth = s.definitionDepth := by
  rw [definitionDepth_eq, definitionDepth_eq, definitions_mapTree]

theorem definitionDepth_lt_of_mem {l : List (String × Subschema Schema)} {name : String} {d : Schema}
    (h : (name, .schema d) ∈ l) : d.definitionDepth < definitionDepthOf l := by
  induction l with
  | nil => cases h
  | cons e rest ih =>
    rcases List.mem_cons.mp h with rfl | hrest
    · rw [definitionDepthOf]
      omega
    · obtain ⟨key, b | s⟩ := e
      · exact ih hrest
      · have := ih hrest
        rw [definitionDepthOf]
        omega

theorem mapDefinitions_ok {f : Schema → Outcome Schema} {g : Schema → Schema}
    {l m : List (String × Subschema Schema)}
    (each : ∀ name d, (name, .schema d) ∈ l → ∀ d', f d = .ok d' → d' = g d)
    (h : mapDefinitions f l = .ok m) : m = l.map fun e => (e.1, e.2.map g) := by
  induction l generalizing m with
  | nil =>
    cases h
    rfl
  | cons e rest ih =>
    have hrest {m : List (String × Subschema Schema)} (h : mapDefinitions f rest = .ok m) :=
      ih (fun name d hmem => each name d (List.mem_cons_of_mem _ hmem)) h
    obtain ⟨name, b | s⟩ := e
    · obtain ⟨others, hothers, rfl⟩ := return_ok h
      rw [hrest hothers]
      rfl
    · obtain ⟨d', hd', h⟩ := bind_ok_iff.mp h
      obtain ⟨others, hothers, rfl⟩ := return_ok h
      rw [hrest hothers, each name s List.mem_cons_self d' hd']
      rfl

variable {o : PublishOptions}

theorem retargetReached_ok {s out : Schema} (h : s.retargetReached o = .ok out) :
    out = s.mapReached (retargetToken o.definitionsPrefix o.outputPrefix) := by
  rw [retargetReached] at h
  split at h
  · cases h
  · next hwalk =>
    cases h
    exact mapRefs_value hwalk

/-- **As many levels as there are definitions inside definitions reach everything.** -/
theorem retargetLevels_ok (ho : Diverge o.definitionsPrefix o.outputPrefix) {levels : Nat} :
    ∀ {s out : Schema}, s.definitionDepth ≤ levels → s.retargetLevels o levels = .ok out →
      out = s.mapNested (retargetToken o.definitionsPrefix o.outputPrefix) := by
  generalize hf : retargetToken o.definitionsPrefix o.outputPrefix = f
  have htwice : ∀ token, f (f token) = f token := by
    intro token
    rw [← hf]
    exact retargetToken_retargetToken ho token
  induction levels with
  | zero =>
    intro s out hdepth h
    rw [retargetReached_ok h, hf, mapNested_eq, mapReached, mapDefined, definitions_mapTree]
    -- none of the definitions is a schema
    have hnone : s.definitions.map (Subschema.map (mapTree f)) =
        s.definitions.map (Subschema.map (mapNested f)) := by
      refine congrArg Table.mk (List.map_congr_left fun e he => ?_)
      obtain ⟨name, b | d⟩ := e
      · rfl
      · have := definitionDepth_lt_of_mem he
        rw [definitionDepth_eq] at hdepth
        omega
    rw [hnone]
  | succ levels ih =>
    intro s out hdepth h
    rw [retargetLevels] at h
    obtain ⟨s', hs', h⟩ := bind_ok_iff.mp h
    obtain ⟨definitions, hdefinitions, rfl⟩ := return_ok h
    rw [retargetReached_ok hs', hf] at hdefinitions ⊢
    -- the walk has mapped the trees of the definitions, which `ih` maps once more
    rw [definitions_mapReached] at hdefinitions
    have heach : definitions = ((s.definitions.map (Subschema.map (mapTree f))).map
        (Subschema.map (mapNested f))).entries := by
      refine mapDefinitions_ok ?_ hdefinitions
      intro name d hd d' hd'
      refine ih ?_ hd'
      obtain ⟨⟨name', place⟩, hplace, heq⟩ := List.mem_map.mp hd
      obtain ⟨_, hsame⟩ := Prod.mk.inj heq
      rcases place with b | d₀
      · cases hsame
      · cases hsame
        rw [definitionDepth_mapTree]
        rw [definitionDepth_eq] at hdepth
        have := definitionDepth_lt_of_mem hplace
        omega
    rw [mapNested_eq, heach, map_map_definitions (mapNested_mapTree htwice)]
    rfl

/-- **Retargeting maps the references of every depth.** -/
theorem retargetNested_ok (ho : Diverge o.definitionsPrefix o.outputPrefix) {s out : Schema}
    (h : s.retargetNested o = .ok out) :
    out = s.mapNested (retargetToken o.definitionsPrefix o.outputPrefix) :=
  retargetLevels_ok ho (Nat.le_refl _) h

/-! ## 3. Publishing -/

/-- The schema with a sample as its only example, if there is a sample. -/
def withSample (s : Schema) : Option Json → Schema
  | some v => { s with examples := [v] }
  | none => s

theorem definitions_withSample (s : Schema) (sample : Option Json) :
    (s.withSample sample).definitions = s.definitions := by
  cases sample <;> rfl

theorem treeRefersTo_withSample_iff {s : Schema} {sample : Option Json} {token : String} :
    (s.withSample sample).TreeRefersTo token ↔ s.TreeRefersTo token := by
  apply treeRefersTo_congr
  · cases sample <;> rfl
  · cases sample <;> rfl

end Schema

/-- **A published schema is the schema with its sample and with every reference replaced.** -/
theorem Entity.publish_ok {o : PublishOptions} (ho : Diverge o.definitionsPrefix o.outputPrefix)
    {e : Entity} {out : Schema} (h : e.publish o = .ok out) :
    ∃ s sample, e.readSchema = .ok s ∧ e.readSample = .ok sample ∧
      out = (s.withSample sample).mapNested (retargetToken o.definitionsPrefix o.outputPrefix) := by
  obtain ⟨s, hs, h⟩ := bind_ok_iff.mp h
  obtain ⟨sample, hsample, h⟩ := bind_ok_iff.mp h
  refine ⟨s, sample, hs, hsample, Schema.retargetNested_ok ho ?_⟩
  cases sample <;> exact h

/-! ## 4. What a published schema contributes -/

namespace Collector

open Schema

theorem contributionsOf_map {g : Schema → Schema} {h : String × Schema → String × Schema}
    {l : List (String × Subschema Schema)}
    (each : ∀ key d, (key, .schema d) ∈ l → contributions key (g d) = (contributions key d).map h) :
    contributionsOf (l.map fun e => (e.1, e.2.map g)) = (contributionsOf l).map h := by
  induction l with
  | nil => rfl
  | cons e rest ih =>
    have hrest := ih fun key d hmem => each key d (List.mem_cons_of_mem _ hmem)
    obtain ⟨key, b | d⟩ := e
    · exact hrest
    · have hfirst := each key d List.mem_cons_self
      rw [contributionsOf, List.map_append, ← hfirst, ← hrest]
      rfl

/-- **A mapped schema contributes what the schema contributes, mapped.** -/
theorem contributions_mapNested (f : String → String) (s : Schema) :
    ∀ name, contributions name (s.mapNested f) =
      (contributions name s).map fun p => (p.1, p.2.mapNested f) := by
  induction s using Schema.inductionOnDefinitions with
  | step s ih =>
    intro name
    rw [contributions_eq, contributions_eq, definitions_mapNested, List.map_cons, Table.map,
      contributionsOf_map fun key d hd => ih key d hd key]

end Collector

end SchemaCatalog
