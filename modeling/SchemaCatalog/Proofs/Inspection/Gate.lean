/-
  The inspection as a gate
  ========================
  **What a registry that passes the inspection can be trusted with.**

  The inspection is made of partial checks, and none of them resolves every
  schema.  The reference graph walks each schema by itself: an entity
  without a schema is a name like any other to it, and it does not look into
  definitions of definitions.  The comparison with a shape and the validation
  of a sample do resolve a schema, but only that of an entity which has the
  one or the other.

  So a registry that passes resolves where one of these two was made, and
  elsewhere it can fail for three reasons only (`Unchecked`), each of which
  does occur (`gate_admits_failures`): an added definition lies one level
  deeper than in its own document, a reference leads to an entity without
  a schema, or a reference that no walk found comes to light with the
  definition that it is buried in.
-/
import SchemaCatalog.Command.Check
import SchemaCatalog.Proofs.ReferenceGraph
import SchemaCatalog.Proofs.Resolution.Failure
import SchemaCatalog.Proofs.Resolution.Origin
import SchemaCatalog.Proofs.Resolution.Provenance

namespace SchemaCatalog

/-! ## 1. What an exit code of zero says -/

theorem Diagnostic.isError_ofError_iff {entity : String} {e : SchemaError} :
    (ofError entity e).isError = true ↔ ∀ name, e ≠ .missingShape name := by
  cases e <;> simp [ofError, isError, severity, SchemaError.code, DiagnosticCode.severity]

namespace Diagnostics

theorem hasErrors_append {l m : Diagnostics} :
    hasErrors (l ++ m) = false ↔ hasErrors l = false ∧ hasErrors m = false := by
  simp only [hasErrors, List.any_append, Bool.or_eq_false_iff]

theorem hasErrors_flatMap {α : Type} {l : List α} {f : α → Diagnostics} :
    hasErrors (l.flatMap f) = false ↔ ∀ a ∈ l, hasErrors (f a) = false := by
  simp only [hasErrors, List.any_flatMap, List.any_eq_false, Bool.not_eq_true]

/-- An outcome is reported without an error if it is a success or a missing shape. -/
theorem hasErrors_ofOutcome {α : Type} {entity : String} {x : Outcome α} :
    hasErrors (ofOutcome entity x) = false ↔
      ∀ e, x = .error e → ∃ name, e = .missingShape name := by
  cases x with
  | ok a =>
    constructor
    · intro _ e h
      cases h
    · intro _
      rfl
  | error e =>
    have herrors : hasErrors (ofOutcome entity (.error e : Outcome α)) =
        (Diagnostic.ofError entity e).isError := by
      simp [hasErrors, ofOutcome]
    rw [herrors, Bool.eq_false_iff, ne_eq, Diagnostic.isError_ofError_iff]
    constructor
    · rintro h _ ⟨⟩
      by_contra hnone
      exact h fun name hname => hnone ⟨name, hname⟩
    · intro h hall
      obtain ⟨name, hname⟩ := h e rfl
      exact hall name hname

end Diagnostics

theorem Command.Check.exitCode_report_eq_zero_iff {c : Config} {r : Registry} {g : Given} :
    (report c r g).exitCode = 0 ↔
      ∃ l, r.inspect c (g.has "skip-examples") (g.values "entity") = .ok l ∧
        l.hasErrors = false := by
  rw [report]
  cases r.inspect c (g.has "skip-examples") (g.values "entity") with
  | error e => simp [Transcript.failed]
  | ok l => cases hl : l.hasErrors <;> simp [hl]

namespace Registry

variable {c : Config} {skipSamples : Bool} {r : Registry}

theorem inspectReferences_clean_iff {o : ResolverOptions} :
    (∃ l, r.inspectReferences o = .ok l ∧ Diagnostics.hasErrors l = false) ↔
      ∃ g, ReferenceGraph.ofRegistry o r = .ok g ∧ g.dangling = [] := by
  have hcycles (g : ReferenceGraph) :
      Diagnostics.hasErrors (g.cycles.map Diagnostic.ofCycle) = false := by
    simp [Diagnostics.hasErrors, Diagnostic.isError, Diagnostic.severity, Diagnostic.ofCycle,
      DiagnosticCode.severity]
  have hdangling (d : DanglingReference) (names : List String) :
      (Diagnostic.ofDangling d names).isError = true := by
    rw [Diagnostic.ofDangling, Diagnostic.suggesting]
    split <;> rfl
  constructor
  · rintro ⟨l, h, hclean⟩
    obtain ⟨g, hg, h⟩ := bind_ok_iff.mp h
    cases h
    refine ⟨g, hg, List.eq_nil_iff_forall_not_mem.mpr ?_⟩
    intro d hd
    have hnone := List.any_eq_false.mp (Diagnostics.hasErrors_append.mp hclean).2 _
      (List.mem_map.mpr ⟨d, hd, rfl⟩)
    exact hnone (hdangling d _)
  · rintro ⟨g, hg, hnone⟩
    refine ⟨_, bind_ok_iff.mpr ⟨g, hg, rfl⟩, ?_⟩
    rw [hnone, Diagnostics.hasErrors_append]
    exact ⟨hcycles g, rfl⟩

/-- **When the inspection of a whole registry finds no error**: the graph can be built and nothing
    dangles, and there is none for any entity and none in the published document. -/
theorem inspect_clean_iff :
    (∃ l, r.inspect c skipSamples [] = .ok l ∧ l.hasErrors = false) ↔
      (∃ g, ReferenceGraph.ofRegistry c.resolverOptions r = .ok g ∧ g.dangling = []) ∧
      (∀ name ∈ r.keys, (r.inspectEntity c skipSamples name).hasErrors = false) ∧
      (Diagnostics.ofOutcome "components" (r.components c.publishOptions none)).hasErrors =
        false := by
  rw [← inspectReferences_clean_iff]
  constructor
  · rintro ⟨l, h, hclean⟩
    obtain ⟨references, hreferences, h⟩ := bind_ok_iff.mp h
    cases h
    rw [Diagnostics.hasErrors_append, Diagnostics.hasErrors_append] at hclean
    obtain ⟨⟨hfirst, hentities⟩, hcomponents⟩ := hclean
    exact ⟨⟨references, hreferences, hfirst⟩, Diagnostics.hasErrors_flatMap.mp hentities,
      hcomponents⟩
  · rintro ⟨⟨references, hreferences, hfirst⟩, hentities, hcomponents⟩
    refine ⟨_, bind_ok_iff.mpr ⟨references, hreferences, rfl⟩, ?_⟩
    rw [Diagnostics.hasErrors_append, Diagnostics.hasErrors_append]
    exact ⟨⟨hfirst, Diagnostics.hasErrors_flatMap.mpr hentities⟩, hcomponents⟩

end Registry

/-- When the command finds no error in a whole registry. -/
theorem Command.Check.exitCode_report_of_all_eq_zero_iff {c : Config} {r : Registry} {g : Given}
    (hall : g.values "entity" = []) :
    (report c r g).exitCode = 0 ↔
      (∃ graph, ReferenceGraph.ofRegistry c.resolverOptions r = .ok graph ∧ graph.dangling = []) ∧
      (∀ name ∈ r.keys, (r.inspectEntity c (g.has "skip-examples") name).hasErrors = false) ∧
      (Diagnostics.ofOutcome "components" (r.components c.publishOptions none)).hasErrors =
        false := by
  rw [exitCode_report_eq_zero_iff, hall, Registry.inspect_clean_iff]

/-! ## 2. Failures of resolution -/

namespace Schema

variable {entities : Registry} {o : ResolverOptions} {s : Schema}

/-- Every failure of a resolution is reported as an error. -/
theorem ne_missingShape_of_dereferenceTransitive {err : SchemaError}
    (h : s.dereferenceTransitive entities o = .error err) (name : String) :
    err ≠ .missingShape name := by
  rintro rfl
  obtain ⟨t, _, herror⟩ := dereferencePasses_error_invariant (P := fun _ => True)
    (fun _ _ _ _ => trivial) trivial h
  rcases dereference_error herror with ⟨path, hpath⟩ | ⟨_, _, _, _, _, _, _, hrefuses⟩
  · cases hpath
  · cases hrefuses with
    | unreadable _ _ hread =>
      rw [ofBytesNamed] at hread
      cases hbytes : ofBytes _ with
      | ok s =>
        rw [hbytes] at hread
        cases hread
      | error e =>
        rw [hbytes] at hread
        cases hread

/-- The schema `q` stands among the definitions of a definition of `s`, at some depth. -/
def Buried (s q : Schema) : Prop :=
  ∃ key d name, (key, .schema d) ∈ s.definitions.entries ∧ d.Nests name (.schema q)

/-- The failures that a graph without dangling references does not exclude.  Where a reference is
    not registered, every schema that refers to its name in its tree or in a definition has a
    definition of that name. -/
inductive Unchecked (o : ResolverOptions) (r : Registry) : SchemaError → Prop where
  | depth (path : List String) : Unchecked o r (depthError o.maxDepth path)
  | schemaless {name : String} {e : Entity} : r.get? name = some e → e.hasSchema = false →
      Unchecked o r (.notSchemaCapable name)
  | buried {owner token : String} {s q : Schema} : r.Supplies owner s → Buried s q →
      q.TreeRefersTo token → r.contains (entityIdentifier token o.definitionsPrefix) = false →
      (∀ owner' s' token', r.Supplies owner' s' → s'.RefersTo token' →
        entityIdentifier token' o.definitionsPrefix = entityIdentifier token o.definitionsPrefix →
        s'.definitions.contains (entityIdentifier token o.definitionsPrefix) = true) →
      Unchecked o r (.unresolvedReference (entityIdentifier token o.definitionsPrefix))

/-- Where all schemas can be read, a refused name is without a schema or not registered. -/
theorem refuses_cases {r : Registry} (hr : r.Indexed) (hv : ReferenceGraph.Vouches o r)
    {name : String} {err : SchemaError} (h : r.Refuses name err) :
    (∃ e, r.get? name = some e ∧ e.hasSchema = false ∧ err = .notSchemaCapable name) ∨
      (r.contains name = false ∧ err = .unresolvedReference name) := by
  cases h with
  | unregistered hnone => exact Or.inr ⟨Table.get?_eq_none_iff.mp hnone, rfl⟩
  | @schemaless e hget hschema =>
    refine Or.inl ⟨e, hget, ?_, rfl⟩
    rw [Entity.hasSchema, hschema]
    rfl
  | @unreadable e bytes _ hget hbytes hread =>
    have hschema : e.hasSchema = true := Registry.hasSchema_of_eq_some hbytes
    obtain ⟨s, hs⟩ := hv.reads name e hget hschema
    obtain ⟨bytes', hbytes', hread'⟩ := Registry.readSchema_ok_iff.mp hs
    rw [hr.name_of_get? hget] at hread'
    rw [hbytes] at hbytes'
    cases hbytes'
    rw [hread] at hread'
    cases hread'

/-- **A resolution against a registry that is vouched for fails for the unchecked reasons only.** -/
theorem unchecked_of_error {r : Registry} (hr : r.Indexed) (hv : ReferenceGraph.Vouches o r)
    {name : String} (hsupplies : r.Supplies name s) {err : SchemaError}
    (h : s.dereferenceTransitive r o = .error err) : Unchecked o r err := by
  -- whatever has been added came with a registered entity, which stands in the table
  obtain ⟨doc, ⟨hstems, htree⟩, herror⟩ := dereferencePasses_error_invariant
    (P := fun doc => Stems r.Supplies s.definitions doc.definitions ∧
      ∀ token, doc.TreeRefersTo token → s.TreeRefersTo token)
    (by
      rintro doc next ⟨hstems, htree⟩ hpass
      obtain ⟨tokens, _, hinline⟩ := dereference_ok_iff.mp hpass
      refine ⟨hstems.inlineTokens (fun _ _ _ _ hs => hs) hinline, ?_⟩
      intro token hnext
      rw [(dereference_grows hpass).frame, treeRefersTo_definitions_iff] at hnext
      exact htree token hnext)
    ⟨Stems.refl (Supplies.wellFormed hsupplies).definitions_sorted, fun _ h => h⟩ h
  rcases dereference_error herror with ⟨path, rfl⟩ | ⟨_, token, mid, _, htoken, hmid, hfree, hno⟩
  · exact .depth path
  have hfree := (inlineTokens_ok hmid).1.completes.extends_.free hfree
  rcases refuses_cases hr hv hno with ⟨e, hget, hschema, rfl⟩ | ⟨hlost, rfl⟩
  · exact .schemaless hget hschema
  -- what a walk of a registered schema finds is defined there, as it is not registered
  have hdefined {owner : String} {e : Schema} {t : String} (he : r.Supplies owner e)
      (ht : e.RefersTo t)
      (hname : entityIdentifier t o.definitionsPrefix =
        entityIdentifier token o.definitionsPrefix) :
      e.definitions.contains (entityIdentifier token o.definitionsPrefix) = true := by
    rcases hv.answers owner e t he ht with hown | hregistered
    · rw [hname] at hown
      exact hown
    · rw [hname, hlost] at hregistered
      cases hregistered
  have hdocument (ht : s.RefersTo token) : False := by
    have hthere := hstems.completes.extends_.contains (hdefined hsupplies ht rfl)
    rw [hfree] at hthere
    cases hthere
  rcases refersTo_iff.mp htoken with ht | ⟨key, q, hmem, hq⟩
  · exact (hdocument (refersTo_iff.mpr (Or.inl (htree token ht)))).elim
  rcases hstems.origin key _ (hstems.sorted.get?_of_mem hmem) with
    hgiven | ⟨owner, e, he, howner, hstands, hcame⟩
  · exact (hdocument (refersTo_iff.mpr
      (Or.inr ⟨key, q, Table.mem_of_get? hgiven, hq⟩))).elim
  have howned (ht : e.RefersTo token) : False := by
    have hkey := Table.mem_keys_iff.mpr (hdefined he ht rfl)
    have hthere := hstems.completes.closed owner e hstands howner _ hkey
    rw [hfree] at hthere
    cases hthere
  rcases hcame with ⟨_, hself⟩ | hcarries
  · cases hself
    exact (howned (refersTo_iff.mpr (Or.inl hq))).elim
  · cases hcarries with
    | direct hmem _ => exact (howned (refersTo_iff.mpr (Or.inr ⟨key, q, hmem, hq⟩))).elim
    | within hmem _ hinner =>
      exact .buried he ⟨_, _, _, hmem, hinner.nests⟩ hq hlost
        fun _ _ _ hs ht hname => hdefined hs ht hname

end Schema

/-! ## 3. The gate -/

namespace Registry

variable {c : Config} {skipSamples : Bool} {r : Registry}

/-- An entity that was compared with a shape or a sample without an error can be resolved. -/
theorem resolves_of_inspectEntity {name : String} {e : Entity} {s : Schema}
    (hget : r.get? name = some e) (hread : e.readSchema = .ok s)
    (hclean : (r.inspectEntity c skipSamples name).hasErrors = false)
    (hmade : e.shape.isSome ∨ (skipSamples = false ∧ e.sample ≠ [])) :
    ∃ out, s.dereferenceTransitive r c.resolverOptions = .ok out := by
  cases hrun : s.dereferenceTransitive r c.resolverOptions with
  | ok out => exact ⟨out, rfl⟩
  | error err =>
    exfalso
    obtain ⟨bytes, hbytes, _⟩ := readSchema_ok_iff.mp hread
    have hschema : e.hasSchema = true := Registry.hasSchema_of_eq_some hbytes
    rw [inspectEntity, hget] at hclean
    simp only [hschema, if_true] at hclean
    obtain ⟨hcheck, hsample⟩ := Diagnostics.hasErrors_append.mp hclean
    rcases hmade with hshape | ⟨hskip, hpresent⟩
    · obtain ⟨shape, hshape⟩ := Option.isSome_iff_exists.mp hshape
      have herror : e.check c.consistencyOptions r = .error err := by
        rw [Entity.check, hshape]
        exact bind_error_iff.mpr (Or.inr ⟨s, hread, bind_error_iff.mpr (Or.inl hrun)⟩)
      obtain ⟨n, hn⟩ := Diagnostics.hasErrors_ofOutcome.mp hcheck err herror
      exact Schema.ne_missingShape_of_dereferenceTransitive hrun n hn
    · have herror : e.validateSample c.resolverOptions r = .error err :=
        bind_error_iff.mpr (Or.inr ⟨s, hread, bind_error_iff.mpr (Or.inl hrun)⟩)
      have hskipped : (skipSamples || e.sample.isEmpty) = false := by
        rw [hskip, Bool.false_or, List.isEmpty_eq_false_iff]
        exact hpresent
      rw [hskipped, if_neg Bool.false_ne_true] at hsample
      obtain ⟨n, hn⟩ := Diagnostics.hasErrors_ofOutcome.mp hsample err herror
      exact Schema.ne_missingShape_of_dereferenceTransitive hrun n hn

end Registry

/-- **A registry without errors resolves, but for what no check looked at.**  Whatever the bundle,
    the configuration and the switches: if the command inspects the whole registry and ends with
    code zero, every schema can be read.  It can be resolved if its entity has a shape, or a sample
    and samples are not skipped; and whatever entity it belongs to, a resolution that
    fails does so for an unchecked reason. -/
theorem Command.Check.report_gates_resolution (b : Bundle) (c : Config) (g : Given)
    (hall : g.values "entity" = []) (hclean : (report c b.toRegistry g).exitCode = 0) :
    ∀ e ∈ b.toRegistry.values, e.hasSchema = true → ∃ s, e.readSchema = .ok s ∧
      (e.shape.isSome ∨ (g.has "skip-examples" = false ∧ e.sample ≠ []) →
        ∃ out, s.dereferenceTransitive b.toRegistry c.resolverOptions = .ok out) ∧
      ∀ err, s.dereferenceTransitive b.toRegistry c.resolverOptions = .error err →
        Schema.Unchecked c.resolverOptions b.toRegistry err := by
  intro e he hschema
  have hr : b.toRegistry.Indexed := Registry.indexed_ofEntities _
  obtain ⟨⟨graph, hgraph, hdangling⟩, hentities, _⟩ :=
    (exitCode_report_of_all_eq_zero_iff hall).mp hclean
  have hv := ReferenceGraph.vouches_of_ofRegistry hr hgraph hdangling
  have hget := hr.get?_of_mem_values he
  obtain ⟨s, hread⟩ := hv.reads _ e hget hschema
  refine ⟨s, hread, ?_, ?_⟩
  · exact Registry.resolves_of_inspectEntity hget hread
      (hentities _ (Table.mem_keys_iff.mpr (Table.contains_of_get? hget)))
  · intro err herror
    exact Schema.unchecked_of_error hr hv ((hr.supplies_iff hget).mpr hread) herror

/-! ## 4. What passes -/

namespace Command.Check

/-- A stored entity with a schema and nothing else. -/
def stored (name : String) (s : Schema) : StoredEntity := { name, schema := some s.toJson }

/-- A reference to an entity that has no schema. -/
def opaqueBundle : Bundle :=
  ⟨[stored "Account" (.reference "#/definitions/Opaque"), { name := "Opaque" }]⟩

/-- A reference to an entity in which another reference is buried. -/
def buriedBundle : Bundle :=
  ⟨[stored "Account" (.reference "#/definitions/Owner"),
    stored "Owner" { definitions := ⟨[("Contact", .schema
      { definitions := ⟨[("Phone", .schema (.reference "#/definitions/Missing"))]⟩ })]⟩ }]⟩

/-- A reference to an entity that is as deep as the depth allows. -/
def deepBundle : Bundle :=
  ⟨[stored "Account" (.reference "#/definitions/Owner"),
    stored "Owner" { properties := ⟨[("name", .schema (.ofType "string"))]⟩ }]⟩

/-- **The gate admits registries that do not resolve.**  In each of the three the whole registry is
    inspected without an error, and the first entity cannot be resolved. -/
theorem gate_admits_failures :
    ((report {} opaqueBundle.toRegistry {}).exitCode = 0 ∧
      opaqueBundle.toRegistry.Supplies "Account" (.reference "#/definitions/Opaque") ∧
      (Schema.reference "#/definitions/Opaque").dereferenceTransitive opaqueBundle.toRegistry {} =
        .error (.notSchemaCapable "Opaque")) ∧
    ((report {} buriedBundle.toRegistry {}).exitCode = 0 ∧
      buriedBundle.toRegistry.Supplies "Account" (.reference "#/definitions/Owner") ∧
      (Schema.reference "#/definitions/Owner").dereferenceTransitive buriedBundle.toRegistry {} =
        .error (.unresolvedReference "Missing")) ∧
    ((report { maxDepth := 1 } deepBundle.toRegistry {}).exitCode = 0 ∧
      deepBundle.toRegistry.Supplies "Account" (.reference "#/definitions/Owner") ∧
      (Schema.reference "#/definitions/Owner").dereferenceTransitive deepBundle.toRegistry
        (Config.resolverOptions { maxDepth := 1 }) =
          .error (.depthLimit "#/definitions/Owner/properties/name" 1)) := by
  refine ⟨⟨?_, ⟨_, _, rfl, rfl, ?_⟩, ?_⟩, ⟨?_, ⟨_, _, rfl, rfl, ?_⟩, ?_⟩,
    ⟨?_, ⟨_, _, rfl, rfl, ?_⟩, ?_⟩⟩
  · refine (exitCode_report_of_all_eq_zero_iff rfl).mpr ⟨⟨⟨⟨[("Account", ["Opaque"]),
      ("Opaque", [])]⟩, []⟩, ?_, rfl⟩, ?_, ?_⟩
    all_goals decide +kernel
  · decide +kernel
  · decide +kernel
  · refine (exitCode_report_of_all_eq_zero_iff rfl).mpr ⟨⟨⟨⟨[("Account", ["Owner"]),
      ("Owner", [])]⟩, []⟩, ?_, rfl⟩, ?_, ?_⟩
    all_goals decide +kernel
  · decide +kernel
  · decide +kernel
  · refine (exitCode_report_of_all_eq_zero_iff rfl).mpr ⟨⟨⟨⟨[("Account", ["Owner"]),
      ("Owner", [])]⟩, []⟩, ?_, rfl⟩, ?_, ?_⟩
    all_goals decide +kernel
  · decide +kernel
  · decide +kernel

/-- An entity with a shape that refers to one without. -/
def accountBundle : Bundle :=
  ⟨[{ stored "Account"
        { type := some (.single "object")
          properties := ⟨[("owner", .schema (.reference "#/definitions/Owner"))]⟩ } with
      shape := some (.record [.ofName "owner" .string]) },
    stored "Owner" (.ofType "string")]⟩

/-- A bundle that passes, and what that says about it. -/
theorem accountBundle_resolves :
    (report {} accountBundle.toRegistry {}).exitCode = 0 ∧
    ∀ e ∈ accountBundle.toRegistry.values, e.hasSchema = true → ∃ s, e.readSchema = .ok s ∧
      (e.shape.isSome ∨ (({} : Given).has "skip-examples" = false ∧ e.sample ≠ []) →
        ∃ out, s.dereferenceTransitive accountBundle.toRegistry (Config.resolverOptions {}) =
          .ok out) ∧
      ∀ err, s.dereferenceTransitive accountBundle.toRegistry (Config.resolverOptions {}) =
          .error err →
        Schema.Unchecked (Config.resolverOptions {}) accountBundle.toRegistry err := by
  have hclean : (report {} accountBundle.toRegistry {}).exitCode = 0 := by
    refine (exitCode_report_of_all_eq_zero_iff rfl).mpr ⟨⟨⟨⟨[("Account", ["Owner"]),
      ("Owner", [])]⟩, []⟩, ?_, rfl⟩, ?_, ?_⟩
    all_goals decide +kernel
  exact ⟨hclean, report_gates_resolution accountBundle {} {} rfl hclean⟩

end Command.Check

end SchemaCatalog
