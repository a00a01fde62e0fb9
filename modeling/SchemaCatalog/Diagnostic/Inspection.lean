/-
  Inspection
  ==========
  **Everything that a check finds in a registry.**

  The references of the whole registry come first: cycles, then references
  that lead nowhere.  Then each entity that is to be checked is compared
  with its shape, and its sample with its schema.  Last, the published
  schemas of these entities are collected, which shows definitions that
  cannot stand in one document.

  A registry whose reference graph cannot be built is not inspected at all.
-/
import SchemaCatalog.Diagnostic.Basic
import SchemaCatalog.Config.Basic
import SchemaCatalog.Validation.Sample

namespace SchemaCatalog

/-- How many names are suggested for one that is not registered. -/
def suggestionLimit : Nat := 3

/-- The report of a failure, if there is one. -/
def Diagnostics.ofOutcome {α : Type} (entity : String) : Outcome α → Diagnostics
  | .ok _ => []
  | .error e => [.ofError entity e]

namespace Registry

/-- The cycles of references, and the references that lead nowhere. -/
def inspectReferences (o : ResolverOptions) (r : Registry) : Outcome Diagnostics := do
  let g ← ReferenceGraph.ofRegistry o r
  return g.cycles.map Diagnostic.ofCycle ++
    g.dangling.map fun d => .ofDangling d (r.suggest d.target suggestionLimit)

/-- What is wrong with one entity; one without a schema is not checked. -/
def inspectEntity (c : Config) (skipSamples : Bool) (r : Registry) (name : String) : Diagnostics :=
  match r.get? name with
  | none =>
    let d := Diagnostic.ofError name (.unresolvedReference name)
    [d.suggesting (r.suggest name suggestionLimit)]
  | some e =>
    if e.hasSchema then
      Diagnostics.ofOutcome name (e.check c.consistencyOptions r) ++
        if skipSamples || e.sample.isEmpty then []
        else Diagnostics.ofOutcome name (e.validateSample c.resolverOptions r)
    else []

/-- The names that are to be checked: those given, or else all. -/
def namesToInspect (r : Registry) (names : List String) : List String :=
  if names.isEmpty then r.keys else names

/-- Inspects the entities of these names, or all if there are none. -/
def inspect (c : Config) (skipSamples : Bool) (names : List String) (r : Registry) :
    Outcome Diagnostics := do
  let references ← r.inspectReferences c.resolverOptions
  let entities := (r.namesToInspect names).flatMap (r.inspectEntity c skipSamples)
  let selected := if names.isEmpty then none else some names
  return references ++ entities ++
    Diagnostics.ofOutcome "components" (r.components c.publishOptions selected)

end Registry

end SchemaCatalog
