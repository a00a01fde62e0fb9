/-
  Reference graphs
  ================
  **Which registered entities refer to which.**

  The nodes are the registered names.  An entity refers to the names that
  the references of its schema stand for, its own definitions aside; those
  that are registered are its edges, the others dangle.

  Two entities belong to the same cycle when each can be reached from the
  other.  Reachability is decided by `reachFrom`, which keeps a list of the
  nodes that are still new: every node it finds leaves that list, and that
  is what ends the search.
-/
import SchemaCatalog.Resolve

namespace SchemaCatalog

/-- A reference from an entity to a name that is not registered. -/
structure DanglingReference where
  source : String
  target : String
deriving DecidableEq, Repr

structure ReferenceGraph where
  /-- For every registered name the registered names that it refers to, in order. -/
  references : Table (List String) := {}
  /-- The references that lead nowhere, by source and then by target. -/
  dangling : List DanglingReference := []
deriving DecidableEq, Repr

namespace ReferenceGraph

/-! ### The references of a registry -/

/-- The names that an entity refers to outside its own definitions, in order. -/
def targetsOf (o : ResolverOptions) (e : Entity) : Outcome (List String) :=
  if e.hasSchema then do
    let s ← e.readSchema
    let tokens ← s.refs o.maxDepth
    let names := sortedNames (tokens.map (entityIdentifier · o.definitionsPrefix))
    return names.filter fun name => !s.definitions.contains name
  else .ok []

/-- Adds the references of entities, in order. -/
def addEntities (o : ResolverOptions) (r : Registry) (g : ReferenceGraph) :
    List (String × Entity) → Outcome ReferenceGraph
  | [] => .ok g
  | (name, e) :: rest => do
    let targets ← targetsOf o e
    let (known, unknown) := targets.partition r.contains
    addEntities o r
      ⟨g.references.insert name known, g.dangling ++ unknown.map fun t => ⟨name, t⟩⟩ rest

/-- The graph of a registry. -/
def ofRegistry (o : ResolverOptions) (r : Registry) : Outcome ReferenceGraph :=
  addEntities o r {} r.entries

/-- The names, in order. -/
def nodes (g : ReferenceGraph) : List String := g.references.keys

def edgeCount (g : ReferenceGraph) : Nat := g.references.values.foldl (fun n l => n + l.length) 0

/-- The names that an entity refers to, in order. -/
def referencesOf (g : ReferenceGraph) (name : String) : List String :=
  (g.references.get? name).getD []

/-! ### Cycles -/

/-- What can be reached from `pending` through `next` without leaving the nodes in `new`. -/
def reachFrom (next : String → List String) (new : List String) : List String → List String
  | [] => []
  | name :: pending =>
    if name ∈ new then name :: reachFrom next (new.erase name) (next name ++ pending)
    else reachFrom next new pending
termination_by pending => (new.length, pending.length)
decreasing_by
  · -- a node that is found is no longer new
    have shorter := List.length_erase_of_mem ‹name ∈ new›
    have := List.length_pos_of_mem ‹name ∈ new›
    exact Prod.Lex.left _ _ (by omega)
  · exact Prod.Lex.right _ (by simp)

/-- The names that an entity refers to, itself or through others. -/
def reachable (g : ReferenceGraph) (name : String) : List String :=
  reachFrom g.referencesOf g.nodes (g.referencesOf name)

/-- The names that are reached from `name` and reach it. -/
def cycleOf (g : ReferenceGraph) (name : String) : List String :=
  let below := g.reachable name
  g.nodes.filter fun other => below.contains other && (g.reachable other).contains name

/-- The groups of entities that refer to each other, each listed at its first member. -/
def cycles (g : ReferenceGraph) : List (List String) :=
  g.nodes.filterMap fun name =>
    let group := g.cycleOf name
    if group.head? = some name then some group else none

end ReferenceGraph

end SchemaCatalog
