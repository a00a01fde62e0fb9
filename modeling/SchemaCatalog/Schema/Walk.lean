/-
  Walks
  =====
  **Visiting every schema of a document in a fixed order, to a bounded depth.**

  A walk visits a schema before what lies below it, and the tree of the
  root before the trees of the root's definitions; definitions further down
  are not entered.  The root is at depth zero, a definition of the root at
  depth one.  A schema deeper than the limit ends the walk with
  the path to it.

  `Schema.walk` only reads.  `Schema.alter` passes a state along and may
  change each schema as it is visited, before what then lies below it is
  enumerated; where it fails the document keeps the changes made so far.
  Both recurse on the number of levels that are left, and both enumerate
  by `Schema.children`.
-/
import SchemaCatalog.Schema.Children
import SchemaCatalog.Error

namespace SchemaCatalog

/-- How deep a walk goes unless it is told otherwise. -/
def defaultMaxDepth : Nat := 128

/-- The text of a path from the root. -/
def pathText : List String → String
  | [] => "#"
  | path => "#/" ++ "/".intercalate path

/-- What a walk has visited, and the path at which it exceeded its depth, if it did. -/
structure Walk where
  visited : List Schema := []
  exceeded : Option (List String) := none

/-- What an altering walk leaves: the value in its new form, the state, and the path at
    which it exceeded its depth, if it did. -/
structure Altered (σ α : Type) where
  value : α
  state : σ
  exceeded : Option (List String) := none

namespace Schema

/-! ### Reading -/

/-- Walks schemas one after the other, until one walk fails. -/
def walkAll (walk : List String → Schema → Walk) (path : List String) :
    List (String × Schema) → Walk
  | [] => {}
  | (segment, s) :: rest =>
    let first := walk (path ++ [segment]) s
    match first.exceeded with
    | some _ => first
    | none =>
      let others := walkAll walk path rest
      ⟨first.visited ++ others.visited, others.exceeded⟩

/-- Walks the tree below a schema, of which `levels` levels may be entered. -/
def walkTree : Nat → List String → Schema → Walk
  | 0, path, _ => ⟨[], some path⟩
  | levels + 1, path, s =>
    let below := walkAll (walkTree levels) path s.children
    ⟨s :: below.visited, below.exceeded⟩

/-- Walks a document whose schemas may lie at most at depth `maxDepth`. -/
def walk (maxDepth : Nat) (s : Schema) : Walk :=
  let tree := walkTree (maxDepth + 1) [] s
  match tree.exceeded with
  | some _ => tree
  | none =>
    let definitions := walkAll (walkTree maxDepth) [] s.definitionChildren
    ⟨tree.visited ++ definitions.visited, definitions.exceeded⟩

/-- The error of a walk that went too deep. -/
def depthError (maxDepth : Nat) (path : List String) : SchemaError :=
  .depthLimit (pathText path) maxDepth

/-- The reference tokens of a document, in the order of a walk. -/
def refs (maxDepth : Nat) (s : Schema) : Outcome (List String) :=
  let w := s.walk maxDepth
  match w.exceeded with
  | some path => .error (depthError maxDepth path)
  | none => .ok (w.visited.filterMap Schema.ref)

/-! ### Altering -/

section

variable {σ : Type}

/-- Alters schemas one after the other; after a failure the rest stays as it is. -/
def alterAll (alter : List String → σ → Schema → Altered σ Schema) (path : List String)
    (state : σ) : List (String × Schema) → Altered σ (List Schema)
  | [] => ⟨[], state, none⟩
  | (segment, s) :: rest =>
    let first := alter (path ++ [segment]) state s
    match first.exceeded with
    | some e => ⟨first.value :: rest.map (·.2), first.state, some e⟩
    | none =>
      let others := alterAll alter path first.state rest
      ⟨first.value :: others.value, others.state, others.exceeded⟩

/-- Alters the tree below a schema, of which `levels` levels may be entered. -/
def alterTree (visit : σ → Schema → Schema × σ) :
    Nat → List String → σ → Schema → Altered σ Schema
  | 0, path, state, s => ⟨s, state, some path⟩
  | levels + 1, path, state, s =>
    let (s, state) := visit state s
    let below := alterAll (alterTree visit levels) path state s.children
    ⟨s.withChildren below.value, below.state, below.exceeded⟩

/-- Alters a document whose schemas may lie at most at depth `maxDepth`. -/
def alter (visit : σ → Schema → Schema × σ) (maxDepth : Nat) (state : σ) (s : Schema) :
    Altered σ Schema :=
  let tree := alterTree visit (maxDepth + 1) [] state s
  match tree.exceeded with
  | some _ => tree
  | none =>
    let definitions :=
      alterAll (alterTree visit maxDepth) [] tree.state tree.value.definitionChildren
    ⟨tree.value.withDefinitionChildren definitions.value, definitions.state, definitions.exceeded⟩

/-- Hands the reference token of a schema to `f` and puts what it gives back in its place. -/
def visitRef (f : String → StateM σ String) (state : σ) (s : Schema) : Schema × σ :=
  match s.ref with
  | none => (s, state)
  | some token =>
    let (token, state) := f token state
    ({ s with ref := some token }, state)

/-- Hands every reference token of a document to `f`; the state that `f` leaves is passed along. -/
def alterRefs (f : String → StateM σ String) (maxDepth : Nat) (state : σ) (s : Schema) :
    Altered σ Schema :=
  s.alter (visitRef f) maxDepth state

end

/-- Replaces every reference token `t` by `f t`; the document after a failure keeps the
    replacements made so far. -/
def mapRefs (f : String → String) (maxDepth : Nat) (s : Schema) : Altered Unit Schema :=
  s.alter (fun _ s => ({ s with ref := s.ref.map f }, ())) maxDepth ()

end Schema

/-- What an altering walk gives if a depth that is exceeded is an error. -/
def Altered.outcome {σ α : Type} (maxDepth : Nat) (a : Altered σ α) : Outcome (α × σ) :=
  match a.exceeded with
  | some path => .error (Schema.depthError maxDepth path)
  | none => .ok (a.value, a.state)

end SchemaCatalog
