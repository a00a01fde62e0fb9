/-
  References and the definitions they stand for
  =============================================
  **Where a reference can be replaced by the definition that it names.**

  The check follows a reference one step, to a definition of the root, and
  reads that definition as it stands.  The definition put in the place
  of the reference is read once more, so the two can only be the same if
  it is `Direct`: not a flag, not a reference itself and not read through its
  alternatives.  There are two places where a reference is more than a place to descend
  into.  Among alternatives it decides what they stand for together, and a definition that is a
  reference is found by a lookup, which does not follow it.

  Everywhere else the replacement goes unnoticed (`checkShape_replaceAt`).  The
  descents through the two schemas are in lockstep: the schemas that they are at
  are equal, or `Unfolded` below, or the reference and the definition themselves.
-/
import SchemaCatalog.Proofs.Consistency.Lockstep

namespace SchemaCatalog.Consistency

open Schema

/-! ## 1. A reference unfolded somewhere below -/

variable {token : String} {d : Schema}

/-- The second schema is the first one, or the first one with a reference below it replaced by `d`.
    The reference is not itself an alternative. -/
inductive Unfolded (token : String) (d : Schema) : Schema → Schema → Prop where
  | refl (s : Schema) : Unfolded token d s s
  | node {s : Schema} {step : Step} : step.isOneOf = false →
      s.place? step = some (.schema (.reference token)) →
      Unfolded token d s (s.setPlace (.schema d) step)
  | inside {s t t' : Schema} {step : Step} : s.place? step = some (.schema t) →
      Unfolded token d t t' → Unfolded token d s (s.setPlace (.schema t') step)

/-- A reference may also be unfolded in the place itself. -/
inductive Stands (token : String) (d : Schema) : Schema → Schema → Prop where
  | kept {s s' : Schema} : Unfolded token d s s' → Stands token d s s'
  | node : Stands token d (.reference token) d

theorem Unfolded.sameFace {s s' : Schema} (h : Unfolded token d s s') :
    SameFace (Subschema.Rel (Stands token d)) (Subschema.Rel (Unfolded token d)) s s' := by
  have hstands : ∀ place, Subschema.Rel (Stands token d) place place :=
    Subschema.Rel.refl fun s => .kept (.refl s)
  have hunfolded : ∀ place, Subschema.Rel (Unfolded token d) place place :=
    Subschema.Rel.refl .refl
  cases h with
  | refl => exact .refl hstands hunfolded s
  | node hstep hplace =>
    refine sameFace_setPlace hstands hunfolded hplace (.schema .node) fun halternative => ?_
    rw [hstep] at halternative
    cases halternative
  | inside hplace h =>
    exact sameFace_setPlace hstands hunfolded hplace (.schema (.kept h)) fun _ => .schema h

theorem unfolded_replaceAt {before : List Step} {step : Step} {s : Schema}
    (hnode : s.node? (before ++ [step]) = some (.reference token)) (hstep : step.isOneOf = false) :
    Unfolded token d s (s.replaceAt (.schema d) (before ++ [step])) := by
  induction before generalizing s with
  | nil =>
    obtain ⟨t, hplace, hend⟩ := node?_cons_eq_some_iff.mp hnode
    obtain rfl := Option.some.inj hend
    exact .node hstep hplace
  | cons first before ih =>
    obtain ⟨t, hplace, hrest⟩ := node?_cons_eq_some_iff.mp hnode
    rw [List.cons_append, replaceAt_cons _ hplace (by simp)]
    exact .inside hplace (ih hrest)

/-- A schema that is not read as another one or made nullable by its own alternatives. -/
structure Direct (d : Schema) : Prop where
  ref_eq_none : d.ref = none
  references_eq_nil : referencesAmong d.oneOf = []
  null_eq_false : nullAmong d.oneOf = false

/-- The contexts before and after: `token` names `d`, and each definition is unfolded at most below
    itself. -/
structure SameContext (token : String) (d : Schema) (c c' : Context) : Prop where
  options : c'.options = c.options
  direct : Direct d
  names : Names c token d
  definitions : ∀ name, Option.Rel (Subschema.Rel (Unfolded token d))
    (c.root.definitions.get? name) (c'.root.definitions.get? name)

theorem sameContext_replaceAt {o : ConsistencyOptions} {s : Schema} {name : String}
    {before : List Step} {step : Step}
    (hnode : s.node? (before ++ [step]) = some (.reference (o.definitionsPrefix ++ name)))
    (hdefinition : s.definitions.get? name = some (.schema d)) (hdirect : Direct d)
    (hstep : step.isOneOf = false) (hentry : before = [] → step.isDefinition = false) :
    SameContext (o.definitionsPrefix ++ name) d ⟨s, o⟩
      ⟨s.replaceAt (.schema d) (before ++ [step]), o⟩ := by
  refine ⟨rfl, hdirect, ⟨name, rfl, hdefinition⟩, fun key => ?_⟩
  have hrefl : ∀ place, Subschema.Rel (Unfolded (o.definitionsPrefix ++ name) d) place place :=
    Subschema.Rel.refl .refl
  -- a definition changes if the path goes through it, and then only below
  cases before with
  | nil =>
    change Option.Rel _ (s.definitions.get? key) ((s.setPlace _ step).definitions.get? key)
    rw [definitions_setPlace _ (hentry rfl)]
    exact optionRel_refl hrefl _
  | cons first before =>
    obtain ⟨t, hplace, hrest⟩ := node?_cons_eq_some_iff.mp hnode
    have hunfolded := unfolded_replaceAt (d := d) hrest hstep
    rw [List.cons_append, replaceAt_cons _ hplace (by simp)]
    by_cases hfirst : first.isDefinition = true
    · cases first with
      | definition k => exact (Table.Rel.set hrefl hplace (.schema hunfolded)).get? key
      | _ => cases hfirst
    · simp only [definitions_setPlace _ (Bool.not_eq_true _ ▸ hfirst)]
      exact optionRel_refl hrefl _

/-! ## 2. The descents through the two schemas -/

variable {c c' : Context}

/-- **The descents are in lockstep.**  They differ by a lookup where the reference has been
    unfolded. -/
theorem SameContext.lockstep (hc : SameContext token d c c') :
    Lockstep (Stands token d) (Unfolded token d) c c' where
  options := hc.options
  target := by
    intro p s s' h
    cases h with
    | kept h =>
      have hmember : ∀ {s s' : Schema}, Unfolded token d s s' → s'.ref = s.ref ∧ s'.type = s.type :=
        fun h => ⟨h.sameFace.ref, h.sameFace.type⟩
      exact target_alike ⟨hc.options, hc.definitions⟩ hmember h.sameFace.ref h.sameFace.oneOf h
    | node =>
      -- one lookup on this side; on the other side `d` is in its place already
      have hbefore : target c p (.reference token) = .ok (d, false) :=
        target_ok_iff.mpr (.reference rfl hc.names)
      have hafter : target c' p d = .ok (d, false) := by
        rw [target_ok_iff, ← hc.direct.null_eq_false]
        exact .itself hc.direct.ref_eq_none hc.direct.references_eq_nil
      rw [hbefore, hafter]
      exact .ok ⟨.refl d, rfl⟩
  face := by
    intro t t' h
    have hface := h.sameFace
    exact { hface with oneOf := hface.oneOf.imp fun _ _ hplace => hplace.mono fun _ _ => .kept }

/-- The two descents give the same answer from wherever the reference may have been unfolded. -/
theorem descend_eq (hc : SameContext token d c c') (shape : Shape) (p : Position)
    {schema schema' : Option Schema} (h : Option.Rel (Stands token d) schema schema') :
    descend c' schema' p shape = descend c schema p shape :=
  hc.lockstep.descend_eq shape p h

end SchemaCatalog.Consistency

namespace SchemaCatalog.Schema

/-- **A reference can be replaced by the definition it names**, in the root tree or in a definition,
    without any change in what the check says.  The definition must be direct, and the reference
    must not be an alternative or a definition of the root itself. -/
theorem checkShape_replaceAt (o : ConsistencyOptions) (s d : Schema) (shape : Shape)
    (rootName name : String) (before : List Step) (step : Step)
    (hnode : s.node? (before ++ [step]) = some (.reference (o.definitionsPrefix ++ name)))
    (hdefinition : s.definitions.get? name = some (.schema d)) (hdirect : Consistency.Direct d)
    (hstep : step.isOneOf = false) (hentry : before = [] → step.isDefinition = false) :
    (s.replaceAt (.schema d) (before ++ [step])).checkShape o shape rootName =
      s.checkShape o shape rootName := by
  have hcontext :=
    Consistency.sameContext_replaceAt hnode hdefinition hdirect hstep hentry
  have hunfolded := Consistency.unfolded_replaceAt (d := d) hnode hstep
  exact Consistency.descend_eq hcontext shape (.root rootName) (.some (.kept hunfolded))

/-- A chain of links: the definition of a link refers to itself. -/
def chainSchema : Schema where
  type := some (.single "object")
  properties := ⟨[("first", .schema (.reference "#/definitions/Link"))]⟩
  definitions := ⟨[("Link", .schema {
    type := some (.union ["object", "null"])
    properties := ⟨[("next", .schema (.reference "#/definitions/Link"))]⟩ })]⟩

/-- The reference inside the definition of a link is replaced by that definition. -/
theorem chain_checkShape_replaceAt :
    ∃ link, chainSchema.definitions.get? "Link" = some (.schema link) ∧ Consistency.Direct link ∧
    chainSchema.node? [.definition "Link", .property "next"] =
      some (.reference "#/definitions/Link") ∧
    ∀ shape rootName,
      (chainSchema.replaceAt (.schema link) [.definition "Link", .property "next"]).checkShape {}
        shape rootName = chainSchema.checkShape {} shape rootName := by
  refine ⟨_, rfl, ⟨rfl, rfl, rfl⟩, rfl, fun shape rootName => ?_⟩
  exact checkShape_replaceAt {} chainSchema _ shape rootName "Link" [.definition "Link"]
    (.property "next") (by decide) rfl ⟨rfl, rfl, rfl⟩ rfl nofun

/-! ## 3. References that are not transparent -/

/-- An object with one property `p`. -/
def withProperty (p : Schema) (definitions : Definitions) : Schema where
  type := some (.single "object")
  properties := ⟨[("p", .schema p)]⟩
  definitions := definitions

def refA : Schema := .reference "#/definitions/A"

def refB : Schema := .reference "#/definitions/B"

def nullableB : Schema := { oneOf := [.schema (.ofType "null"), .schema refB] }

/-- What the check says of a record with one field `p` before and after a reference to the definition
    `A` is replaced by that definition. -/
def verdicts (s : Schema) (path : List Step) (p : Shape) :
    Option (Outcome Unit × Outcome Unit) := do
  let node ← s.node? path
  let definition ← s.definitions.get? "A"
  if node = refA then
    let shape := Shape.record [.ofName "p" p]
    some (s.checkShape {} shape "Root", (s.replaceAt definition path).checkShape {} shape "Root")
  else none

/-- **There are places where a reference does not stand for what it names.** -/
theorem references_not_transparent :
    -- it names another reference
    verdicts (withProperty refA ⟨[("A", .schema refB), ("B", .schema (.ofType "string"))]⟩)
      [.property "p"] .string = some (.error (.missingType "Root.p"), .ok ()) ∧
    -- it names a flag
    verdicts (withProperty refA ⟨[("A", .flag true)]⟩)
      [.property "p"] .string = some (.error (.unresolvedReference "A"), .ok ()) ∧
    -- it names a nullable reference
    verdicts (withProperty refA ⟨[("A", .schema nullableB), ("B", .schema (.ofType "string"))]⟩)
      [.property "p"] Shape.string.orAbsent = some (.error (.missingType "Root.p"), .ok ()) ∧
    -- it is an alternative
    verdicts (withProperty { oneOf := [.schema (.ofType "null"), .schema refA] }
        ⟨[("A", .schema (.ofType "string"))]⟩)
      [.property "p", .oneOf 1] Shape.string.orAbsent =
        some (.ok (), .error (.missingType "Root.p")) ∧
    -- it is a definition of the root
    verdicts (withProperty refB ⟨[("A", .schema (.ofType "string")), ("B", .schema refA)]⟩)
      [.definition "B"] .string = some (.error (.missingType "Root.p"), .ok ()) := by
  decide

end SchemaCatalog.Schema
