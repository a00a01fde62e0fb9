/-
  There and back again
  ====================
  **Carrying references over to another prefix can be undone.**

  The name of a token is what follows the prefix that it is to leave, if it begins with that one.
  On the way there this is the first prefix and on the way back the second one, so neither
  time it matters that a token may begin with both.  A document whose tokens
  all begin with the first prefix is restored exactly (`retargetRefs_reversible`).

  Nothing but tokens has to be restored.  What a walk replaces are the tokens at the ends of the paths
  whose first step alone may lead to a definition; whatever lies behind a later step into
  definitions is out of its reach.
-/
import SchemaCatalog.Resolve
import SchemaCatalog.Proofs.Reference
import SchemaCatalog.Proofs.Schema.Addressing
import SchemaCatalog.Proofs.Schema.Remapping

namespace SchemaCatalog.Schema

variable {source target : String} {maxDepth : Nat} {s : Schema}

/-- The way back succeeds, since the document is as deep as before, and meets the tokens of the
    way there. -/
theorem retargetRefs_back (hsource : source ≠ "") (htarget : target ≠ "")
    (hwalk : (s.walk maxDepth).exceeded = none)
    (htokens : ∀ token, s.RefersTo token → ∃ name, token = source ++ name) :
    (s.mapReached (retargetToken source target)).retargetRefs target source maxDepth =
      ⟨s, (), none⟩ := by
  apply mapRefs_ok_iff.mpr
  constructor
  · rw [walk_mapReached_exceeded, hwalk]
  · rw [mapReached_mapReached]
    symm
    rw [mapReached_eq_self_iff]
    intro token htoken
    obtain ⟨name, rfl⟩ := htokens token htoken
    exact retargetToken_back hsource htarget name

/-- **Retargeting can be undone and touches only tokens.**  If all tokens that a walk collects begin
    with the first of two prefixes, they can be carried over to the second one, and carrying them
    back gives the document there was, even if one of the prefixes begins with the other.

    Whatever the prefixes and the tokens: where retargeting succeeds, the document is
    mapped.  At the end of a path that enters definitions with its first step or not at all stands
    the schema that was there, with its token replaced; what is found behind any later step into
    definitions is the same as before. -/
theorem retargetRefs_reversible (source target : String) (maxDepth : Nat) (s : Schema) :
    (∀ tokens, s.refs maxDepth = .ok tokens → source ≠ "" → target ≠ "" →
      (∀ token ∈ tokens, ∃ name, token = source ++ name) →
      ∃ out, s.retargetRefs source target maxDepth = ⟨out, (), none⟩ ∧
        out.retargetRefs target source maxDepth = ⟨s, (), none⟩) ∧
    ∀ out, s.retargetRefs source target maxDepth = ⟨out, (), none⟩ →
      out = s.mapReached (retargetToken source target) ∧
      (∀ path, Descends path.tail →
        (out.node? path).map ref =
          (s.node? path).map fun t => t.ref.map (retargetToken source target)) ∧
      ∀ first before name rest,
        out.node? (first :: before ++ .definition name :: rest) =
          s.node? (first :: before ++ .definition name :: rest) := by
  constructor
  · intro tokens hrefs hsource htarget htokens
    obtain ⟨hwalk, _⟩ := refs_ok_iff.mp hrefs
    refine ⟨_, mapRefs_ok_iff.mpr ⟨hwalk, rfl⟩, ?_⟩
    apply retargetRefs_back hsource htarget hwalk
    intro token htoken
    exact htokens token ((mem_refs_iff hrefs).mpr htoken)
  · intro out h
    obtain ⟨_, rfl⟩ := mapRefs_ok_iff.mp h
    refine ⟨rfl, ?_, ?_⟩
    · intro path hpath
      exact ref_node?_mapReached _ hpath s
    · intro first before name rest
      exact node?_mapReached_of_enters _ first before name rest s

/-- A chapter that refers to another one by a name with a slash in it, and a definition that has a
    definition of its own. -/
def chapterSchema : Schema where
  properties := ⟨[("next", .schema (.reference "#/definitions/book/Chapter"))]⟩
  definitions := ⟨[("Note", .schema {
    ref := some "#/Chapter"
    definitions := ⟨[("Page", .schema (.reference "#/Chapter"))]⟩ })]⟩

/-- One prefix is a beginning of the other, and the token in the nested definition stays. -/
theorem chapterSchema_reversible :
    ∃ tokens, chapterSchema.refs defaultMaxDepth = .ok tokens ∧
    (∀ token ∈ tokens, ∃ name, token = "#/" ++ name) ∧
    ∃ out, chapterSchema.retargetRefs "#/" "#/definitions/" defaultMaxDepth = ⟨out, (), none⟩ ∧
      out.retargetRefs "#/definitions/" "#/" defaultMaxDepth = ⟨chapterSchema, (), none⟩ ∧
      (out.node? [.property "next"]).map ref =
        some (some "#/definitions/definitions/book/Chapter") ∧
      (out.node? [.definition "Note"]).map ref = some (some "#/definitions/Chapter") ∧
      (out.node? [.definition "Note", .definition "Page"]).map ref = some (some "#/Chapter") := by
  have hrefs : chapterSchema.refs defaultMaxDepth =
      .ok ["#/definitions/book/Chapter", "#/Chapter"] := by
    rfl
  have htokens : ∀ token ∈ ["#/definitions/book/Chapter", "#/Chapter"],
      ∃ name, token = "#/" ++ name := by
    simp only [List.forall_mem_cons]
    exact ⟨⟨"definitions/book/Chapter", rfl⟩, ⟨"Chapter", rfl⟩, nofun⟩
  obtain ⟨hback, hchanges⟩ :=
    retargetRefs_reversible "#/" "#/definitions/" defaultMaxDepth chapterSchema
  obtain ⟨out, hthere, hreturn⟩ := hback _ hrefs (by decide) (by decide) htokens
  obtain ⟨_, hreplaced, hkept⟩ := hchanges out hthere
  refine ⟨_, hrefs, htokens, out, hthere, hreturn, ?_, ?_, ?_⟩
  · rw [hreplaced [.property "next"] nofun]
    decide
  · rw [hreplaced [.definition "Note"] nofun]
    decide
  · have hpage := hkept (.definition "Note") [] "Page" []
    exact congrArg (Option.map ref) hpage

end SchemaCatalog.Schema
