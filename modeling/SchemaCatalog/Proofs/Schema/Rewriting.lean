/-
  Rewriting references
  ====================
  **The walk that rewrites references is the walk that reads them, with the tokens
  replaced.**

  The altering walk enumerates the schemas below a schema and puts other schemas in
  their places.  Enumerating and filling go through the places each on its own, so
  it has to be shown that they fit together (`fits_children`): what has been put below
  a schema is what is found there, under the same segments (`Fits.found`), and other
  schemas can be put there as if it had never been there (`Fits.map_fill`).

  With that a walk that hands every token to a function, state and all, can be followed step by
  step (`Follows`).  It goes exactly as deep as a walk that reads; the function is called
  on the tokens that are read, in their order, once for each of them; and a walk that
  reads afterwards finds what the function gave back (`alterRefs_replaces`).
-/
import SchemaCatalog.Proofs.Outcome
import SchemaCatalog.Proofs.Schema.Mapping

namespace SchemaCatalog.Schema

/-! ## 1. Places that are filled again -/

/-- Two enumerations with the same segments, and so with as many schemas. -/
def Alike (l m : List (String × Schema)) : Prop := l.map (·.1) = m.map (·.1)

theorem Alike.exists_append {news l m : List (String × Schema)} (h : Alike news (l ++ m)) :
    ∃ first second, news = first ++ second ∧ Alike first l ∧ Alike second m := by
  rw [Alike, List.map_append] at h
  exact List.map_eq_append_iff.mp h

section

variable {α β : Type} {below : α → List (String × Schema)}
  {fill : α → List Schema → α × List Schema} {below' : β → List (String × Schema)}
  {fill' : β → List Schema → β × List Schema}

/-- **Filling and enumerating fit together.**  Schemas for the segments of those below `a` can be
    put in their places.  They are then what is found there, what follows them in the list is
    left over, and others can take their places as if they had never been there. -/
def Fits (below : α → List (String × Schema)) (fill : α → List Schema → α × List Schema)
    (a : α) : Prop :=
  ∀ news, Alike news (below a) → ∃ filled,
    (∀ rest, fill a (news.map (·.2) ++ rest) = (filled, rest)) ∧ below filled = news ∧
    ∀ others, Alike others (below a) → ∀ rest,
      fill filled (others.map (·.2) ++ rest) = fill a (others.map (·.2) ++ rest)

/-- Fills one thing and then another. -/
def fillBoth (fill : α → List Schema → α × List Schema) (fill' : β → List Schema → β × List Schema)
    (p : α × β) (l : List Schema) : (α × β) × List Schema :=
  let (a, l) := fill p.1 l
  let (b, l) := fill' p.2 l
  ((a, b), l)

theorem fits_of_empty {a : α} (hbelow : below a = []) (hfill : ∀ l, fill a l = (a, l)) :
    Fits below fill a := by
  intro news hnews
  rw [hbelow] at hnews
  obtain rfl : news = [] := List.map_eq_nil_iff.mp hnews
  exact ⟨a, fun rest => hfill rest, hbelow, fun _ _ _ => rfl⟩

theorem Fits.both {a : α} {b : β} (ha : Fits below fill a) (hb : Fits below' fill' b) :
    Fits (fun p => below p.1 ++ below' p.2) (fillBoth fill fill') (a, b) := by
  intro news hnews
  obtain ⟨first, second, rfl, hfirst, hsecond⟩ := hnews.exists_append
  obtain ⟨a', hfill, hfound, hagain⟩ := ha first hfirst
  obtain ⟨b', hfill', hfound', hagain'⟩ := hb second hsecond
  refine ⟨(a', b'), fun rest => ?_, ?_, fun others hothers rest => ?_⟩
  · simp only [fillBoth, List.map_append, List.append_assoc, hfill, hfill']
  · exact congrArg₂ (· ++ ·) hfound hfound'
  · obtain ⟨first, second, rfl, hfirst, hsecond⟩ := hothers.exists_append
    obtain ⟨a'', hlast, -⟩ := ha first hfirst
    simp only [fillBoth, List.map_append, List.append_assoc, hagain first hfirst, hlast,
      hagain' second hsecond]

/-- What fits inside something fits there if enumerating and filling leave the rest of it alone. -/
theorem Fits.inside {a : α} (h : Fits below fill a) (e : α → β) {b : β} (hb : e a = b)
    (hbelow : ∀ a, below' (e a) = below a)
    (hfill : ∀ a l, fill' (e a) l = (e (fill a l).1, (fill a l).2)) : Fits below' fill' b := by
  subst hb
  intro news hnews
  rw [hbelow] at hnews
  obtain ⟨filled, hnew, hfound, hagain⟩ := h news hnews
  refine ⟨e filled, fun rest => ?_, ?_, fun others hothers rest => ?_⟩
  · rw [hfill, hnew]
  · rw [hbelow, hfound]
  · rw [hbelow] at hothers
    rw [hfill, hfill, hagain others hothers]

/-- What has been put in the places is what is found there. -/
theorem Fits.found {a : α} (h : Fits below fill a) {news : List (String × Schema)}
    (hnews : Alike news (below a)) : below (fill a (news.map (·.2))).1 = news := by
  obtain ⟨filled, hfill, hfound, -⟩ := h news hnews
  have hall := hfill []
  rw [List.append_nil] at hall
  rw [hall, hfound]

/-- A map of what lies in the places does not see what has been put there, if that has the same
    images. -/
theorem Fits.map_fill {a : α} (h : Fits below fill a) {g : Schema → Schema} {mapped : α → α}
    (hmapped : ∀ a, (fill a ((below a).map fun e => g e.2)).1 = mapped a)
    {news : List (String × Schema)} (hnews : Alike news (below a))
    (hsame : (news.map fun e => g e.2) = (below a).map fun e => g e.2) :
    mapped (fill a (news.map (·.2))).1 = mapped a := by
  obtain ⟨filled, hfill, hfound, hagain⟩ := h news hnews
  have hall := hfill []
  have himages := hagain (news.map fun e => (e.1, g e.2))
    (by rwa [Alike, List.map_map]) []
  simp only [List.append_nil, List.map_map, Function.comp_def] at hall himages
  rw [hall, ← hmapped, hfound, himages, hsame, hmapped]

end

/-- A place fits, whatever stands in it. -/
theorem fits_place (segment : String) (place : Subschema Schema) :
    Fits (fun place => childOf segment (some place)) fill place := by
  cases place with
  | flag b => exact fits_of_empty rfl fun _ => rfl
  | schema s =>
    intro news hnews
    obtain ⟨e, rfl, rfl⟩ : ∃ e, news = [e] ∧ e.1 = segment := by
      obtain ⟨e, rest, rfl, he, hrest⟩ := List.map_eq_cons_iff.mp hnews
      exact ⟨e, by rw [List.map_eq_nil_iff.mp hrest], he⟩
    refine ⟨.schema e.2, fun _ => rfl, rfl, fun others hothers rest => ?_⟩
    obtain ⟨o, _, rfl, _, _⟩ := List.map_eq_cons_iff.mp hothers
    rfl

theorem fits_option (segment : String) (place : Option (Subschema Schema)) :
    Fits (childOf segment) fillOption place := by
  cases place with
  | none => exact fits_of_empty rfl fun _ => rfl
  | some place => exact (fits_place segment place).inside some rfl (fun _ => rfl) fun _ _ => rfl

/-- The members of a list from position `n` on. -/
def childrenFrom (keyword : String) (n : Nat) (l : List (Subschema Schema)) :
    List (String × Schema) :=
  (l.zipIdx n).filterMap fun (s, i) => s.schema?.map fun s => (keyword ++ "/" ++ Nat.repr i, s)

theorem fits_list (keyword : String) (n : Nat) (l : List (Subschema Schema)) :
    Fits (childrenFrom keyword n) fillList l := by
  induction l generalizing n with
  | nil => exact fits_of_empty rfl fun _ => rfl
  | cons place l ih =>
    refine ((fits_place (keyword ++ "/" ++ Nat.repr n) place).both (ih (n + 1))).inside
      (fun p => p.1 :: p.2) rfl (fun p => ?_) fun _ _ => rfl
    rw [childrenFrom, List.zipIdx_cons, List.filterMap_cons]
    obtain ⟨_ | _, _⟩ := p <;> rfl

theorem fits_entries (keyword : String) (l : List (String × Subschema Schema)) :
    Fits (fun l => childrenOfTable keyword ⟨l⟩) fillEntries l := by
  induction l with
  | nil => exact fits_of_empty rfl fun _ => rfl
  | cons e l ih =>
    obtain ⟨name, place⟩ := e
    refine ((fits_place (keyword ++ "/" ++ name) place).both ih).inside
      (fun p => (name, p.1) :: p.2) rfl (fun p => ?_) fun _ _ => rfl
    rw [childrenOfTable, List.filterMap_cons]
    obtain ⟨_ | _, _⟩ := p <;> rfl

theorem fits_items (items : Option (Items Schema)) : Fits childrenOfItems fillItems items := by
  rcases items with _ | (place | l)
  · exact fits_of_empty rfl fun _ => rfl
  · exact (fits_place "items" place).inside (fun place => some (.each place)) rfl (fun _ => rfl)
      fun _ _ => rfl
  · exact (fits_list "items" 0 l).inside (fun l => some (.tuple l)) rfl (fun _ => rfl)
      fun _ _ => rfl

/-- What a schema has under the keywords below which other schemas lie, in their order. -/
def parts (s : Schema) :=
  ((((((((s.additionalItems, s.items), s.contains), s.additionalProperties),
    s.properties.entries), s.allOf), s.anyOf), s.oneOf), s.not)

/-- The schema with something else under these keywords. -/
def withParts (s : Schema) :
    (((((((Option (Subschema Schema) × Option (Items Schema)) × Option (Subschema Schema)) ×
      Option (Subschema Schema)) × List (String × Subschema Schema)) ×
      List (Subschema Schema)) × List (Subschema Schema)) × List (Subschema Schema)) ×
      Option (Subschema Schema) → Schema
  | ((((((((additionalItems, items), contains), additionalProperties), properties), allOf), anyOf),
      oneOf), not) =>
    { s with
      additionalItems, items, contains, additionalProperties, properties := ⟨properties⟩, allOf
      anyOf, oneOf, not }

theorem withParts_parts (s : Schema) : s.withParts s.parts = s := by
  cases s
  rfl

/-- Fills the keywords one after the other. -/
def fillParts := fillBoth (fillBoth (fillBoth (fillBoth (fillBoth (fillBoth (fillBoth
  (fillBoth fillOption fillItems) fillOption) fillOption) fillEntries) fillList) fillList)
  fillList) fillOption

/-- **The places below a schema fit.** -/
theorem fits_children (s : Schema) :
    Fits children (fun s l => (s.withChildren l, (fillParts s.parts l).2)) s := by
  have hparts := ((((((((fits_option "additionalItems" s.additionalItems).both
    (fits_items s.items)).both (fits_option "contains" s.contains)).both
    (fits_option "additionalProperties" s.additionalProperties)).both
    (fits_entries "properties" s.properties.entries)).both (fits_list "allOf" 0 s.allOf)).both
    (fits_list "anyOf" 0 s.anyOf)).both (fits_list "oneOf" 0 s.oneOf)).both
    (fits_option "not" s.not)
  exact hparts.inside s.withParts s.withParts_parts (fun _ => rfl) fun _ _ => rfl

/-- **The places of the definitions fit.** -/
theorem fits_definitionChildren (s : Schema) :
    Fits definitionChildren
      (fun s l => (s.withDefinitionChildren l, (fillEntries s.definitions.entries l).2)) s :=
  (fits_entries "definitions" s.definitions.entries).inside
    (fun entries => { s with definitions := ⟨entries⟩ }) (by cases s; rfl) (fun _ => rfl)
    fun _ _ => rfl

/-! ## 2. Tokens, one after the other -/

section

variable {σ : Type} (f : String → StateM σ String)

/-- Hands tokens to `f`, one after the other. -/
def replaceEach (tokens : List String) (state : σ) : List String × σ := (tokens.mapM f).run state

theorem replaceEach_append (l m : List String) (state : σ) :
    replaceEach f (l ++ m) state =
      ((replaceEach f l state).1 ++ (replaceEach f m (replaceEach f l state).2).1,
        (replaceEach f m (replaceEach f l state).2).2) := by
  rw [replaceEach, List.mapM_append]
  rfl

/-- Without a state the tokens are mapped. -/
theorem replaceEach_pure (g : String → String) (tokens : List String) :
    replaceEach (fun token => pure (g token)) tokens () = (tokens.map g, ()) := by
  rw [replaceEach, List.mapM_pure]
  rfl

/-- What a visit does to a schema is what is done to its token, if it has one. -/
theorem replaceEach_visitRef (state : σ) (s : Schema) :
    replaceEach f s.ref.toList state =
      ((visitRef f state s).1.ref.toList, (visitRef f state s).2) := by
  rw [visitRef]
  cases href : s.ref with
  | none =>
    rw [href]
    rfl
  | some token => rfl

theorem children_visitRef (state : σ) (s : Schema) :
    (visitRef f state s).1.children = s.children := by
  rw [visitRef]
  cases s.ref <;> rfl

theorem definitions_visitRef (state : σ) (s : Schema) :
    (visitRef f state s).1.definitions = s.definitions := by
  rw [visitRef]
  cases s.ref <;> rfl

end

/-- The tokens of the schemas that a walk has visited. -/
def tokensOf (w : Walk) : List String := w.visited.filterMap ref

theorem refs_of_within {maxDepth : Nat} {s : Schema} (h : (s.walk maxDepth).exceeded = none) :
    s.refs maxDepth = .ok (tokensOf (s.walk maxDepth)) :=
  refs_ok_iff.mpr ⟨h, rfl⟩

theorem refs_of_exceeded {maxDepth : Nat} {s : Schema} {path : List String}
    (h : (s.walk maxDepth).exceeded = some path) :
    s.refs maxDepth = .error (depthError maxDepth path) := by
  simp only [refs, h]

/-! ## 3. One walk beside another -/

/-- **An altering walk beside a walk that reads what there was before and one that reads what there
    is now.**  All three end alike, and if they succeed the tokens that are read now are those
    that were read before, each of them replaced in its turn. -/
structure Follows {σ : Type} (f : String → StateM σ String) (state final : σ)
    (exceeded : Option (List String)) (before after : Walk) : Prop where
  before_exceeded : before.exceeded = exceeded
  after_exceeded : after.exceeded = exceeded
  replaced : exceeded = none → replaceEach f (tokensOf before) state = (tokensOf after, final)

section

variable {σ : Type} {f : String → StateM σ String}

/-- Where the walks fail nothing is said of the tokens. -/
theorem Follows.of_exceeded {state final : σ} {last : List String} {before after : Walk}
    (hbefore : before.exceeded = some last) (hafter : after.exceeded = some last) :
    Follows f state final (some last) before after := by
  refine ⟨hbefore, hafter, ?_⟩
  intro h
  cases h

/-- **Walks one after the other.** -/
theorem exists_follows_alterAll {alter : List String → σ → Schema → Altered σ Schema}
    {walk : List String → Schema → Walk}
    (each : ∀ path state s, Follows f state (alter path state s).state
      (alter path state s).exceeded (walk path s) (walk path (alter path state s).value))
    (path : List String) (state : σ) (l : List (String × Schema)) :
    ∃ news, Alike news l ∧ news.map (·.2) = (alterAll alter path state l).value ∧
      Follows f state (alterAll alter path state l).state (alterAll alter path state l).exceeded
        (walkAll walk path l) (walkAll walk path news) := by
  induction l generalizing state with
  | nil => exact ⟨[], rfl, rfl, rfl, rfl, fun _ => rfl⟩
  | cons e rest ih =>
    obtain ⟨segment, s⟩ := e
    obtain ⟨hbefore, hafter, hreplaced⟩ := each (path ++ [segment]) state s
    rw [alterAll]
    cases hfirst : (alter (path ++ [segment]) state s).exceeded with
    | some last =>
      rw [hfirst] at hbefore hafter
      refine ⟨(segment, (alter (path ++ [segment]) state s).value) :: rest, rfl, rfl,
        .of_exceeded ?_ ?_⟩
      · simp only [walkAll, hbefore]
      · simp only [walkAll, hafter]
    | none =>
      rw [hfirst] at hbefore hafter
      obtain ⟨news, hnews, hvalue, hothers⟩ := ih (alter (path ++ [segment]) state s).state
      refine ⟨(segment, (alter (path ++ [segment]) state s).value) :: news,
        congrArg (segment :: ·) hnews, congrArg (_ :: ·) hvalue, ?_, ?_, fun h => ?_⟩
      · simp only [walkAll, hbefore, hothers.before_exceeded]
      · simp only [walkAll, hafter, hothers.after_exceeded]
      · simp only [walkAll, hbefore, hafter, tokensOf, List.filterMap_append]
        have hrest := hothers.replaced h
        simp only [tokensOf] at hrest hreplaced
        rw [replaceEach_append, hreplaced hfirst, hrest]

theorem tokensOf_cons (s : Schema) (w : Walk) (exceeded : Option (List String)) :
    tokensOf ⟨s :: w.visited, exceeded⟩ = s.ref.toList ++ tokensOf w := by
  rw [tokensOf, List.filterMap_cons]
  cases s.ref <;> rfl

/-- **Walks of a tree.** -/
theorem follows_alterTree (levels : Nat) (path : List String) (state : σ) (s : Schema) :
    Follows f state (alterTree (visitRef f) levels path state s).state
      (alterTree (visitRef f) levels path state s).exceeded (walkTree levels path s)
      (walkTree levels path (alterTree (visitRef f) levels path state s).value) := by
  induction levels generalizing path state s with
  | zero => exact .of_exceeded rfl rfl
  | succ levels ih =>
    obtain ⟨news, hnews, hvalue, hbefore, hafter, hreplaced⟩ :=
      exists_follows_alterAll ih path (visitRef f state s).2 (visitRef f state s).1.children
    have hfound := (fits_children _).found hnews
    simp only [hvalue] at hfound
    have hwalk : (walkTree (levels + 1) path s) =
        ⟨s :: (walkAll (walkTree levels) path (visitRef f state s).1.children).visited,
          (walkAll (walkTree levels) path (visitRef f state s).1.children).exceeded⟩ := by
      rw [walkTree, children_visitRef]
    rw [hwalk]
    refine ⟨hbefore, ?_, fun h => ?_⟩
    · simp only [alterTree, walkTree, hfound, hafter]
    · simp only [alterTree, walkTree, hfound, tokensOf_cons]
      rw [replaceEach_append, replaceEach_visitRef, hreplaced h]
      rfl

theorem definitions_alterTree (levels : Nat) (path : List String) (state : σ) (s : Schema) :
    (alterTree (visitRef f) levels path state s).value.definitions = s.definitions := by
  cases levels with
  | zero => rfl
  | succ levels => exact definitions_visitRef f state s

/-- The walk of a tree does not see the definitions of its root. -/
theorem walkTree_withDefinitionChildren (levels : Nat) (path : List String) (s : Schema)
    (l : List Schema) :
    (walkTree levels path (s.withDefinitionChildren l)).exceeded =
        (walkTree levels path s).exceeded ∧
      tokensOf (walkTree levels path (s.withDefinitionChildren l)) =
        tokensOf (walkTree levels path s) := by
  cases levels with
  | zero => exact ⟨rfl, rfl⟩
  | succ levels =>
    refine ⟨rfl, ?_⟩
    rw [walkTree, walkTree, tokensOf_cons, tokensOf_cons]
    rfl

theorem tokensOf_walk {maxDepth : Nat} {s : Schema}
    (h : (walkTree (maxDepth + 1) [] s).exceeded = none) :
    tokensOf (s.walk maxDepth) = tokensOf (walkTree (maxDepth + 1) [] s) ++
      tokensOf (walkAll (walkTree maxDepth) [] s.definitionChildren) := by
  rw [tokensOf, walk_visited_eq h, List.filterMap_append]
  rfl

/-- **Walks of a document.** -/
theorem follows_alterRefs (maxDepth : Nat) (state : σ) (s : Schema) :
    Follows f state (s.alterRefs f maxDepth state).state (s.alterRefs f maxDepth state).exceeded
      (s.walk maxDepth) ((s.alterRefs f maxDepth state).value.walk maxDepth) := by
  obtain ⟨hbefore, hafter, hreplaced⟩ := follows_alterTree (f := f) (maxDepth + 1) [] state s
  rw [alterRefs, alter]
  cases htree : (alterTree (visitRef f) (maxDepth + 1) [] state s).exceeded with
  | some last =>
    rw [htree] at hbefore hafter
    simp only [htree]
    refine .of_exceeded ?_ ?_
    · rw [walk_exceeded_eq, hbefore, Option.some_or]
    · rw [walk_exceeded_eq, hafter, Option.some_or]
  | none =>
    rw [htree] at hbefore hafter
    obtain ⟨news, hnews, hvalue, hdefinitions⟩ :=
      exists_follows_alterAll (follows_alterTree maxDepth) []
        (alterTree (visitRef f) (maxDepth + 1) [] state s).state
        (alterTree (visitRef f) (maxDepth + 1) [] state s).value.definitionChildren
    have hfound := (fits_definitionChildren _).found hnews
    simp only [hvalue] at hfound
    have hsame : (alterTree (visitRef f) (maxDepth + 1) [] state s).value.definitionChildren =
        s.definitionChildren := by
      rw [definitionChildren, definitions_alterTree, definitionChildren]
    rw [hsame] at hnews hvalue hdefinitions hfound
    simp only [hsame]
    obtain ⟨hexceeded, htokens⟩ := walkTree_withDefinitionChildren (maxDepth + 1) []
      (alterTree (visitRef f) (maxDepth + 1) [] state s).value
      (alterAll (alterTree (visitRef f) maxDepth) []
        (alterTree (visitRef f) (maxDepth + 1) [] state s).state s.definitionChildren).value
    refine ⟨?_, ?_, fun h => ?_⟩
    · rw [walk_exceeded_eq, hbefore, Option.none_or, hdefinitions.before_exceeded]
    · rw [walk_exceeded_eq, hexceeded, hafter, Option.none_or, hfound, hdefinitions.after_exceeded]
    · rw [tokensOf_walk hbefore, tokensOf_walk (hexceeded.trans hafter), htokens, hfound,
        replaceEach_append, hreplaced htree, hdefinitions.replaced h]

/-! ## 4. Nothing but tokens -/

/-- The schemas that walks one after the other leave have the images of those that were there, if
    each of the walks keeps them. -/
theorem map_alterAll_value {alter : List String → σ → Schema → Altered σ Schema}
    {g : Schema → Schema} (each : ∀ path state s, g (alter path state s).value = g s)
    (path : List String) (state : σ) (l : List (String × Schema)) :
    (alterAll alter path state l).value.map g = l.map fun e => g e.2 := by
  induction l generalizing state with
  | nil => rfl
  | cons e rest ih =>
    obtain ⟨segment, s⟩ := e
    rw [alterAll]
    cases hfirst : (alter (path ++ [segment]) state s).exceeded with
    | some last => simp only [List.map_cons, List.map_map, each, Function.comp_def]
    | none => simp only [List.map_cons, each, ih]

variable (token : String)

theorem mapTree_visitRef (state : σ) (s : Schema) :
    (visitRef f state s).1.mapTree (fun _ => token) = s.mapTree fun _ => token := by
  rw [visitRef]
  cases href : s.ref with
  | none => rfl
  | some _ =>
    rw [mapTree_eq, mapTree_eq, href]
    rfl

theorem mapTree_withChildren {g : String → String} {s : Schema} {news : List (String × Schema)}
    (hnews : Alike news s.children)
    (hsame : (news.map fun e => e.2.mapTree g) = s.children.map fun e => e.2.mapTree g) :
    (s.withChildren (news.map (·.2))).mapTree g = s.mapTree g := by
  have hmap := (fits_children s).map_fill (withChildren_map (mapTree g)) hnews hsame
  rw [mapTree_eq, mapTree_eq]
  exact congrArg (fun t : Schema => { t with ref := s.ref.map g }) hmap

/-- **Where all tokens are made the same, a tree is what it was.** -/
theorem mapTree_alterTree (levels : Nat) (path : List String) (state : σ) (s : Schema) :
    (alterTree (visitRef f) levels path state s).value.mapTree (fun _ => token) =
      s.mapTree fun _ => token := by
  induction levels generalizing path state s with
  | zero => rfl
  | succ levels ih =>
    obtain ⟨news, hnews, hvalue, -⟩ := exists_follows_alterAll (follows_alterTree levels) path
      (visitRef f state s).2 (visitRef f state s).1.children
    have himages := map_alterAll_value ih path (visitRef f state s).2
      (visitRef f state s).1.children
    rw [← hvalue, List.map_map] at himages
    simp only [alterTree, ← hvalue]
    rw [mapTree_withChildren hnews himages, mapTree_visitRef]

/-- Definitions with the same images can take the place of those that were there. -/
theorem mapReached_withDefinitionChildren {g : String → String} {s t : Schema}
    (htree : s.mapTree g = t.mapTree g) {news : List (String × Schema)}
    (hnews : Alike news s.definitionChildren)
    (hsame : (news.map fun e => e.2.mapTree g) = s.definitionChildren.map fun e => e.2.mapTree g) :
    (s.withDefinitionChildren (news.map (·.2))).mapReached g = t.mapReached g := by
  have hmap := (fits_definitionChildren s).map_fill (withDefinitionChildren_map (mapTree g)) hnews
    hsame
  rw [mapReached, mapReached, ← htree, withDefinitionChildren, mapTree_definitions, mapDefined,
    mapDefined, definitions_mapTree]
  exact congrArg (fun d => { s.mapTree g with definitions := d })
    (congrArg Schema.definitions hmap)

/-- **Where all tokens are made the same, a document is what it was.** -/
theorem mapReached_alterRefs (maxDepth : Nat) (state : σ) (s : Schema) :
    (s.alterRefs f maxDepth state).value.mapReached (fun _ => token) =
      s.mapReached fun _ => token := by
  rw [alterRefs, alter]
  have htree := mapTree_alterTree (f := f) token (maxDepth + 1) [] state s
  cases hexceeded : (alterTree (visitRef f) (maxDepth + 1) [] state s).exceeded with
  | some last =>
    rw [mapReached, mapReached, htree]
  | none =>
    obtain ⟨news, hnews, hvalue, -⟩ :=
      exists_follows_alterAll (follows_alterTree (f := f) maxDepth) []
        (alterTree (visitRef f) (maxDepth + 1) [] state s).state
        (alterTree (visitRef f) (maxDepth + 1) [] state s).value.definitionChildren
    have himages := map_alterAll_value (mapTree_alterTree (f := f) token maxDepth) []
      (alterTree (visitRef f) (maxDepth + 1) [] state s).state
      (alterTree (visitRef f) (maxDepth + 1) [] state s).value.definitionChildren
    rw [← hvalue, List.map_map] at himages
    simp only [← hvalue]
    exact mapReached_withDefinitionChildren htree hnews himages

/-! ## 5. Documents -/

theorem mapRefs_eq_alterRefs (g : String → String) (maxDepth : Nat) (s : Schema) :
    s.mapRefs g maxDepth = s.alterRefs (fun token => pure (g token)) maxDepth () := by
  rw [mapRefs, alterRefs]
  congr 1
  funext state s
  cases s with
  | mk ref => cases ref <;> rfl

/-- **Rewriting the references of a document is reading them, with the tokens replaced.**  The walk
    fails as reading fails; where reading gives tokens, the function has been handed these tokens
    in this order, and what it gave back is what is read afterwards.  Nothing else has changed.  A
    map of the tokens is the case without a state. -/
theorem alterRefs_replaces (f : String → StateM σ String) (maxDepth : Nat) (state : σ)
    (s : Schema) :
    ((s.alterRefs f maxDepth state).outcome maxDepth).map (·.2) =
        (s.refs maxDepth).map (fun tokens => (replaceEach f tokens state).2) ∧
      ((s.alterRefs f maxDepth state).outcome maxDepth >>= fun out => out.1.refs maxDepth) =
        (s.refs maxDepth).map (fun tokens => (replaceEach f tokens state).1) ∧
      (∀ token, (s.alterRefs f maxDepth state).value.mapReached (fun _ => token) =
        s.mapReached fun _ => token) ∧
      ∀ g, s.mapRefs g maxDepth = s.alterRefs (fun token => pure (g token)) maxDepth () ∧
        ∀ tokens, replaceEach (fun token => pure (g token)) tokens () = (tokens.map g, ()) := by
  have hmapped (token : String) := mapReached_alterRefs (f := f) token maxDepth state s
  obtain ⟨hbefore, hafter, hreplaced⟩ := follows_alterRefs (f := f) maxDepth state s
  cases hexceeded : (s.alterRefs f maxDepth state).exceeded with
  | some path =>
    rw [hexceeded] at hbefore
    rw [refs_of_exceeded hbefore, Altered.outcome, hexceeded]
    exact ⟨rfl, rfl, hmapped, fun g => ⟨mapRefs_eq_alterRefs g maxDepth s, replaceEach_pure g⟩⟩
  | none =>
    rw [hexceeded] at hbefore hafter
    have hread := hreplaced hexceeded
    rw [refs_of_within hbefore, Altered.outcome, hexceeded]
    refine ⟨?_, ?_, hmapped, fun g => ⟨mapRefs_eq_alterRefs g maxDepth s, replaceEach_pure g⟩⟩
    · simp only [Except.map, hread]
    · simp only [Except.map, hread]
      exact bind_ok_iff.mpr ⟨_, rfl, refs_of_within hafter⟩

end

end SchemaCatalog.Schema
