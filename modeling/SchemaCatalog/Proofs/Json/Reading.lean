/-
  Values that are read
  ====================
  **Every value that is read from a text is well-formed.**

  A number gets its value from its text by rounded steps, so it is canonical.
  The lexer and the assembly of the tree pass numbers on as they are; each is
  a left fold, and what one step keeps, the whole run keeps.  The objects of the
  value are tables that grow by insertion, hence in order.

  Conversely a well-formed value is a canonical source, so the same holds for what
  is read from a value in memory.
-/
import SchemaCatalog.Json.Decode
import SchemaCatalog.Proofs.Json.WellFormed
import SchemaCatalog.Proofs.Outcome
import SchemaCatalog.Proofs.Table

namespace SchemaCatalog

/-! ## 1. Numbers -/

namespace NumberText

theorem scaleByTen_canonical {fuel : Nat} : ∀ {x y : Binary64} {e : Int}, x.Canonical →
    scaleByTen fuel x e = some y → y.Canonical := by
  induction fuel with
  | zero =>
    intro x y e hx h
    rw [scaleByTen] at h
    cases h
    exact hx
  | succ fuel ih =>
    intro x y e hx h
    rw [scaleByTen] at h
    split at h
    · obtain ⟨power, _, h⟩ := Option.bind_eq_some_iff.mp h
      split at h
      · exact Binary64.mul_canonical h
      · exact Binary64.div_canonical h
    · split at h
      · cases h
        exact hx
      · split at h
        · cases h
        · obtain ⟨power, _, h⟩ := Option.bind_eq_some_iff.mp h
          obtain ⟨z, hz, h⟩ := Option.bind_eq_some_iff.mp h
          exact ih (Binary64.div_canonical hz) h

theorem signed_canonical {x : Binary64} (h : x.Canonical) (negative : Bool) :
    (if negative then x.neg else x).Canonical := by
  split
  · exact h.neg
  · exact h

theorem float?_canonical {t : NumberText} {x : Binary64} (h : t.float? = some x) :
    x.Canonical := by
  have hscaled {n : Nat} {e : Int} (hx : (do
      let y ← Binary64.ofNat n
      let z ← scaleByTen 4 y e
      return if t.negative then z.neg else z) = some x) : x.Canonical := by
    obtain ⟨y, hy, hx⟩ := Option.bind_eq_some_iff.mp hx
    obtain ⟨z, hz, hx⟩ := Option.bind_eq_some_iff.mp hx
    cases hx
    exact signed_canonical (scaleByTen_canonical (Binary64.ofNat_canonical hy) hz) _
  simp only [float?] at h
  split at h
  · exact hscaled h
  · split at h
    · exact hscaled h
    · split at h
      · cases h
      · cases h
        exact signed_canonical Binary64.canonical_zero _

theorem value?_canonical {t : NumberText} {n : Number} (h : t.value? = some n) : n.Canonical := by
  have hfloat (hn : t.float?.map Number.float = some n) : n.Canonical := by
    obtain ⟨x, hx, rfl⟩ := Option.map_eq_some_iff.mp hn
    exact float?_canonical hx
  simp only [value?] at h
  split at h
  · exact hfloat h
  · split at h
    · cases h
      trivial
    · split at h
      · exact hfloat h
      · cases h
        trivial

end NumberText

/-! ## 2. Tokens -/

/-- Only the token of a number has something to be canonical. -/
def Token.Canonical : Token → Prop
  | .num n => n.Canonical
  | _ => True

theorem NumberLexeme.token_canonical (n : NumberLexeme) : n.token.Canonical := by
  rw [NumberLexeme.token]
  simp only
  split
  · next hvalue => exact NumberText.value?_canonical hvalue
  · trivial

theorem TextLexeme.token_canonical (t : TextLexeme) : t.token.Canonical := by
  rw [TextLexeme.token]
  split
  · trivial
  · split <;> trivial

/-- A string ends in a token that is canonical, as it is no number. -/
theorem TextLexeme.step_canonical {t : TextLexeme} {c : UInt8} {token : Token}
    (h : t.step c = .done token) : token.Canonical := by
  rw [TextLexeme.step] at h
  split at h
  · split at h
    · cases h
    · simp only at h
      split at h
      · cases h
        exact token_canonical _
      · split at h
        · cases h
          trivial
        · cases h
  · split at h
    · cases h
    · simp only at h
      split at h
      · cases h
      · cases h
        trivial
  · simp only at h
    split at h
    · cases h
    · split at h
      · cases h
      · cases h
        trivial

/-- The finished tokens are canonical, and so is the one that a word stands for. -/
structure Lexer.Canonical (l : Lexer) : Prop where
  tokens : ∀ t ∈ l.tokens, t.Canonical
  word : ∀ rest t, l.lexeme = .word rest t → t.Canonical

namespace Lexer.Canonical

variable {l : Lexer} (h : l.Canonical)
include h

theorem emit {t : Token} (ht : t.Canonical) : (l.emit t).Canonical where
  tokens t' ht' := by
    rcases List.mem_cons.mp ht' with rfl | ht'
    · exact ht
    · exact h.tokens t' ht'
  word := nofun

theorem stop {t : Token} (ht : t.Canonical) : (l.stop t).Canonical where
  tokens := (h.emit ht).tokens
  word := nofun

/-- A token in progress that is no word changes nothing. -/
theorem go {lexeme : Lexeme} (hlexeme : ∀ rest t, lexeme = .word rest t → t.Canonical) :
    ({ l with lexeme } : Lexer).Canonical where
  tokens := h.tokens
  word := hlexeme

theorem start (c : UInt8) : (l.start c).Canonical := by
  have hword {rest : Bytes} {t : Token} (ht : t.Canonical) :
      ({ l with lexeme := .word rest t } : Lexer).Canonical :=
    h.go (by rintro _ _ ⟨⟩; exact ht)
  rw [Lexer.start]
  refine iteInduction (fun _ => h.go nofun) fun _ => ?_
  -- the six punctuation marks
  refine iteInduction (fun _ => h.emit trivial) fun _ => ?_
  refine iteInduction (fun _ => h.emit trivial) fun _ => ?_
  refine iteInduction (fun _ => h.emit trivial) fun _ => ?_
  refine iteInduction (fun _ => h.emit trivial) fun _ => ?_
  refine iteInduction (fun _ => h.emit trivial) fun _ => ?_
  refine iteInduction (fun _ => h.emit trivial) fun _ => ?_
  refine iteInduction (fun _ => h.go nofun) fun _ => ?_
  -- the three words
  refine iteInduction (fun _ => hword trivial) fun _ => ?_
  refine iteInduction (fun _ => hword trivial) fun _ => ?_
  refine iteInduction (fun _ => hword trivial) fun _ => ?_
  refine iteInduction (fun _ => h.go nofun) fun _ => ?_
  split
  · exact h.go nofun
  · exact h.stop trivial

/-- One byte keeps the tokens canonical. -/
theorem step (c : UInt8) : (l.step c).Canonical := by
  rw [Lexer.step]
  split
  · exact h
  · exact h.start c
  · next rest t hword =>
    have ht : t.Canonical := h.word rest t hword
    split
    · split
      · exact h.go (by rintro _ _ ⟨⟩; exact ht)
      · exact h.stop trivial
    · split
      · exact h.emit ht
      · exact h.stop trivial
    · exact h.emit ht
  · next n _ =>
    split
    · exact h.go nofun
    · split
      · exact (h.emit n.token_canonical).start c
      · exact h.stop trivial
  · split
    · exact h.go nofun
    · next hdone => exact h.stop (TextLexeme.step_canonical hdone)
    · next hdone => exact h.emit (TextLexeme.step_canonical hdone)

theorem finish : ∀ t ∈ l.finish, t.Canonical := by
  intro t ht
  rw [Lexer.finish] at ht
  simp only [List.mem_reverse] at ht
  split at ht
  · exact h.tokens t ht
  · exact h.tokens t ht
  · exact (h.stop (by trivial)).tokens t ht
  · next n _ =>
    split at ht
    · exact (h.emit n.token_canonical).tokens t ht
    · exact (h.stop (by trivial)).tokens t ht
  · exact (h.stop (by trivial)).tokens t ht

end Lexer.Canonical

/-- **The tokens of a text are canonical.** -/
theorem Token.ofBytes_canonical (bytes : Bytes) : ∀ t ∈ Token.ofBytes bytes, t.Canonical := by
  have hrun : ∀ l : Lexer, l.Canonical → (bytes.foldl Lexer.step l).Canonical := by
    induction bytes with
    | nil => exact fun _ h => h
    | cons c rest ih => exact fun l h => ih (l.step c) (h.step c)
  exact (hrun {} ⟨fun _ ht => absurd ht List.not_mem_nil, nofun⟩).finish

/-! ## 3. Trees -/

/-- Every number in the tree is canonical. -/
inductive Source.Canonical : Source → Prop where
  | null : Canonical .null
  | bool (b : Bool) : Canonical (.bool b)
  | num {n : Number} : n.Canonical → Canonical (.num n)
  | str (s : String) : Canonical (.str s)
  | flawed (e : SyntaxError) : Canonical (.flawed e)
  | broken (b : Break) : Canonical (.broken b)
  | arr {elements : List Source} {ending : Option Break} :
      (∀ s ∈ elements, Canonical s) → Canonical (.arr elements ending)
  | obj {members : List (Except SyntaxError String × Source)} {ending : Option Break} :
      (∀ e ∈ members, Canonical e.2) → Canonical (.obj members ending)

/-- What an open container holds so far is canonical. -/
def Frame.Canonical : Frame → Prop
  | .array elements => ∀ s ∈ elements, s.Canonical
  | .object members _ => ∀ e ∈ members, e.2.Canonical

/-- The open containers and the finished value are canonical. -/
structure Assembly.Canonical (a : Assembly) : Prop where
  frames : ∀ f ∈ a.frames, f.Canonical
  result : ∀ s, a.result = some s → s.Canonical

namespace Assembly.Canonical

/-- What the text may go on with does not matter. -/
theorem congr {a b : Assembly} (h : a.Canonical) (hframes : b.frames = a.frames)
    (hresult : b.result = a.result) : b.Canonical where
  frames := hframes ▸ h.frames
  result := hresult ▸ h.result

variable {a : Assembly} (h : a.Canonical)
include h

theorem frames_tail {f : Frame} {rest : List Frame} (hframes : a.frames = f :: rest) :
    f.Canonical ∧ ∀ g ∈ rest, g.Canonical :=
  List.forall_mem_cons.mp (hframes ▸ h.frames)

theorem deliver {s : Source} (hs : s.Canonical) : (a.deliver s).Canonical := by
  rw [Assembly.deliver]
  split
  · refine ⟨h.frames, fun s' hs' => ?_⟩
    cases hs'
    exact hs
  · next es rest hframes =>
    obtain ⟨hes, hrest⟩ := h.frames_tail hframes
    refine ⟨List.forall_mem_cons.mpr ⟨?_, hrest⟩, h.result⟩
    exact List.forall_mem_cons.mpr ⟨hs, hes⟩
  · next ms k rest hframes =>
    obtain ⟨hms, hrest⟩ := h.frames_tail hframes
    refine ⟨List.forall_mem_cons.mpr ⟨?_, hrest⟩, h.result⟩
    exact List.forall_mem_cons.mpr ⟨hs, hms⟩

theorem close (ending : Option Break) : (a.close ending).Canonical := by
  rw [Assembly.close]
  split
  · exact h
  · next es rest hframes =>
    obtain ⟨hes, hrest⟩ := h.frames_tail hframes
    have houter : ({ a with frames := rest } : Assembly).Canonical := ⟨hrest, h.result⟩
    exact houter.deliver (.arr fun s hs => hes s (List.mem_reverse.mp hs))
  · next ms k rest hframes =>
    obtain ⟨hms, hrest⟩ := h.frames_tail hframes
    have houter : ({ a with frames := rest } : Assembly).Canonical := ⟨hrest, h.result⟩
    exact houter.deliver (.obj fun e he => hms e (List.mem_reverse.mp he))

theorem unwind (b : Break) : (a.unwind b).Canonical := by
  -- the frames only count how often a container is closed
  have hfold : ∀ (l : List Frame) (a : Assembly), a.Canonical →
      (l.foldl (fun a _ => a.close (some b)) a).Canonical := by
    intro l
    induction l with
    | nil => exact fun _ h => h
    | cons _ rest ih => exact fun a h => ih _ (h.close (some b))
  exact (hfold a.frames a h).congr rfl rfl

theorem breakValue (b : Break) : (a.breakValue b).Canonical :=
  (h.deliver (.broken b)).unwind b

theorem takeValue {t : Token} (ht : t.Canonical) : (a.takeValue t).Canonical := by
  cases t with
  | openObject => exact ⟨List.forall_mem_cons.mpr ⟨nofun, h.frames⟩, h.result⟩
  | openArray => exact ⟨List.forall_mem_cons.mpr ⟨nofun, h.frames⟩, h.result⟩
  | null => exact h.deliver .null
  | bool b => exact h.deliver (.bool b)
  | num n => exact h.deliver (.num ht)
  | str s => exact h.deliver (.str s)
  | flawed _ e => exact h.deliver (.flawed e)
  | broken _ b => exact h.breakValue b
  | closeObject => exact h.breakValue _
  | closeArray => exact h.breakValue _
  | comma => exact h.breakValue _
  | colon => exact h.breakValue _

theorem takeKey (t : Token) : (a.takeKey t).Canonical := by
  unfold Assembly.takeKey
  split
  · next ms _ rest hframes =>
    obtain ⟨hms, hrest⟩ := h.frames_tail hframes
    have hnamed (k : Except SyntaxError String) :
        ({ a with frames := .object ms k :: rest, expecting := .colon } : Assembly).Canonical :=
      ⟨List.forall_mem_cons.mpr ⟨hms, hrest⟩, h.result⟩
    split
    · exact hnamed _
    · exact hnamed _
    · exact h.unwind _
    · exact h.unwind _
  · split
    · exact h
    · exact h
    · exact h.unwind _
    · exact h.unwind _

/-- One token keeps the tree canonical. -/
theorem step {t : Token} (ht : t.Canonical) : (a.step t).Canonical := by
  unfold Assembly.step
  split
  · exact h.takeValue ht
  · exact h.takeValue ht
  · exact h.close none
  · exact h.unwind _
  · exact h.takeValue ht
  · exact h.congr rfl rfl
  · exact h.close none
  · exact h.unwind _
  · exact h.close none
  · exact h.unwind _
  · exact h.takeKey _
  · exact h.congr rfl rfl
  · exact h.breakValue _
  · exact h.congr rfl rfl
  · exact h.close none
  · exact h.unwind _
  · exact h.congr rfl rfl

theorem finish : a.finish.root.Canonical := by
  have hroot {b : Assembly} (hb : b.Canonical) :
      (b.result.getD (.broken (.both .endOfValue))).Canonical := by
    cases hresult : b.result with
    | none => exact .broken _
    | some s => exact hb.result s hresult
  rw [Assembly.finish]
  simp only
  split
  · exact hroot (h.breakValue _)
  · exact hroot (h.breakValue _)
  · exact hroot (h.unwind _)
  · exact hroot (h.unwind _)
  · exact hroot (h.unwind _)
  · exact hroot (h.unwind _)
  · exact hroot (h.unwind _)
  · exact hroot (h.unwind _)
  · exact hroot (h.breakValue _)
  · exact hroot h

end Assembly.Canonical

/-- **The tree of a text is canonical.** -/
theorem Document.ofBytes_canonical (bytes : Bytes) : (Document.ofBytes bytes).root.Canonical := by
  have hrun : ∀ (tokens : List Token) (a : Assembly), (∀ t ∈ tokens, t.Canonical) →
      a.Canonical → (tokens.foldl Assembly.step a).Canonical := by
    intro tokens
    induction tokens with
    | nil => exact fun _ _ h => h
    | cons t rest ih =>
      intro a htokens h
      obtain ⟨ht, hrest⟩ := List.forall_mem_cons.mp htokens
      exact ih (a.step t) hrest (h.step ht)
  exact (hrun _ {} (Token.ofBytes_canonical bytes)
    ⟨fun _ hf => absurd hf List.not_mem_nil, nofun⟩).finish

/-! ## 4. Values -/

namespace Source

theorem toElements_eq_map (l : List Source) : toElements l = l.map toJson := by
  induction l with
  | nil => rfl
  | cons s rest ih => rw [toElements, ih, List.map_cons]

/-- Members that are added in order give a table in order. -/
theorem toMembers_wellFormed {members : List (Except SyntaxError String × Source)}
    (h : ∀ e ∈ members, e.2.toJson.WellFormed) : ∀ acc : Table Json,
    (Json.obj acc).WellFormed → (Json.obj (toMembers acc members)).WellFormed := by
  induction members with
  | nil => exact fun _ hacc => hacc
  | cons e rest ih =>
    obtain ⟨hvalue, hrest⟩ := List.forall_mem_cons.mp h
    intro acc hacc
    obtain ⟨error | k, s⟩ := e
    · exact ih hrest acc hacc
    · refine ih hrest _ ?_
      cases hacc with
      | obj hsorted hvalues =>
        refine .obj (hsorted.insert k _) fun e he => ?_
        rcases Table.mem_insertEntry he with rfl | he
        · exact hvalue
        · exact hvalues e he

/-- **The value of a canonical tree is well-formed.** -/
theorem Canonical.toJson {s : Source} (h : s.Canonical) : s.toJson.WellFormed := by
  induction h with
  | null => exact .null
  | bool b => exact .bool b
  | num hn => exact .num hn
  | str s => exact .str s
  | flawed _ => exact .null
  | broken _ => exact .null
  | arr _ ih =>
    rw [Source.toJson, toElements_eq_map]
    refine .arr fun v hv => ?_
    obtain ⟨s, hs, rfl⟩ := List.mem_map.mp hv
    exact ih s hs
  | obj _ ih =>
    rw [Source.toJson]
    exact toMembers_wellFormed ih {} (.obj List.Pairwise.nil nofun)

theorem ofElements_eq_map (l : List Json) : ofElements l = l.map ofJson := by
  induction l with
  | nil => rfl
  | cons v rest ih => rw [ofElements, ih, List.map_cons]

theorem ofMembers_eq_map (l : List (String × Json)) :
    ofMembers l = l.map fun e => (.ok e.1, ofJson e.2) := by
  induction l with
  | nil => rfl
  | cons e rest ih => rw [ofMembers, ih, List.map_cons]

theorem ofJson_canonical {v : Json} (h : v.WellFormed) : (ofJson v).Canonical := by
  induction h with
  | null => exact .null
  | bool b => exact .bool b
  | num hn => exact .num hn
  | str s => exact .str s
  | arr _ ih =>
    rw [ofJson, ofElements_eq_map]
    refine .arr fun s hs => ?_
    obtain ⟨v, hv, rfl⟩ := List.mem_map.mp hs
    exact ih v hv
  | obj _ _ ih =>
    rw [ofJson, ofMembers_eq_map]
    refine .obj fun s hs => ?_
    obtain ⟨e, he, rfl⟩ := List.mem_map.mp hs
    exact ih e he

/-- **The source of a value has that value.** -/
theorem toJson_ofJson {v : Json} (h : v.WellFormed) : (ofJson v).toJson = v := by
  have hmembers (acc : Table Json) (l : List (String × Json))
      (hl : ∀ e ∈ l, (ofJson e.2).toJson = e.2) :
      toMembers acc (ofMembers l) = l.foldl (fun t e => t.insert e.1 e.2) acc := by
    induction l generalizing acc with
    | nil => rfl
    | cons e rest ih =>
      obtain ⟨hfirst, hrest⟩ := List.forall_mem_cons.mp hl
      rw [ofMembers, toMembers, hfirst, ih _ hrest, List.foldl_cons]
  induction h with
  | null => rfl
  | bool b => rfl
  | num hn => rfl
  | str s => rfl
  | @arr l _ ih =>
    rw [ofJson, toJson, ofElements_eq_map, toElements_eq_map, List.map_map]
    exact congrArg Json.arr ((List.map_congr_left ih).trans (List.map_id _))
  | @obj t hsorted _ ih =>
    obtain ⟨l⟩ := t
    rw [ofJson, toJson, hmembers _ l ih]
    exact congrArg Json.obj hsorted.ofList_entries

theorem readJson_wellFormed {m : Medium} {s : Source} {v : Json} (hs : s.Canonical)
    (h : s.readJson m = .ok v) : v.WellFormed := by
  obtain ⟨_, _, h⟩ := bind_ok_iff.mp h
  cases h
  exact hs.toJson

end Source

/-! ## 5. Readers -/

/-- What a container gives is read from its contents, one level further in. -/
theorem readContainer_ok {α : Type} {m : Medium} {read : Medium → Reading α}
    {ending : Option Break} {v : α} (h : (do
      let v ← read (← m.enter)
      Source.finish ending
      return v) = .ok v) : ∃ inner, read inner = .ok v := by
  obtain ⟨inner, _, h⟩ := bind_ok_iff.mp h
  obtain ⟨v', hread, h⟩ := bind_ok_iff.mp h
  obtain ⟨_, _, h⟩ := bind_ok_iff.mp h
  cases h
  exact ⟨inner, hread⟩

theorem Source.readOptional_of_ne_null {α : Type} (read : Source → Reading α) {s : Source}
    (h : s ≠ null) : s.readOptional read = (read s).map some := by
  cases s with
  | null => exact absurd rfl h
  | _ => rfl

/-- An optional value is absent or what its reader gives. -/
theorem Source.readOptional_ok {α : Type} {read : Source → Reading α} {s : Source} {v : Option α}
    (h : s.readOptional read = .ok v) : v = none ∨ ∃ a, read s = .ok a ∧ v = some a := by
  unfold readOptional at h
  split at h
  · cases h
    exact Or.inl rfl
  · cases hread : read s with
    | error e =>
      rw [hread] at h
      cases h
    | ok a =>
      rw [hread] at h
      cases h
      exact Or.inr ⟨a, rfl, rfl⟩

/-- What is read from each element of a list holds of the list. -/
theorem Source.readList_forall {α : Type} {m : Medium} {read : Medium → Source → Reading α}
    {P : α → Prop} {s : Source} (hs : s.Canonical)
    (hread : ∀ m s a, s.Canonical → read m s = .ok a → P a) {l : List α}
    (h : s.readList m read = .ok l) : ∀ a ∈ l, P a := by
  cases hs with
  | arr helements =>
    obtain ⟨inner, hl⟩ := readContainer_ok h
    exact forall_of_mapM_ok (fun s hs a => hread inner s a (helements s hs)) hl
  | _ => cases h

/-- What reading one member keeps, reading all of them keeps. -/
theorem readMembers_invariant {σ π : Type} {known : List String}
    {read : String → π → σ → Reading σ} {P : σ → Prop}
    {members : List (Except SyntaxError String × π)}
    (hread : ∀ e ∈ members, ∀ k acc acc', P acc → read k e.2 acc = .ok acc' → P acc') :
    ∀ {seen : List String} {acc result : σ}, P acc →
      readMembers known read seen acc members = .ok result → P result := by
  induction members with
  | nil =>
    intro seen acc result hacc h
    cases h
    exact hacc
  | cons e rest ih =>
    obtain ⟨hfirst, hrest⟩ := List.forall_mem_cons.mp hread
    obtain ⟨key, s⟩ := e
    intro seen acc result hacc h
    rw [readMembers] at h
    obtain ⟨k, _, h⟩ := bind_ok_iff.mp h
    by_cases hseen : k ∈ seen
    · simp only [if_pos hseen] at h
      cases h
    · simp only [if_neg hseen] at h
      obtain ⟨acc', hacc', h⟩ := bind_ok_iff.mp h
      exact ih hrest (hfirst k acc acc' hacc hacc') h

theorem readMembers_cons_ok_iff {σ π : Type} {known : List String}
    {read : String → π → σ → Reading σ} {seen : List String} {acc result : σ} {k : String} {s : π}
    {rest : List (Except SyntaxError String × π)} :
    readMembers known read seen acc ((.ok k, s) :: rest) = .ok result ↔
      k ∉ seen ∧ ∃ acc', read k s acc = .ok acc' ∧
        readMembers known read (if k ∈ known then k :: seen else seen) acc' rest = .ok result := by
  rw [readMembers]
  constructor
  · intro h
    obtain ⟨_, hkey, h⟩ := bind_ok_iff.mp h
    cases hkey
    by_cases hseen : k ∈ seen
    · simp only [if_pos hseen] at h
      cases h
    · simp only [if_neg hseen] at h
      exact ⟨hseen, bind_ok_iff.mp h⟩
  · rintro ⟨hfresh, h⟩
    refine bind_ok_iff.mpr ⟨k, rfl, ?_⟩
    simp only [if_neg hfresh]
    exact bind_ok_iff.mpr h

/-- If each member settles what a view shows under its name and leaves the rest of it alone, the
    view of the whole shows under each name what the last member of that name settles. -/
theorem readMembers_view {σ π α β : Type} {known : List String}
    {read : String → π → σ → Reading σ} {members : List (String × α)} (part : α → π)
    (P : σ → Prop) (view : σ → String → Option β) (shown : String → α → Option β)
    (hread : ∀ e ∈ members, ∀ acc acc', P acc → read e.1 (part e.2) acc = .ok acc' → P acc' ∧
      ∀ key, view acc' key = if key = e.1 then shown e.1 e.2 else view acc key) :
    ∀ {seen : List String} {acc result : σ}, P acc →
      readMembers known read seen acc (members.map fun e => (.ok e.1, part e.2)) = .ok result →
      P result ∧ ∀ key, view result key =
        ((Table.find? key members.reverse).map (shown key)).getD (view acc key) := by
  induction members with
  | nil =>
    intro seen acc result hacc h
    cases h
    exact ⟨hacc, fun key => rfl⟩
  | cons e rest ih =>
    obtain ⟨hfirst, hlater⟩ := List.forall_mem_cons.mp hread
    obtain ⟨k, v⟩ := e
    intro seen acc result hacc h
    obtain ⟨_, acc', hacc', h⟩ := readMembers_cons_ok_iff.mp h
    obtain ⟨hP, hview⟩ := hfirst acc acc' hacc hacc'
    obtain ⟨hresult, hview'⟩ := ih hlater hP h
    refine ⟨hresult, fun key => ?_⟩
    rw [hview' key, hview key, List.reverse_cons, Table.find?_append]
    cases Table.find? key rest.reverse with
    | some later => rfl
    | none =>
      by_cases hkey : key = k
      · simp [Table.find?, hkey]
      · simp [Table.find?, hkey]

/-- Members of different names are read one after the other, whatever names must not repeat. -/
theorem readMembers_eq_foldlM {σ π α : Type} {known : List String}
    {read : String → π → σ → Reading σ} {members : List (String × α)} (part : α → π)
    (hnodup : (members.map (·.1)).Nodup) {seen : List String} (hseen : ∀ e ∈ members, e.1 ∉ seen)
    (acc : σ) :
    readMembers known read seen acc (members.map fun e => (.ok e.1, part e.2)) =
      members.foldlM (fun acc e => read e.1 (part e.2) acc) acc := by
  induction members generalizing seen acc with
  | nil => rfl
  | cons e rest ih =>
    obtain ⟨hfresh, hrest⟩ := List.nodup_cons.mp hnodup
    obtain ⟨hunseen, hseen⟩ := List.forall_mem_cons.mp hseen
    have hseen' : ∀ e' ∈ rest, e'.1 ∉ if e.1 ∈ known then e.1 :: seen else seen := by
      intro e' he'
      have hne : e'.1 ≠ e.1 := fun heq => hfresh (List.mem_map.mpr ⟨e', he', heq⟩)
      split
      · exact fun hmem => (List.mem_cons.mp hmem).elim hne (hseen e' he')
      · exact hseen e' he'
    rw [List.map_cons, readMembers, List.foldlM_cons]
    show (if e.1 ∈ seen then _ else _) = _
    rw [if_neg hunseen]
    exact bind_congr fun acc' => ih hrest hseen' acc'

/-- Members of different names are read if each of them is, whatever has been read before. -/
theorem exists_readMembers_ok {σ π α : Type} {known : List String}
    {read : String → π → σ → Reading σ} {members : List (String × α)} (part : α → π)
    (hnodup : (members.map (·.1)).Nodup)
    (hread : ∀ e ∈ members, ∀ acc, ∃ acc', read e.1 (part e.2) acc = .ok acc') :
    ∀ {seen : List String} (acc : σ), (∀ e ∈ members, e.1 ∉ seen) → ∃ result,
      readMembers known read seen acc (members.map fun e => (.ok e.1, part e.2)) = .ok result := by
  intro seen acc hseen
  rw [readMembers_eq_foldlM part hnodup hseen]
  clear hnodup hseen
  induction members generalizing acc with
  | nil => exact ⟨acc, rfl⟩
  | cons e rest ih =>
    obtain ⟨hfirst, hlater⟩ := List.forall_mem_cons.mp hread
    obtain ⟨acc', hacc'⟩ := hfirst acc
    obtain ⟨result, hresult⟩ := ih hlater acc'
    exact ⟨result, bind_ok_iff.mpr ⟨acc', hacc', hresult⟩⟩

/-- What is read from a text is read from its tree, after which nothing follows. -/
theorem readText_ok_iff {α : Type} {read : Medium → Source → Reading α} {bytes : Bytes} {a : α} :
    readText read bytes = .ok a ↔ read .wholeText (Document.ofBytes bytes).root = .ok a ∧
      (Document.ofBytes bytes).trailing = false := by
  constructor
  · intro h
    obtain ⟨a', hread, h⟩ := bind_ok_iff.mp h
    split at h
    · cases h
    · next htrailing =>
      cases h
      exact ⟨hread, Bool.eq_false_iff.mpr htrailing⟩
  · rintro ⟨hread, htrailing⟩
    refine bind_ok_iff.mpr ⟨a, hread, ?_⟩
    rw [htrailing]
    rfl

/-- **Every value that is read from a text is well-formed.** -/
theorem Json.ofBytes_wellFormed {bytes : Bytes} {v : Json} (h : Json.ofBytes bytes = .ok v) :
    v.WellFormed :=
  Source.readJson_wellFormed (Document.ofBytes_canonical bytes) (readText_ok_iff.mp h).1

end SchemaCatalog
