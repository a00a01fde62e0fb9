/-
  Faithful line differences
  =========================
  **A difference is an edit script: without its insertions it is the old text,
  without its deletions the new one.**

  Nothing about the search for a middle matters here.  Wherever two texts are
  divided, the parts make up the whole, so what `solve` gives leads from the old
  lines to the new ones (`solve_leads`).  Compacting moves blocks past each
  other; each move replaces two neighbours by blocks that read the same in
  both texts (`SameTexts`), and the moves go on from there.

  In the text of a difference every line begins with its mark, so the two
  texts can be read off it again (`marked_diffText`).
-/
import SchemaCatalog.Text.LineDiff
import SchemaCatalog.Proofs.Text.Lines

namespace SchemaCatalog.LineDiff

/-! ## 1. The two texts of a list of blocks -/

section

variable (b : Block) (l m : List Block)

@[simp] theorem oldLines_nil : oldLines [] = [] := rfl

@[simp] theorem newLines_nil : newLines [] = [] := rfl

theorem oldLines_cons :
    oldLines (b :: l) = (if b.tag = .insert then [] else b.lines) ++ oldLines l := by
  by_cases h : b.tag = .insert <;> simp [oldLines, h]

theorem newLines_cons :
    newLines (b :: l) = (if b.tag = .delete then [] else b.lines) ++ newLines l := by
  by_cases h : b.tag = .delete <;> simp [newLines, h]

@[simp] theorem oldLines_append : oldLines (l ++ m) = oldLines l ++ oldLines m := by
  simp [oldLines]

@[simp] theorem newLines_append : newLines (l ++ m) = newLines l ++ newLines m := by
  simp [newLines]

end

section

variable (lines : List Line)

theorem oldLines_block (tag : Tag) :
    oldLines (block tag lines) = if tag = .insert then [] else lines := by
  cases lines <;> simp [block, oldLines_cons]

theorem newLines_block (tag : Tag) :
    newLines (block tag lines) = if tag = .delete then [] else lines := by
  cases lines <;> simp [block, newLines_cons]

@[simp] theorem reverse_block (tag : Tag) : (block tag lines).reverse = block tag lines := by
  cases lines <;> simp [block]

variable (l : List Block)

@[simp] theorem oldLines_keepBefore :
    oldLines (keepBefore lines l) = lines ++ oldLines l := by
  rcases l with _ | ⟨⟨_ | _ | _, ls⟩, rest⟩ <;> simp [keepBefore, oldLines_cons]

@[simp] theorem newLines_keepBefore :
    newLines (keepBefore lines l) = lines ++ newLines l := by
  rcases l with _ | ⟨⟨_ | _ | _, ls⟩, rest⟩ <;> simp [keepBefore, newLines_cons]

@[simp] theorem oldLines_reverse_keepAfter :
    oldLines (keepAfter lines l).reverse = oldLines l.reverse ++ lines := by
  rcases l with _ | ⟨⟨_ | _ | _, ls⟩, rest⟩ <;> simp [keepAfter, oldLines_cons]

@[simp] theorem newLines_reverse_keepAfter :
    newLines (keepAfter lines l).reverse = newLines l.reverse ++ lines := by
  rcases l with _ | ⟨⟨_ | _ | _, ls⟩, rest⟩ <;> simp [keepAfter, newLines_cons]

end

/-- The blocks lead from the old lines to the new ones. -/
structure Leads (old new : List Line) (blocks : List Block) : Prop where
  old_eq : oldLines blocks = old
  new_eq : newLines blocks = new

theorem Leads.append {old new old' new' : List Line} {l m : List Block} (h : Leads old new l)
    (h' : Leads old' new' m) : Leads (old ++ old') (new ++ new') (l ++ m) where
  old_eq := by rw [oldLines_append, h.old_eq, h'.old_eq]
  new_eq := by rw [newLines_append, h.new_eq, h'.new_eq]

theorem leads_keep (lines : List Line) : Leads lines lines (block .keep lines) :=
  ⟨oldLines_block lines .keep, newLines_block lines .keep⟩

/-- Everything old goes, and everything new comes. -/
theorem leads_replace (old new : List Line) :
    Leads old new (block .delete old ++ block .insert new) where
  old_eq := by simp [oldLines_block]
  new_eq := by simp [newLines_block]

/-! ## 2. Divide and conquer -/

theorem take_commonLength : ∀ l m : List Line,
    l.take (commonLength l m) = m.take (commonLength l m)
  | [], m => by simp [commonLength]
  | a :: l, [] => by simp [commonLength]
  | a :: l, b :: m => by
    by_cases h : a = b
    · simp [commonLength, h, take_commonLength l m]
    · simp [commonLength, h]

/-- What two lists have in common at their ends. -/
theorem drop_commonLength (l m : List Line) :
    l.drop (l.length - commonLength l.reverse m.reverse) =
      m.drop (m.length - commonLength l.reverse m.reverse) := by
  have h := take_commonLength l.reverse m.reverse
  rw [List.take_reverse, List.take_reverse] at h
  exact List.reverse_inj.mp h

/-- **A solution leads from the old lines to the new ones.** -/
theorem solve_leads : ∀ (fuel : Nat) (old new : List Line), Leads old new (solve fuel old new) := by
  intro fuel
  induction fuel with
  | zero => exact leads_replace
  | succ fuel ih =>
    intro old new
    -- the lines common to both ends frame what is solved
    have hstart := take_commonLength old new
    rw [solve]
    generalize commonLength old new = p at hstart ⊢
    generalize hrest : old.drop p = rest
    generalize hrest' : new.drop p = rest'
    have hstop := drop_commonLength rest rest'
    generalize commonLength rest.reverse rest'.reverse = s at hstop ⊢
    have hold : old = old.take p ++ rest.take (rest.length - s) ++ rest.drop (rest.length - s) := by
      rw [List.append_assoc, List.take_append_drop, ← hrest, List.take_append_drop]
    have hnew : new = old.take p ++ rest'.take (rest'.length - s) ++
        rest.drop (rest.length - s) := by
      rw [hstop, List.append_assoc, List.take_append_drop, hstart, ← hrest',
        List.take_append_drop]
    have hframe {inner : List Block}
        (h : Leads (rest.take (rest.length - s)) (rest'.take (rest'.length - s)) inner) :
        Leads old new (block .keep (old.take p) ++ inner ++
          block .keep (rest.drop (rest.length - s))) := by
      have h := ((leads_keep (old.take p)).append h).append
        (leads_keep (rest.drop (rest.length - s)))
      rwa [← hold, ← hnew] at h
    refine hframe ?_
    split
    · exact leads_replace _ _
    · split
      · exact leads_replace _ _
      · next x y _ =>
        have h := (ih ((rest.take (rest.length - s)).take x)
          ((rest'.take (rest'.length - s)).take y)).append
          (ih ((rest.take (rest.length - s)).drop x) ((rest'.take (rest'.length - s)).drop y))
        rwa [List.take_append_drop, List.take_append_drop] at h

/-! ## 3. Compact blocks -/

/-- Two lists of blocks have the same texts. -/
structure SameTexts (l m : List Block) : Prop where
  old_eq : oldLines l = oldLines m
  new_eq : newLines l = newLines m

namespace SameTexts

theorem refl (l : List Block) : SameTexts l l := ⟨rfl, rfl⟩

theorem symm {l m : List Block} (h : SameTexts l m) : SameTexts m l := ⟨h.1.symm, h.2.symm⟩

theorem trans {k l m : List Block} (h : SameTexts k l) (h' : SameTexts l m) : SameTexts k m :=
  ⟨h.1.trans h'.1, h.2.trans h'.2⟩

end SameTexts

/-- All blocks, in order. -/
def Focus.blocks (f : Focus) : List Block := f.before.reverse ++ f.here :: f.after

@[simp] theorem Focus.oldLines_blocks (f : Focus) : oldLines f.blocks =
    oldLines f.before.reverse ++ oldLines [f.here] ++ oldLines f.after := by
  simp [Focus.blocks, oldLines_cons]

@[simp] theorem Focus.newLines_blocks (f : Focus) : newLines f.blocks =
    newLines f.before.reverse ++ newLines [f.here] ++ newLines f.after := by
  simp [Focus.blocks, newLines_cons]

/-- Two views of the same texts from a block of one kind. -/
structure SameView (f f' : Focus) : Prop where
  tag_eq : f'.here.tag = f.here.tag
  texts : SameTexts f.blocks f'.blocks

namespace SameView

theorem refl (f : Focus) : SameView f f := ⟨rfl, .refl _⟩

theorem trans {f f' f'' : Focus} (h : SameView f f') (h' : SameView f' f'') : SameView f f'' :=
  ⟨h'.tag_eq.trans h.tag_eq, h.texts.trans h'.texts⟩

variable {before after : List Block} {lines kept moved rest : List Line}

/-- A kept block without lines is nothing. -/
theorem skip_before {here : Block} :
    SameView ⟨⟨.keep, []⟩ :: before, here, after⟩ ⟨before, here, after⟩ :=
  ⟨rfl, by constructor <;> simp [oldLines_cons, newLines_cons]⟩

theorem skip_after {here : Block} :
    SameView ⟨before, here, ⟨.keep, []⟩ :: after⟩ ⟨before, here, after⟩ :=
  ⟨rfl, by constructor <;> simp [oldLines_cons, newLines_cons]⟩

/-- An insertion rotates up through kept lines that agree with its end. -/
theorem rotate_up {inserted : List Line} (hlines : kept ++ moved = lines)
    (hinserted : rest ++ moved = inserted) :
    SameView ⟨⟨.keep, lines⟩ :: before, ⟨.insert, inserted⟩, after⟩
      ⟨block .keep kept ++ before, ⟨.insert, moved ++ rest⟩, keepBefore moved after⟩ := by
  subst hlines hinserted
  exact ⟨rfl, by constructor <;> simp [oldLines_cons, newLines_cons, oldLines_block,
    newLines_block]⟩

/-- An insertion rotates down through kept lines that agree with its beginning. -/
theorem rotate_down {inserted : List Line} (hlines : moved ++ kept = lines)
    (hinserted : moved ++ rest = inserted) :
    SameView ⟨before, ⟨.insert, inserted⟩, ⟨.keep, lines⟩ :: after⟩
      ⟨keepAfter moved before, ⟨.insert, rest ++ moved⟩, block .keep kept ++ after⟩ := by
  subst hlines hinserted
  exact ⟨rfl, by constructor <;> simp [oldLines_cons, newLines_cons, oldLines_block,
    newLines_block]⟩

/-- Neighbours of one kind join. -/
theorem join_before {tag : Tag} :
    SameView ⟨⟨tag, lines⟩ :: before, ⟨tag, rest⟩, after⟩ ⟨before, ⟨tag, lines ++ rest⟩, after⟩ :=
  ⟨rfl, by constructor <;> cases tag <;> simp [oldLines_cons, newLines_cons]⟩

theorem join_after {tag : Tag} :
    SameView ⟨before, ⟨tag, rest⟩, ⟨tag, lines⟩ :: after⟩ ⟨before, ⟨tag, rest ++ lines⟩, after⟩ :=
  ⟨rfl, by constructor <;> cases tag <;> simp [oldLines_cons, newLines_cons]⟩

/-- A deletion and an insertion may change places. -/
theorem pass {q here : Block} (hq : q.tag ≠ .keep) (hhere : here.tag ≠ .keep)
    (hne : q.tag ≠ here.tag) :
    SameView ⟨q :: before, here, after⟩ ⟨before, here, q :: after⟩ := by
  refine ⟨rfl, ?_⟩
  obtain ⟨tag, l⟩ := q
  obtain ⟨tag', m⟩ := here
  constructor <;> cases tag <;> cases tag' <;> simp_all [oldLines_cons, newLines_cons]

theorem symm {f f' : Focus} (h : SameView f f') : SameView f' f := ⟨h.1.symm, h.2.symm⟩

end SameView

/-- **A block that moves up changes neither text.** -/
theorem sameView_raise : ∀ (fuel : Nat) (f : Focus), f.here.tag ≠ .keep →
    SameView f (raise fuel f) := by
  intro fuel
  induction fuel with
  | zero => exact fun f _ => .refl f
  | succ fuel ih =>
    rintro ⟨_ | ⟨⟨tag, lines⟩, before⟩, ⟨tag', rest⟩, after⟩ hhere
    · exact .refl _
    -- after one move the rest goes on by induction
    have step {f g : Focus} (hf : f.here.tag ≠ .keep) (h : SameView f g) :
        SameView f (raise fuel g) := h.trans (ih g (h.tag_eq ▸ hf))
    simp only [raise]
    by_cases hkeep : tag = .keep
    · subst hkeep
      have hstay : SameView ⟨⟨.keep, lines⟩ :: before, ⟨tag', rest⟩, after⟩
          (if lines.isEmpty then raise fuel ⟨before, ⟨tag', rest⟩, after⟩
            else ⟨⟨.keep, lines⟩ :: before, ⟨tag', rest⟩, after⟩) := by
        split
        · next hempty =>
          obtain rfl : lines = [] := by simpa using hempty
          exact step hhere .skip_before
        · exact .refl _
      by_cases hinsert : tag' = .insert
      · subst hinsert
        simp only [if_true]
        have hend := drop_commonLength lines rest
        generalize commonLength lines.reverse rest.reverse = k at hend ⊢
        split
        · exact step hhere (.rotate_up (List.take_append_drop ..)
            (by rw [hend, List.take_append_drop]))
        · exact hstay
      · simpa [hinsert] using hstay
    · by_cases hsame : tag = tag'
      · subst hsame
        simpa [hkeep] using step hhere .join_before
      · simpa [hkeep, hsame] using step hhere (.pass hkeep hhere hsame)

/-- **A block that moves down changes neither text.** -/
theorem sameView_lower : ∀ (fuel : Nat) (f : Focus), f.here.tag ≠ .keep →
    SameView f (lower fuel f) := by
  intro fuel
  induction fuel with
  | zero => exact fun f _ => .refl f
  | succ fuel ih =>
    rintro ⟨before, ⟨tag', rest⟩, _ | ⟨⟨tag, lines⟩, after⟩⟩ hhere
    · exact .refl _
    have step {f g : Focus} (hf : f.here.tag ≠ .keep) (h : SameView f g) :
        SameView f (lower fuel g) := h.trans (ih g (h.tag_eq ▸ hf))
    simp only [lower]
    by_cases hkeep : tag = .keep
    · subst hkeep
      have hstay : SameView ⟨before, ⟨tag', rest⟩, ⟨.keep, lines⟩ :: after⟩
          (if lines.isEmpty then lower fuel ⟨before, ⟨tag', rest⟩, after⟩
            else ⟨before, ⟨tag', rest⟩, ⟨.keep, lines⟩ :: after⟩) := by
        split
        · next hempty =>
          obtain rfl : lines = [] := by simpa using hempty
          exact step hhere .skip_after
        · exact .refl _
      by_cases hinsert : tag' = .insert
      · subst hinsert
        simp only [if_true]
        have hstart := take_commonLength lines rest
        generalize commonLength lines rest = k at hstart ⊢
        split
        · exact step hhere (.rotate_down (List.take_append_drop ..)
            (by rw [hstart, List.take_append_drop]))
        · exact hstay
      · simpa [hinsert] using hstay
    · by_cases hsame : tag = tag'
      · subst hsame
        simpa [hkeep] using step hhere .join_after
      · simpa [hkeep, hsame] using step hhere
          (SameView.pass hkeep hhere hsame).symm

theorem sameTexts_settle {tag : Tag} (htag : tag ≠ .keep) :
    ∀ (fuel : Nat) (before after : List Block),
      SameTexts (before.reverse ++ after) (settle tag fuel before after) := by
  intro fuel
  induction fuel with
  | zero => exact fun before after => .refl _
  | succ fuel ih =>
    rintro before (_ | ⟨b, after⟩)
    · simpa [settle] using SameTexts.refl before.reverse
    · simp only [settle]
      split
      · next hb =>
        have hup := sameView_raise (weight before) ⟨before, b, after⟩ (hb ▸ htag)
        generalize raise (weight before) ⟨before, b, after⟩ = g at hup ⊢
        have hdown := sameView_lower (weight g.after) g (hup.tag_eq ▸ hb ▸ htag)
        generalize lower (weight g.after) g = f at hdown ⊢
        refine (hup.trans hdown).texts.trans ?_
        simpa [Focus.blocks] using ih (f.here :: f.before) f.after
      · simpa using ih (b :: before) after

/-- **Compact blocks make up the same texts.** -/
theorem sameTexts_compact (blocks : List Block) : SameTexts blocks (compact blocks) :=
  .trans (sameTexts_settle (by decide) _ [] blocks) (sameTexts_settle (by decide) _ [] _)

/-! ## 4. The changes one by one -/

/-- Kept and deleted lines are in the old text. -/
def Tag.isOld : Tag → Bool
  | keep | delete => true
  | insert => false

/-- Kept and inserted lines are in the new text. -/
def Tag.isNew : Tag → Bool
  | keep | insert => true
  | delete => false

/-- The lines of the changes of these kinds, in order. -/
def linesOf (changes : List Change) (p : Tag → Bool) : List Line :=
  (changes.filter fun c => p c.tag).map (·.line)

section

variable (lines : List Line) (tag : Tag) (l m : List Change) (p : Tag → Bool)

@[simp] theorem linesOf_append : linesOf (l ++ m) p = linesOf l p ++ linesOf m p := by
  simp [linesOf]

theorem linesOf_map : linesOf (lines.map (.mk tag)) p = if p tag then lines else [] := by
  by_cases h : p tag <;> simp [linesOf, List.filter_map, Function.comp_def, h]

end

/-- Held-back deletions come first, and what is inserted is no part of the old text. -/
theorem linesOf_changes_old : ∀ (deleted inserted : List Line) (blocks : List Block),
    linesOf (changes deleted inserted blocks) Tag.isOld = deleted ++ oldLines blocks
  | deleted, inserted, [] => by simp [changes, linesOf_map, Tag.isOld]
  | deleted, inserted, ⟨.delete, lines⟩ :: blocks => by
    simp [changes, linesOf_changes_old (deleted ++ lines) inserted blocks, oldLines_cons]
  | deleted, inserted, ⟨.insert, lines⟩ :: blocks => by
    simp [changes, linesOf_changes_old deleted (inserted ++ lines) blocks, oldLines_cons]
  | deleted, inserted, ⟨.keep, lines⟩ :: blocks => by
    simp [changes, linesOf_changes_old [] [] blocks, linesOf_map, oldLines_cons, Tag.isOld]

theorem linesOf_changes_new : ∀ (deleted inserted : List Line) (blocks : List Block),
    linesOf (changes deleted inserted blocks) Tag.isNew = inserted ++ newLines blocks
  | deleted, inserted, [] => by simp [changes, linesOf_map, Tag.isNew]
  | deleted, inserted, ⟨.delete, lines⟩ :: blocks => by
    simp [changes, linesOf_changes_new (deleted ++ lines) inserted blocks, newLines_cons]
  | deleted, inserted, ⟨.insert, lines⟩ :: blocks => by
    simp [changes, linesOf_changes_new deleted (inserted ++ lines) blocks, newLines_cons]
  | deleted, inserted, ⟨.keep, lines⟩ :: blocks => by
    simp [changes, linesOf_changes_new [] [] blocks, linesOf_map, newLines_cons, Tag.isNew]

/-- The changes are an edit script from the old lines to the new ones. -/
structure EditScript (old new : List Line) (changes : List Change) : Prop where
  old_eq : linesOf changes Tag.isOld = old
  new_eq : linesOf changes Tag.isNew = new

/-- **A difference is an edit script.** -/
theorem diff_editScript (old new : List Line) : EditScript old new (diff old new) := by
  have hsolve := solve_leads (old.length + new.length + 1) old new
  have hcompact := sameTexts_compact (solve (old.length + new.length + 1) old new)
  constructor
  · simp only [diff, linesOf_changes_old, List.nil_append, ← hcompact.old_eq, hsolve.old_eq]
  · simp only [diff, linesOf_changes_new, List.nil_append, ← hcompact.new_eq, hsolve.new_eq]

theorem EditScript.mem {old new : List Line} {l : List Change} (h : EditScript old new l)
    {c : Change} (hc : c ∈ l) : c.line ∈ old ∨ c.line ∈ new := by
  have hmem {p : Tag → Bool} (hp : p c.tag) : c.line ∈ linesOf l p :=
    List.mem_map_of_mem (List.mem_filter.mpr ⟨hc, hp⟩)
  rcases hkind : c.tag with _ | _ | _
  · exact .inl (h.old_eq ▸ hmem (by rw [hkind]; rfl))
  · exact .inl (h.old_eq ▸ hmem (by rw [hkind]; rfl))
  · exact .inr (h.new_eq ▸ hmem (by rw [hkind]; rfl))

@[simp] theorem map_text_ofTexts : ∀ l : List String, (Line.ofTexts l).map (·.text) = l
  | [] => rfl
  | [t] => rfl
  | t :: t' :: rest => by simp [Line.ofTexts, map_text_ofTexts (t' :: rest)]

/-! ## 5. The text of a difference -/

/-- The character that a marked line begins with. -/
def Tag.mark : Tag → Char
  | keep => ' '
  | delete => '-'
  | insert => '+'

/-- A line behind its mark. -/
def Change.marked (c : Change) : String := String.singleton c.tag.mark ++ c.line.text

theorem Change.text_eq (c : Change) : c.text = c.marked ++ "\n" := by
  obtain ⟨_ | _ | _, line⟩ := c <;> rfl

theorem Change.oneLine_marked {c : Change} (h : Text.OneLine c.line.text) :
    Text.OneLine c.marked := by
  obtain ⟨_ | _ | _, line⟩ := c <;> simpa [Text.OneLine, marked, Tag.mark] using h

/-- The lines that begin with one of the marks, without it. -/
def withMark (marks : List Char) (lines : List String) : List String :=
  lines.filterMap fun line =>
    match line.toList with
    | c :: rest => if c ∈ marks then some (String.ofList rest) else none
    | [] => none

theorem withMark_marked {marks : List Char} {p : Tag → Bool} (h : ∀ tag, tag.mark ∈ marks ↔ p tag)
    (l : List Change) : withMark marks (l.map Change.marked) = (linesOf l p).map (·.text) := by
  induction l with
  | nil => rfl
  | cons c l ih =>
    have hcons : linesOf (c :: l) p = (if p c.tag then [c.line] else []) ++ linesOf l p := by
      by_cases hp : p c.tag <;> simp [linesOf, hp]
    rw [hcons, List.map_append, ← ih]
    by_cases hp : p c.tag <;> simp [withMark, Change.marked, h, hp]

/-- A difference of two texts, given as lines, says what both of them are. -/
structure Faithful (old new : List String) (diff : String) : Prop where
  marked : ∀ line ∈ Text.lines diff, ∃ mark ∈ [' ', '-', '+'], line.toList.head? = some mark
  old_eq : withMark [' ', '-'] (Text.lines diff) = old
  new_eq : withMark [' ', '+'] (Text.lines diff) = new

/-- **The text of a difference is faithful.** -/
theorem faithful_diffText {old new : List String} (hold : ∀ t ∈ old, Text.OneLine t)
    (hnew : ∀ t ∈ new, Text.OneLine t) : Faithful old new (diffText old new) := by
  have hscript := diff_editScript (Line.ofTexts old) (Line.ofTexts new)
  generalize hl : diff (Line.ofTexts old) (Line.ofTexts new) = l at hscript
  have hone : ∀ c ∈ l, Text.OneLine c.line.text := by
    intro c hc
    rcases hscript.mem hc with hmem | hmem
    · exact hold _ (map_text_ofTexts old ▸ List.mem_map_of_mem hmem)
    · exact hnew _ (map_text_ofTexts new ▸ List.mem_map_of_mem hmem)
  have hlines : Text.lines (diffText old new) = l.map Change.marked := by
    have htext : l.map Change.text = (l.map Change.marked).map (· ++ "\n") := by
      rw [List.map_map]
      exact List.map_congr_left fun c _ => c.text_eq
    rw [diffText, hl, htext, Text.lines_join]
    simpa using fun c hc => Change.oneLine_marked (hone c hc)
  refine ⟨?_, ?_, ?_⟩
  · rw [hlines]
    rintro _ hmem
    obtain ⟨⟨tag, line⟩, _, rfl⟩ := List.mem_map.mp hmem
    exact ⟨tag.mark, by cases tag <;> simp [Tag.mark], by simp [Change.marked]⟩
  · rw [hlines, withMark_marked (p := Tag.isOld) (by rintro (_ | _ | _) <;> decide),
      hscript.old_eq, map_text_ofTexts]
  · rw [hlines, withMark_marked (p := Tag.isNew) (by rintro (_ | _ | _) <;> decide),
      hscript.new_eq, map_text_ofTexts]

/-- **Between different texts a line is deleted or inserted.** -/
theorem Faithful.changed {old new : List String} {diff : String} (h : Faithful old new diff)
    (hne : old ≠ new) :
    ∃ line ∈ Text.lines diff, line.toList.head? = some '-' ∨ line.toList.head? = some '+' := by
  refine Classical.byContradiction fun hnone => hne ?_
  simp only [not_exists, not_and, not_or] at hnone
  -- all lines are kept, so both texts are read off the same lines
  have hkept : ∀ line ∈ Text.lines diff, line.toList.head? = some ' ' := by
    intro line hline
    obtain ⟨mark, hmark, hhead⟩ := h.marked line hline
    have hnone := hnone line hline
    simp only [List.mem_cons, List.not_mem_nil, or_false] at hmark
    rcases hmark with rfl | rfl | rfl
    · exact hhead
    · exact absurd hhead hnone.1
    · exact absurd hhead hnone.2
  have hsame : ∀ l : List String, (∀ line ∈ l, line.toList.head? = some ' ') →
      withMark [' ', '-'] l = withMark [' ', '+'] l := by
    intro l hl
    induction l with
    | nil => rfl
    | cons line l ih =>
      obtain ⟨hline, hl⟩ := List.forall_mem_cons.mp hl
      obtain ⟨rest, hrest⟩ := List.head?_eq_some_iff.mp hline
      simpa [withMark, hrest] using ih hl
  rw [← h.old_eq, ← h.new_eq, hsame _ hkept]

end SchemaCatalog.LineDiff
