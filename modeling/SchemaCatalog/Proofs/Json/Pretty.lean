/-
  Pretty texts are unambiguous
  ============================
  **Different values have different pretty texts, and a pretty text is divided
  into its lines again.**

  No line of a pretty text holds a line end, since strings are written with
  escapes.  The lines of a container are an opening bracket, indented lines and
  a closing bracket, so where it ends is seen from the first line that is
  not indented; and between the indented lines a comma tells whether another
  item follows.  By induction on the value, lines tell which value they
  begin with (`lines_cancel`).
-/
import SchemaCatalog.Proofs.Json.Compact
import SchemaCatalog.Proofs.Text.Lines

namespace SchemaCatalog

/-! ## 1. Lines with something after the last -/

/-- The lines with an end put after the last of them. -/
def ended (s : String) : List String → List String
  | [] => []
  | [last] => [last ++ s]
  | first :: rest => first :: ended s rest

/-- What may stand after the last line of an element or a member. -/
def IsSeparator (s : String) : Prop := s = "" ∨ s = ","

theorem IsSeparator.follows {s : String} (h : IsSeparator s) : Follows s.toList := by
  rcases h with rfl | rfl
  · exact follows_nil
  · exact follows_cons (Or.inl rfl) []

@[simp] theorem ended_singleton (s t : String) : ended s [t] = [t ++ s] := rfl

theorem ended_empty : ∀ l : List String, ended "" l = l
  | [] => rfl
  | [last] => by simp
  | first :: second :: rest => by rw [ended, ended_empty (second :: rest)]; simp

theorem ended_append_singleton (s t : String) :
    ∀ l : List String, ended s (l ++ [t]) = l ++ [t ++ s]
  | [] => rfl
  | [first] => rfl
  | first :: second :: rest => by
    rw [List.cons_append, List.cons_append, ended, ← List.cons_append,
      ended_append_singleton s t (second :: rest)]
    · rfl
    · simp

theorem ended_cons (s first : String) (rest : List String) :
    ∃ t tail, ended s (first :: rest) = (first ++ t) :: tail := by
  cases rest with
  | nil => exact ⟨s, [], rfl⟩
  | cons second rest => exact ⟨"", ended s (second :: rest), by simp [ended]⟩

theorem ended_ne_nil {s : String} {l : List String} (h : l ≠ []) : ended s l ≠ [] := by
  obtain ⟨first, rest, rfl⟩ := List.exists_cons_of_ne_nil h
  obtain ⟨t, tail, htail⟩ := ended_cons s first rest
  rw [htail]
  exact List.cons_ne_nil _ _

theorem oneLine_of_mem_ended {s : String} (hs : Text.OneLine s) :
    ∀ {l : List String}, (∀ t ∈ l, Text.OneLine t) → ∀ t ∈ ended s l, Text.OneLine t
  | [], hl => hl
  | [last], hl => by
    have hlast := hl last (by simp)
    simpa [Text.OneLine] using And.intro hlast hs
  | first :: second :: rest, hl => by
    obtain ⟨hfirst, hrest⟩ := List.forall_mem_cons.mp hl
    exact List.forall_mem_cons.mpr ⟨hfirst, oneLine_of_mem_ended hs hrest⟩

/-! ## 2. Items between brackets -/

section

variable {α : Type} (f : α → List String)

/-- The lines of items, with a comma after each but the last. -/
def itemLines : List α → List String
  | [] => []
  | [a] => f a
  | a :: rest => ended "," (f a) ++ itemLines rest

/-- What stands between an item and those that follow it. -/
def separatorBefore (l : List α) : String := if l.isEmpty then "" else ","

theorem isSeparator_separatorBefore (l : List α) : IsSeparator (separatorBefore l) := by
  cases l
  · exact Or.inl rfl
  · exact Or.inr rfl

theorem itemLines_cons (a : α) (l : List α) :
    itemLines f (a :: l) = ended (separatorBefore l) (f a) ++ itemLines f l := by
  cases l with
  | nil => simp [itemLines, separatorBefore, ended_empty]
  | cons b l => rfl

/-- The lines of a container: its brackets, and the items between them, indented. -/
def containerLines (opening closing : String) : List α → List String
  | [] => [opening ++ closing]
  | a :: l => opening :: (itemLines f (a :: l)).map ("  " ++ ·) ++ [closing]

variable {f}

/-- Different items have different lines, whatever follows them. -/
def Tells (f : α → List String) (a b : α) : Prop :=
  ∀ s s', IsSeparator s → IsSeparator s' → ∀ r r',
    ended s (f a) ++ r = ended s' (f b) ++ r' → a = b ∧ s = s' ∧ r = r'

theorem itemLines_cancel (hne : ∀ a, f a ≠ []) {l m : List α}
    (hitem : ∀ a ∈ l, ∀ b ∈ m, Tells f a b) (h : itemLines f l = itemLines f m) : l = m := by
  have hnil (a : α) (l : List α) : itemLines f (a :: l) ≠ [] := by
    rw [itemLines_cons]
    exact List.append_ne_nil_of_left_ne_nil (ended_ne_nil (hne a)) _
  induction l generalizing m with
  | nil =>
    cases m with
    | nil => rfl
    | cons b m => exact absurd h.symm (hnil b m)
  | cons a l ih =>
    cases m with
    | nil => exact absurd h (hnil a l)
    | cons b m =>
      rw [itemLines_cons, itemLines_cons] at h
      obtain ⟨rfl, -, hrest⟩ := hitem a List.mem_cons_self b List.mem_cons_self _ _
        (isSeparator_separatorBefore l) (isSeparator_separatorBefore m) _ _ h
      rw [ih (fun a ha b hb => hitem a (List.mem_cons_of_mem _ ha) b (List.mem_cons_of_mem _ hb))
        hrest]

variable {opening closing : String}

theorem ended_containerLines (s : String) (a : α) (l : List α) :
    ended s (containerLines f opening closing (a :: l)) =
      opening :: (itemLines f (a :: l)).map ("  " ++ ·) ++ [closing ++ s] :=
  ended_append_singleton s closing _

/-- Where the items end: all their lines are indented, and the closing bracket is not. -/
theorem body_cancel (hclosing : ∃ c rest, closing.toList = c :: rest ∧ c ≠ ' ')
    {l m : List String} {s s' : String} {r r' : List String}
    (h : l.map ("  " ++ ·) ++ (closing ++ s) :: r = m.map ("  " ++ ·) ++ (closing ++ s') :: r') :
    l = m ∧ s = s' ∧ r = r' := by
  obtain ⟨c, rest, hchars, hc⟩ := hclosing
  have hindented (k : List String) :
      ∀ t ∈ k.map ("  " ++ ·), (t.toList.head? == some ' ') = true := by
    rintro _ ht
    obtain ⟨t, _, rfl⟩ := List.mem_map.mp ht
    simp
  have hend (s : String) (r : List String) :
      ∀ t, ((closing ++ s) :: r).head? = some t → (t.toList.head? == some ' ') = false := by
    intro t ht
    rw [← Option.some.inj ht]
    simpa [hchars] using hc
  obtain ⟨hbody, hrest⟩ := span_cancel (hindented l) (hindented m) (hend s r) (hend s' r') h
  obtain ⟨hs, rfl⟩ := List.cons.inj hrest
  refine ⟨List.map_injective_iff.mpr (fun t t' ht => ?_) hbody, ?_, rfl⟩
  · exact (String.append_right_inj _).mp ht
  · exact (String.append_right_inj _).mp hs

/-- **Lines tell which items stand between the brackets they begin with.** -/
theorem containerLines_cancel (hclosing : ∃ c rest, closing.toList = c :: rest ∧ c ≠ ' ')
    (hne : ∀ a, f a ≠ []) {l m : List α} (hitem : ∀ a ∈ l, ∀ b ∈ m, Tells f a b)
    {s s' : String} {r r' : List String}
    (h : ended s (containerLines f opening closing l) ++ r =
      ended s' (containerLines f opening closing m) ++ r') : l = m ∧ s = s' ∧ r = r' := by
  -- an opening bracket with something after it is not the bracket alone
  have hbracket (s : String) : opening ++ closing ++ s ≠ opening := by
    obtain ⟨c, rest, hchars, -⟩ := hclosing
    intro heq
    have := congrArg String.toList heq
    simp [hchars] at this
  rcases l with _ | ⟨a, l⟩ <;> rcases m with _ | ⟨b, m⟩
  · obtain ⟨hs, rfl⟩ := List.cons.inj h
    exact ⟨rfl, (String.append_right_inj _).mp hs, rfl⟩
  · rw [ended_containerLines] at h
    exact absurd (List.cons.inj h).1 (hbracket s)
  · rw [ended_containerLines] at h
    exact absurd (List.cons.inj h).1.symm (hbracket s')
  · rw [ended_containerLines, ended_containerLines, List.cons_append, List.cons_append,
      List.cons_append, List.cons_append, List.append_assoc, List.append_assoc] at h
    obtain ⟨hbody, hrest⟩ := body_cancel hclosing (List.cons.inj h).2
    exact ⟨itemLines_cancel hne hitem hbody, hrest⟩

theorem oneLine_of_mem_itemLines : ∀ {l : List α}, (∀ a ∈ l, ∀ t ∈ f a, Text.OneLine t) →
    ∀ t ∈ itemLines f l, Text.OneLine t
  | [], _ => nofun
  | a :: l, hl => by
    obtain ⟨ha, hl⟩ := List.forall_mem_cons.mp hl
    have hseparator : Text.OneLine (separatorBefore l) := by
      cases l <;> simp [separatorBefore, Text.OneLine]
    rw [itemLines_cons]
    exact List.forall_mem_append.mpr
      ⟨oneLine_of_mem_ended hseparator ha, oneLine_of_mem_itemLines hl⟩

theorem oneLine_of_mem_containerLines (hopening : Text.OneLine opening)
    (hclosing : Text.OneLine closing) {l : List α} (hl : ∀ a ∈ l, ∀ t ∈ f a, Text.OneLine t) :
    ∀ t ∈ containerLines f opening closing l, Text.OneLine t := by
  cases l with
  | nil => simpa [containerLines, Text.OneLine] using And.intro hopening hclosing
  | cons a l =>
    intro t ht
    simp only [containerLines, List.cons_append, List.mem_cons, List.mem_append, List.mem_map,
      List.not_mem_nil, or_false] at ht
    rcases ht with rfl | ⟨t, ht, rfl⟩ | rfl
    · exact hopening
    · simpa [Text.OneLine] using oneLine_of_mem_itemLines hl t ht
    · exact hclosing

theorem getLast_containerLines (hclosing : closing ≠ "") (l : List α) :
    ∀ t ∈ (containerLines f opening closing l).getLast?, t ≠ "" := by
  cases l with
  | nil => simp [containerLines, hclosing]
  | cons a l =>
    rw [containerLines, List.getLast?_concat]
    simpa using hclosing

end

/-! ## 3. Scalars -/

theorem Text.OneLine.jsonString (s : String) : OneLine (jsonString s) := by
  have hescaped : ∀ c ∈ escapedChars, '\n' ∉ (escapeChar c).toList := by
    have hall : escapedChars.all fun c => decide ('\n' ∉ (escapeChar c).toList) := by
      decide +kernel
    exact fun c hc => of_decide_eq_true (List.all_eq_true.mp hall c hc)
  have hchar (c : Char) : '\n' ∉ (escapeChar c).toList := by
    by_cases hc : c ∈ escapedChars
    · exact hescaped c hc
    · rw [escapeChar_of_not_mem hc, List.mem_singleton]
      rintro rfl
      exact hc (by decide +kernel)
  rw [OneLine, jsonString_toList]
  simpa using fun c _ => hchar c

namespace Scalar

theorem text_eq (s : Scalar) : s.text = s.toJson.compact := by cases s <;> rfl

theorem toJson_injective {s t : Scalar} (h : s.toJson = t.toJson) : s = t := by
  cases s <;> cases t <;> cases h <;> rfl

theorem kindIndex_lt (s : Scalar) : s.toJson.kindIndex < 4 := by
  cases s <;> simp [toJson, Json.kindIndex]

theorem oneLine_text (s : Scalar) : Text.OneLine s.text := by
  cases s with
  | null => simp [text, Text.OneLine]
  | bool b => cases b <;> simp [text, Text.OneLine]
  | num n => exact fun h => absurd (n.text_chars _ h) (by decide)
  | str s => exact .jsonString s

end Scalar

/-! ## 4. Values -/

namespace OrderedJson

theorem separated_eq : ∀ l : List String, separated l = (ended "," l).map ("  " ++ ·)
  | [] => rfl
  | [last] => by simp [separated, String.append_assoc]
  | first :: second :: rest => by simp [separated, ended, separated_eq (second :: rest)]

def memberLines (e : String × OrderedJson) : List String := named e.1 e.2.lines

theorem linesOfElements_eq : ∀ l : List OrderedJson,
    linesOfElements l = (itemLines lines l).map ("  " ++ ·)
  | [] => rfl
  | [v] => rfl
  | v :: w :: rest => by
    simp [linesOfElements, itemLines, separated_eq, linesOfElements_eq (w :: rest)]

theorem linesOfMembers_eq : ∀ l : List (String × OrderedJson),
    linesOfMembers l = (itemLines memberLines l).map ("  " ++ ·)
  | [] => rfl
  | [v] => rfl
  | v :: w :: rest => by
    simp [linesOfMembers, itemLines, memberLines, separated_eq, linesOfMembers_eq (w :: rest)]

theorem lines_arr (l : List OrderedJson) : (arr l).lines = containerLines lines "[" "]" l := by
  cases l with
  | nil => rfl
  | cons v l => simp [lines, containerLines, linesOfElements_eq]

theorem lines_obj (l : List (String × OrderedJson)) :
    (obj l).lines = containerLines memberLines "\x7b" "\x7d" l := by
  cases l with
  | nil => rfl
  | cons e l => simp [lines, containerLines, linesOfMembers_eq]

/-- Every number is in canonical form. -/
inductive Canonical : OrderedJson → Prop where
  | scalar {s : Scalar} : s.toJson.WellFormed → Canonical (.scalar s)
  | arr {l : List OrderedJson} : (∀ v ∈ l, Canonical v) → Canonical (.arr l)
  | obj {l : List (String × OrderedJson)} : (∀ e ∈ l, Canonical e.2) → Canonical (.obj l)

/-- The first line of a value begins with a character that tells the kind of the value. -/
theorem lines_head (v : OrderedJson) : ∃ c rest tail,
    v.lines = String.ofList (c :: rest) :: tail ∧ Json.kindOfChar c = v.toJson.kindIndex := by
  cases v with
  | scalar s =>
    obtain ⟨c, rest, htext, hkind⟩ := Json.compact_head s.toJson
    refine ⟨c, rest, [], ?_, by rw [hkind, toJson]⟩
    rw [lines, s.text_eq, ← htext, String.ofList_toList]
  | arr l =>
    rw [lines_arr, toJson]
    cases l
    · exact ⟨'[', [']'], [], rfl, rfl⟩
    · exact ⟨'[', [], _, rfl, rfl⟩
  | obj l =>
    rw [lines_obj, toJson]
    cases l
    · exact ⟨'\x7b', ['\x7d'], [], rfl, rfl⟩
    · exact ⟨'\x7b', [], _, rfl, rfl⟩

theorem lines_ne_nil (v : OrderedJson) : v.lines ≠ [] := by
  obtain ⟨c, rest, tail, hlines, -⟩ := v.lines_head
  rw [hlines]
  exact List.cons_ne_nil _ _

theorem kindIndex_eq_of_lines {v w : OrderedJson} {s s' : String} {r r' : List String}
    (h : ended s v.lines ++ r = ended s' w.lines ++ r') :
    v.toJson.kindIndex = w.toJson.kindIndex := by
  obtain ⟨c, rest, tail, hv, hkind⟩ := v.lines_head
  obtain ⟨d, rest', tail', hw, hkind'⟩ := w.lines_head
  obtain ⟨t, _, ht⟩ := ended_cons s (String.ofList (c :: rest)) tail
  obtain ⟨t', _, ht'⟩ := ended_cons s' (String.ofList (d :: rest')) tail'
  rw [hv, hw, ht, ht', List.cons_append, List.cons_append] at h
  have hfirst := congrArg String.toList (List.cons.inj h).1
  rw [String.toList_append, String.toList_append, String.toList_ofList, String.toList_ofList,
    List.cons_append, List.cons_append] at hfirst
  rw [← hkind, ← hkind', (List.cons.inj hfirst).1]

theorem named_cancel {j k : String} {l m : List String} (hl : l ≠ []) (hm : m ≠ [])
    (h : named j l = named k m) : j = k ∧ l = m := by
  obtain ⟨first, rest, rfl⟩ := List.exists_cons_of_ne_nil hl
  obtain ⟨first', rest', rfl⟩ := List.exists_cons_of_ne_nil hm
  obtain ⟨hfirst, rfl⟩ := List.cons.inj h
  have hchars := congrArg String.toList hfirst
  rw [String.append_assoc, String.append_assoc, String.toList_append,
    String.toList_append (s := Text.jsonString k)] at hchars
  obtain ⟨rfl, hrest⟩ := jsonString_cancel hchars
  rw [(String.append_right_inj _).mp (String.toList_inj.mp hrest)]
  exact ⟨rfl, rfl⟩

theorem named_append (k : String) {l : List String} (hl : l ≠ []) (r : List String) :
    named k l ++ r = named k (l ++ r) := by
  obtain ⟨first, rest, rfl⟩ := List.exists_cons_of_ne_nil hl
  rfl

theorem ended_named (s k : String) : ∀ l : List String, ended s (named k l) = named k (ended s l)
  | [] => rfl
  | [last] => by simp [named, String.append_assoc]
  | first :: second :: rest => rfl

theorem memberLines_ne_nil (e : String × OrderedJson) : memberLines e ≠ [] := by
  obtain ⟨first, rest, hlines⟩ := List.exists_cons_of_ne_nil e.2.lines_ne_nil
  rw [memberLines, hlines]
  exact List.cons_ne_nil _ _

theorem tells_memberLines {e e' : String × OrderedJson} (h : Tells lines e.2 e'.2) :
    Tells memberLines e e' := by
  intro s s' hs hs' r r' heq
  have hne (s : String) (v : OrderedJson) : ended s v.lines ≠ [] := ended_ne_nil v.lines_ne_nil
  rw [memberLines, memberLines, ended_named, ended_named, named_append _ (hne s e.2),
    named_append _ (hne s' e'.2)] at heq
  obtain ⟨hname, hlines⟩ := named_cancel (List.append_ne_nil_of_left_ne_nil (hne s e.2) r)
    (List.append_ne_nil_of_left_ne_nil (hne s' e'.2) r') heq
  obtain ⟨hvalue, hrest⟩ := h s s' hs hs' r r' hlines
  exact ⟨Prod.ext hname hvalue, hrest⟩

/-- **Lines tell which value they begin with.** -/
theorem lines_cancel {v : OrderedJson} (hv : v.Canonical) :
    ∀ w : OrderedJson, w.Canonical → Tells lines v w := by
  -- in each case the first character leaves only values of the same kind
  induction hv with
  | @scalar a ha =>
    intro w hw s s' hs hs' r r' h
    have hkind := kindIndex_eq_of_lines h
    cases hw with
    | @scalar b hb =>
      obtain ⟨htext, rfl⟩ := List.cons.inj h
      have hchars := congrArg String.toList htext
      rw [a.text_eq, b.text_eq, String.toList_append, String.toList_append] at hchars
      obtain ⟨hvalue, hend⟩ := Json.compact_cancel ha b.toJson hb _ _ hs.follows hs'.follows hchars
      rw [Scalar.toJson_injective hvalue]
      exact ⟨rfl, String.toList_inj.mp hend, rfl⟩
    | arr => exact absurd hkind (Nat.ne_of_lt a.kindIndex_lt)
    | obj => exact absurd hkind (Nat.ne_of_lt (Nat.lt_succ_of_lt a.kindIndex_lt))
  | @arr l hl ih =>
    intro w hw s s' hs hs' r r' h
    have hkind := kindIndex_eq_of_lines h
    cases hw with
    | @arr m hm =>
      rw [lines_arr, lines_arr] at h
      obtain ⟨rfl, hrest⟩ := containerLines_cancel ⟨']', [], rfl, by decide⟩ lines_ne_nil
        (fun a ha b hb => ih a ha b (hm b hb)) h
      exact ⟨rfl, hrest⟩
    | @scalar b => exact absurd hkind.symm (Nat.ne_of_lt b.kindIndex_lt)
    | obj => exact nomatch hkind
  | @obj l hl ih =>
    intro w hw s s' hs hs' r r' h
    have hkind := kindIndex_eq_of_lines h
    cases hw with
    | @obj m hm =>
      rw [lines_obj, lines_obj] at h
      obtain ⟨rfl, hrest⟩ := containerLines_cancel ⟨'\x7d', [], rfl, by decide⟩
        memberLines_ne_nil (fun a ha b hb => tells_memberLines (ih a ha b.2 (hm b hb))) h
      exact ⟨rfl, hrest⟩
    | @scalar b => exact absurd hkind.symm (Nat.ne_of_lt (Nat.lt_succ_of_lt b.kindIndex_lt))
    | arr => exact nomatch hkind

/-- **The lines of a pretty text determine the value.** -/
theorem eq_of_lines_eq {v w : OrderedJson} (hv : v.Canonical) (hw : w.Canonical)
    (h : v.lines = w.lines) : v = w := by
  have h : ended "" v.lines ++ [] = ended "" w.lines ++ [] := by rw [h]
  exact (lines_cancel hv w hw "" "" (Or.inl rfl) (Or.inl rfl) [] [] h).1

theorem oneLine_of_mem_memberLines {e : String × OrderedJson}
    (h : ∀ t ∈ e.2.lines, Text.OneLine t) : ∀ t ∈ memberLines e, Text.OneLine t := by
  obtain ⟨first, rest, hlines⟩ := List.exists_cons_of_ne_nil e.2.lines_ne_nil
  rw [hlines] at h
  obtain ⟨hfirst, hrest⟩ := List.forall_mem_cons.mp h
  rw [memberLines, hlines]
  refine List.forall_mem_cons.mpr ⟨?_, hrest⟩
  have hname := Text.OneLine.jsonString e.1
  simpa [Text.OneLine] using And.intro hname hfirst

theorem oneLine_of_mem_lines {v : OrderedJson} (h : v.Canonical) :
    ∀ t ∈ v.lines, Text.OneLine t := by
  induction h with
  | @scalar s _ => exact List.forall_mem_singleton.mpr s.oneLine_text
  | @arr l _ ih =>
    rw [lines_arr]
    exact oneLine_of_mem_containerLines (by decide) (by decide) ih
  | @obj l _ ih =>
    rw [lines_obj]
    exact oneLine_of_mem_containerLines (by decide) (by decide) fun e he =>
      oneLine_of_mem_memberLines (ih e he)

theorem getLast_lines (v : OrderedJson) : ∀ t ∈ v.lines.getLast?, t ≠ "" := by
  cases v with
  | scalar s =>
    obtain ⟨c, rest, tail, hlines, -⟩ := (scalar s).lines_head
    obtain ⟨htext, -⟩ := List.cons.inj hlines
    simp [lines, htext]
  | arr l =>
    rw [lines_arr]
    exact getLast_containerLines (by decide) l
  | obj l =>
    rw [lines_obj]
    exact getLast_containerLines (by decide) l

/-- **A pretty text is divided into its lines again.** -/
theorem lines_pretty {v : OrderedJson} (h : v.Canonical) : Text.lines v.pretty = v.lines :=
  Text.lines_intercalate (oneLine_of_mem_lines h) v.getLast_lines

/-- **The pretty text determines the value.** -/
theorem eq_of_pretty_eq {v w : OrderedJson} (hv : v.Canonical) (hw : w.Canonical)
    (h : v.pretty = w.pretty) : v = w :=
  eq_of_lines_eq hv hw (by rw [← lines_pretty hv, ← lines_pretty hw, h])

end OrderedJson

end SchemaCatalog
