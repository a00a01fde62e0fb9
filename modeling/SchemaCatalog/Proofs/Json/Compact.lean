/-
  Compact texts are unambiguous
  =============================
  **Different well-formed values have different compact texts.**

  A text that follows the text of a value begins with a comma or a closing
  bracket or is empty; it cannot be taken for a part of a number.  Under
  this condition a text tells where the value at its beginning ends
  (`compact_cancel`): by induction on the value, with one lemma for what stands
  between commas, whether elements or members.
-/
import SchemaCatalog.Json.Token
import SchemaCatalog.Proofs.Json.WellFormed

namespace SchemaCatalog

/-! ## 1. Strings -/

/-- The characters that are written as an escape. -/
def escapedChars : List Char := '"' :: '\\' :: (List.range 0x20).map Char.ofNat

theorem mem_escapedChars_of_lt {c : Char} (h : c.toNat < 0x20) : c ∈ escapedChars := by
  refine List.mem_cons_of_mem _ (List.mem_cons_of_mem _ (List.mem_map.mpr ?_))
  exact ⟨c.toNat, List.mem_range.mpr h, Char.ofNat_toNat c⟩

theorem escapeChar_of_not_mem {c : Char} (h : c ∉ escapedChars) :
    (Text.escapeChar c).toList = [c] := by
  have hge : ¬ c.toNat < 0x20 := fun hlt => h (mem_escapedChars_of_lt hlt)
  have hne (d : Char) (hd : d ∈ escapedChars) : c ≠ d := by
    rintro rfl
    exact h hd
  rw [Text.escapeChar, if_neg (hne '"' (by decide)), if_neg (hne '\\' (by decide)),
    if_neg (by omega), if_neg (by omega), if_neg (hne '\n' (by decide +kernel)),
    if_neg (hne '\r' (by decide +kernel)), if_neg (hne '\t' (by decide +kernel)), if_neg hge,
    String.toList_singleton]

theorem head_escapeChar_of_mem :
    ∀ c ∈ escapedChars, (Text.escapeChar c).toList.head? = some '\\' := by
  have hall : escapedChars.all fun c =>
      decide ((Text.escapeChar c).toList.head? = some '\\') := by decide +kernel
  exact fun c hc => of_decide_eq_true (List.all_eq_true.mp hall c hc)

/-- No escape is the beginning of another one. -/
theorem escapeChar_prefix_cancel : ∀ c ∈ escapedChars, ∀ d ∈ escapedChars,
    (Text.escapeChar c).toList <+: (Text.escapeChar d).toList → c = d := by
  have hall : escapedChars.all fun c => escapedChars.all fun d =>
      decide ((Text.escapeChar c).toList <+: (Text.escapeChar d).toList → c = d) := by
    decide +kernel
  intro c hc d hd
  exact of_decide_eq_true (List.all_eq_true.mp (List.all_eq_true.mp hall c hc) d hd)

/-- **A text tells which character it begins with.** -/
theorem escapeChar_cancel {c d : Char} {r r' : List Char}
    (h : (Text.escapeChar c).toList ++ r = (Text.escapeChar d).toList ++ r') :
    c = d ∧ r = r' := by
  have hsame : c = d → r = r' := by
    rintro rfl
    exact List.append_cancel_left h
  have hmixed {a b : Char} {s s' : List Char} (ha : a ∈ escapedChars) (hb : b ∉ escapedChars) :
      (Text.escapeChar a).toList ++ s ≠ (Text.escapeChar b).toList ++ s' := by
    intro heq
    obtain ⟨rest, hrest⟩ := List.head?_eq_some_iff.mp (head_escapeChar_of_mem a ha)
    rw [escapeChar_of_not_mem hb, hrest] at heq
    have hhead : '\\' = b := (List.cons.inj heq).1
    exact hb (hhead ▸ (by decide : '\\' ∈ escapedChars))
  by_cases hc : c ∈ escapedChars
  · by_cases hd : d ∈ escapedChars
    · have heq : c = d := by
        have hprefix := List.prefix_append (Text.escapeChar c).toList r
        rw [h] at hprefix
        rcases List.prefix_or_prefix_of_prefix hprefix (List.prefix_append _ r') with hcd | hdc
        · exact escapeChar_prefix_cancel c hc d hd hcd
        · exact (escapeChar_prefix_cancel d hd c hc hdc).symm
      exact ⟨heq, hsame heq⟩
    · exact absurd h (hmixed hc hd)
  · by_cases hd : d ∈ escapedChars
    · exact absurd h.symm (hmixed hd hc)
    · have heq : c = d := by
        rw [escapeChar_of_not_mem hc, escapeChar_of_not_mem hd] at h
        exact (List.cons.inj h).1
      exact ⟨heq, hsame heq⟩

theorem escapeChar_ne_quote (c : Char) (r r' : List Char) :
    (Text.escapeChar c).toList ++ r ≠ '"' :: r' := by
  intro h
  by_cases hc : c ∈ escapedChars
  · obtain ⟨rest, hrest⟩ := List.head?_eq_some_iff.mp (head_escapeChar_of_mem c hc)
    rw [hrest] at h
    have hhead : '\\' = '"' := (List.cons.inj h).1
    exact absurd hhead (by decide)
  · rw [escapeChar_of_not_mem hc] at h
    have hhead : c = '"' := (List.cons.inj h).1
    exact hc (hhead ▸ (by decide : '"' ∈ escapedChars))

theorem escaped_cancel {l m r r' : List Char}
    (h : l.flatMap (fun c => (Text.escapeChar c).toList) ++ '"' :: r =
      m.flatMap (fun c => (Text.escapeChar c).toList) ++ '"' :: r') : l = m ∧ r = r' := by
  induction l generalizing m with
  | nil =>
    cases m with
    | nil => exact ⟨rfl, (List.cons.inj h).2⟩
    | cons d m =>
      rw [List.flatMap_cons, List.append_assoc] at h
      exact absurd h.symm (escapeChar_ne_quote d _ _)
  | cons c l ih =>
    cases m with
    | nil =>
      rw [List.flatMap_cons, List.append_assoc] at h
      exact absurd h (escapeChar_ne_quote c _ _)
    | cons d m =>
      rw [List.flatMap_cons, List.flatMap_cons, List.append_assoc, List.append_assoc] at h
      obtain ⟨rfl, hrest⟩ := escapeChar_cancel h
      obtain ⟨rfl, rfl⟩ := ih hrest
      exact ⟨rfl, rfl⟩

theorem toList_join (l : List String) : (String.join l).toList = l.flatMap String.toList := by
  induction l with
  | nil => rfl
  | cons s l ih => rw [String.join_cons, String.toList_append, ih, List.flatMap_cons]

theorem jsonString_toList (s : String) : (Text.jsonString s).toList =
    '"' :: (s.toList.flatMap (fun c => (Text.escapeChar c).toList) ++ ['"']) := by
  rw [Text.jsonString, String.toList_append, String.toList_append, toList_join, List.flatMap_map]
  rfl

/-- **A text tells which string it begins with.** -/
theorem jsonString_cancel {s t : String} {r r' : List Char}
    (h : (Text.jsonString s).toList ++ r = (Text.jsonString t).toList ++ r') :
    s = t ∧ r = r' := by
  rw [jsonString_toList, jsonString_toList, List.cons_append, List.cons_append,
    List.append_assoc, List.append_assoc] at h
  obtain ⟨hchars, hrest⟩ := escaped_cancel (List.cons.inj h).2
  exact ⟨String.toList_inj.mp hchars, hrest⟩

/-! ## 2. What follows a value -/

/-- A text that can follow a value: it is empty, or it begins with a comma or a closing bracket. -/
def Follows (r : List Char) : Prop := ∀ c, r.head? = some c → c = ',' ∨ c = ']' ∨ c = '\x7d'

theorem follows_nil : Follows [] := nofun

theorem follows_cons {c : Char} (h : c = ',' ∨ c = ']' ∨ c = '\x7d') (r : List Char) :
    Follows (c :: r) := by
  rintro d hd
  rwa [← Option.some.inj hd]

theorem Follows.not_numeral {r : List Char} (h : Follows r) :
    ∀ c, r.head? = some c → isNumeralChar c = false := by
  intro c hc
  rcases h c hc with rfl | rfl | rfl <;> decide

/-- What comes first is the longest part at the beginning that `p` holds of. -/
theorem span_cancel {α : Type} {p : α → Bool} {l m r r' : List α} (hl : ∀ c ∈ l, p c)
    (hm : ∀ c ∈ m, p c) (hr : ∀ c, r.head? = some c → p c = false)
    (hr' : ∀ c, r'.head? = some c → p c = false) (h : l ++ r = m ++ r') : l = m ∧ r = r' := by
  induction l generalizing m with
  | nil =>
    cases m with
    | nil => exact ⟨rfl, h⟩
    | cons d m =>
      rw [List.nil_append] at h
      have hno := hr d (by rw [h]; rfl)
      rw [hm d List.mem_cons_self] at hno
      cases hno
  | cons c l ih =>
    cases m with
    | nil =>
      rw [List.nil_append] at h
      have hno := hr' c (by rw [← h]; rfl)
      rw [hl c List.mem_cons_self] at hno
      cases hno
    | cons d m =>
      obtain ⟨rfl, htail⟩ := List.cons.inj h
      obtain ⟨rfl, rfl⟩ := ih (fun c hc => hl c (List.mem_cons_of_mem _ hc))
        (fun c hc => hm c (List.mem_cons_of_mem _ hc)) htail
      exact ⟨rfl, rfl⟩

section

variable {α : Type} (f : α → List Char) (close : Char)

/-- The items with commas between them, up to the closing bracket and what follows it. -/
def itemsText (l : List α) (r : List Char) : List Char :=
  List.intercalate [','] (l.map f) ++ close :: r

/-- What comes after the first item. -/
def afterItem (l : List α) (r : List Char) : List Char :=
  match l with
  | [] => close :: r
  | _ :: _ => ',' :: itemsText f close l r

theorem itemsText_cons (a : α) (l : List α) (r : List Char) :
    itemsText f close (a :: l) r = f a ++ afterItem f close l r := by
  cases l with
  | nil => rw [itemsText, List.map_cons, List.map_nil, List.intercalate_singleton, afterItem]
  | cons b l =>
    rw [itemsText, afterItem, itemsText, List.map_cons, List.map_cons,
      List.intercalate_cons_cons, List.append_assoc, List.append_assoc, List.singleton_append]

variable {f close}

/-- **A text tells which items it begins with**, if every item tells where it ends, and no item
    begins like the end. -/
theorem itemsText_cancel {l m : List α} {r r' : List Char}
    (hclose : close = ']' ∨ close = '\x7d')
    (hitem : ∀ a ∈ l, ∀ b ∈ m, ∀ s s', Follows s → Follows s' → f a ++ s = f b ++ s' →
      a = b ∧ s = s')
    (hl : ∀ a ∈ l, ∀ s s', f a ++ s ≠ close :: s') (hm : ∀ a ∈ m, ∀ s s', f a ++ s ≠ close :: s')
    (h : itemsText f close l r = itemsText f close m r') : l = m ∧ r = r' := by
  have hcomma : close ≠ ',' := by
    rcases hclose with rfl | rfl <;> decide
  have hfollows (k : List α) (s : List Char) : Follows (afterItem f close k s) := by
    cases k with
    | nil => exact follows_cons (Or.inr hclose) s
    | cons => exact follows_cons (Or.inl rfl) _
  induction l generalizing m with
  | nil =>
    cases m with
    | nil => exact ⟨rfl, (List.cons.inj h).2⟩
    | cons b m =>
      rw [itemsText_cons] at h
      exact absurd h.symm (hm b List.mem_cons_self _ _)
  | cons a l ih =>
    cases m with
    | nil =>
      rw [itemsText_cons] at h
      exact absurd h (hl a List.mem_cons_self _ _)
    | cons b m =>
      rw [itemsText_cons, itemsText_cons] at h
      obtain ⟨rfl, hafter⟩ := hitem a List.mem_cons_self b List.mem_cons_self _ _
        (hfollows l r) (hfollows m r') h
      have hrest : itemsText f close l r = itemsText f close m r' := by
        cases l with
        | nil =>
          cases m with
          | nil => exact hafter
          | cons => exact absurd (List.cons.inj hafter).1 hcomma
        | cons =>
          cases m with
          | nil => exact absurd (List.cons.inj hafter).1.symm hcomma
          | cons => exact (List.cons.inj hafter).2
      obtain ⟨rfl, rfl⟩ := ih
        (fun a ha b hb => hitem a (List.mem_cons_of_mem _ ha) b (List.mem_cons_of_mem _ hb))
        (fun a ha => hl a (List.mem_cons_of_mem _ ha))
        (fun a ha => hm a (List.mem_cons_of_mem _ ha)) hrest
      exact ⟨rfl, rfl⟩

end

/-! ## 3. Values -/

namespace Json

/-- The text of a member. -/
def memberText (e : String × Json) : List Char :=
  (Text.jsonString e.1).toList ++ ':' :: e.2.compact.toList

theorem compactElements_ordered (l : List Json) :
    OrderedJson.compactElements (orderedElements l) = l.map compact := by
  induction l with
  | nil => rfl
  | cons v l ih =>
    rw [orderedElements, OrderedJson.compactElements, ih]
    rfl

theorem compactMembers_ordered (l : List (String × Json)) :
    (OrderedJson.compactMembers (orderedMembers l)).map String.toList = l.map memberText := by
  induction l with
  | nil => rfl
  | cons e l ih =>
    obtain ⟨k, v⟩ := e
    rw [orderedMembers, OrderedJson.compactMembers, List.map_cons, ih, List.map_cons,
      String.toList_append, String.toList_append, List.append_assoc]
    rfl

theorem compact_arr (l : List Json) (r : List Char) :
    (arr l).compact.toList ++ r = '[' :: itemsText (fun v => v.compact.toList) ']' l r := by
  rw [compact, ordered, OrderedJson.compact, compactElements_ordered, String.toList_append,
    String.toList_append, String.toList_intercalate, List.map_map, List.append_assoc,
    List.append_assoc]
  rfl

theorem compact_obj (l : List (String × Json)) (r : List Char) :
    (obj ⟨l⟩).compact.toList ++ r = '\x7b' :: itemsText memberText '\x7d' l r := by
  rw [compact, ordered, OrderedJson.compact, String.toList_append, String.toList_append,
    String.toList_intercalate, compactMembers_ordered, List.append_assoc, List.append_assoc]
  rfl

/-- A number for each kind of value. -/
def kindIndex : Json → Nat
  | null => 0
  | bool _ => 1
  | num _ => 2
  | str _ => 3
  | arr _ => 4
  | obj _ => 5

/-- The kind of the values whose text begins with a character. -/
def kindOfChar (c : Char) : Nat :=
  if c = 'n' then 0
  else if c = 't' ∨ c = 'f' then 1
  else if c = '"' then 3
  else if c = '[' then 4
  else if c = '\x7b' then 5
  else 2

theorem kindOfChar_of_numeral {d : Char} (h : d.isDigit ∨ d = '-') : kindOfChar d = 2 := by
  have hne (c : Char) (hc : c.isDigit = false) (hminus : c ≠ '-') : d ≠ c := by
    rintro rfl
    rcases h with hd | hd
    · rw [hd] at hc
      cases hc
    · exact hminus hd
  rw [kindOfChar, if_neg (hne 'n' (by decide) (by decide)),
    if_neg (not_or.mpr ⟨hne 't' (by decide) (by decide), hne 'f' (by decide) (by decide)⟩),
    if_neg (hne '"' (by decide) (by decide)), if_neg (hne '[' (by decide) (by decide)),
    if_neg (hne '\x7b' (by decide) (by decide))]

/-- **The first character of a text tells the kind of the value.** -/
theorem compact_head (v : Json) :
    ∃ c rest, v.compact.toList = c :: rest ∧ kindOfChar c = v.kindIndex := by
  cases v with
  | null => exact ⟨'n', "ull".toList, rfl, rfl⟩
  | bool b =>
    cases b
    · exact ⟨'f', "alse".toList, rfl, rfl⟩
    · exact ⟨'t', "rue".toList, rfl, rfl⟩
  | num n =>
    obtain ⟨d, rest, htext, hd⟩ := n.text_head
    exact ⟨d, rest, htext, kindOfChar_of_numeral hd⟩
  | str s => exact ⟨'"', _, jsonString_toList s, rfl⟩
  | arr l =>
    have htext := compact_arr l []
    rw [List.append_nil] at htext
    exact ⟨'[', _, htext, rfl⟩
  | obj t =>
    have htext := compact_obj t.entries []
    rw [List.append_nil] at htext
    exact ⟨'\x7b', _, htext, rfl⟩

theorem kindIndex_eq {v w : Json} {r r' : List Char}
    (h : v.compact.toList ++ r = w.compact.toList ++ r') : v.kindIndex = w.kindIndex := by
  obtain ⟨c, rest, hv, hkind⟩ := v.compact_head
  obtain ⟨d, rest', hw, hkind'⟩ := w.compact_head
  rw [hv, hw, List.cons_append, List.cons_append] at h
  rw [← hkind, ← hkind', (List.cons.inj h).1]

theorem compact_ne_close {c : Char} (hc : c = ']' ∨ c = '\x7d') (v : Json) (r r' : List Char) :
    v.compact.toList ++ r ≠ c :: r' := by
  intro h
  cases v with
  | num n =>
    obtain ⟨d, rest, htext, hd⟩ := n.text_head
    have hhead : d = c := by
      have hcons : n.text.toList ++ r = c :: r' := h
      rw [htext] at hcons
      exact (List.cons.inj hcons).1
    subst hhead
    rcases hc with rfl | rfl <;> rcases hd with hd | hd <;> revert hd <;> decide
  | null | bool | str | arr | obj =>
    obtain ⟨d, rest, htext, hkind⟩ := compact_head _
    rw [htext] at h
    have hhead : d = c := (List.cons.inj h).1
    subst hhead
    rcases hc with rfl | rfl <;> revert hkind <;> exact fun hkind => nomatch hkind

theorem memberText_ne_close (e : String × Json) (r r' : List Char) :
    memberText e ++ r ≠ '\x7d' :: r' := by
  intro h
  rw [memberText, jsonString_toList] at h
  exact absurd (List.cons.inj h).1 (by decide)

/-- **A text tells which well-formed value it begins with.** -/
theorem compact_cancel {v : Json} (hv : v.WellFormed) :
    ∀ w : Json, w.WellFormed → ∀ r r', Follows r → Follows r' →
      v.compact.toList ++ r = w.compact.toList ++ r' → v = w ∧ r = r' := by
  -- in each case the first character leaves only values of the same kind
  induction hv with
  | null =>
    intro w _ r r' _ _ h
    have hkind := kindIndex_eq h
    cases w with
    | null => exact ⟨rfl, List.append_cancel_left h⟩
    | _ => exact nomatch hkind
  | bool b =>
    intro w _ r r' _ _ h
    have hkind := kindIndex_eq h
    cases w with
    | bool b' =>
      have hb : b = b' := by
        cases b <;> cases b' <;> first | rfl | exact nomatch (List.cons.inj h).1
      subst hb
      exact ⟨rfl, List.append_cancel_left h⟩
    | _ => exact nomatch hkind
  | @num n hn =>
    intro w hw r r' hr hr' h
    have hkind := kindIndex_eq h
    cases hw with
    | @num n' hn' =>
      obtain ⟨htext, hrest⟩ := span_cancel n.text_chars n'.text_chars hr.not_numeral
        hr'.not_numeral h
      rw [Number.eq_of_text_eq hn hn' (String.toList_inj.mp htext)]
      exact ⟨rfl, hrest⟩
    | _ => exact nomatch hkind
  | str s =>
    intro w _ r r' _ _ h
    have hkind := kindIndex_eq h
    cases w with
    | str s' =>
      obtain ⟨rfl, hrest⟩ := jsonString_cancel h
      exact ⟨rfl, hrest⟩
    | _ => exact nomatch hkind
  | @arr l hl ih =>
    intro w hw r r' _ _ h
    have hkind := kindIndex_eq h
    cases hw with
    | @arr m hm =>
      rw [compact_arr, compact_arr] at h
      obtain ⟨rfl, hrest⟩ := itemsText_cancel (Or.inl rfl)
        (fun a ha b hb s s' hs hs' => ih a ha b (hm b hb) s s' hs hs')
        (fun a _ => compact_ne_close (Or.inl rfl) a) (fun a _ => compact_ne_close (Or.inl rfl) a)
        (List.cons.inj h).2
      exact ⟨rfl, hrest⟩
    | _ => exact nomatch hkind
  | @obj t _ ht ih =>
    intro w hw r r' _ _ h
    have hkind := kindIndex_eq h
    cases hw with
    | @obj u _ hu =>
      obtain ⟨l⟩ := t
      obtain ⟨m⟩ := u
      rw [compact_obj, compact_obj] at h
      have hitem : ∀ a ∈ l, ∀ b ∈ m, ∀ s s', Follows s → Follows s' →
          memberText a ++ s = memberText b ++ s' → a = b ∧ s = s' := by
        intro a ha b hb s s' hs hs' heq
        rw [memberText, memberText, List.append_assoc, List.append_assoc] at heq
        obtain ⟨hname, hvalue⟩ := jsonString_cancel heq
        obtain ⟨hvalue, hrest⟩ := ih a ha b.2 (hu b hb) s s' hs hs' (List.cons.inj hvalue).2
        exact ⟨Prod.ext hname hvalue, hrest⟩
      obtain ⟨rfl, hrest⟩ := itemsText_cancel (Or.inr rfl) hitem
        (fun a _ => memberText_ne_close a) (fun a _ => memberText_ne_close a) (List.cons.inj h).2
      exact ⟨rfl, hrest⟩
    | _ => exact nomatch hkind

/-- **The compact text determines a well-formed value.** -/
theorem eq_of_compact_eq {v w : Json} (hv : v.WellFormed) (hw : w.WellFormed)
    (h : v.compact = w.compact) : v = w :=
  (compact_cancel hv w hw [] [] follows_nil follows_nil (by rw [h])).1

end Json

/-! ## 4. Bytes -/

theorem byteArray_toList_loop (b : ByteArray) (i : Nat) (acc : List UInt8) :
    ByteArray.toList.loop b i acc = acc.reverse ++ b.data.toList.drop i := by
  induction hn : b.size - i generalizing i acc with
  | zero =>
    have hdone : ¬ i < b.size := by omega
    have hlength : b.data.toList.length ≤ i := by
      rw [Array.length_toList]
      exact Nat.not_lt.mp hdone
    rw [ByteArray.toList.loop, if_neg hdone, List.drop_of_length_le hlength, List.append_nil]
  | succ n ih =>
    have hmore : i < b.size := by omega
    have hlength : i < b.data.toList.length := by
      rw [Array.length_toList]
      exact hmore
    have hget : b.get! i = b.data.toList[i] := by
      rw [Array.getElem_toList]
      exact getElem!_pos b.data i hmore
    rw [ByteArray.toList.loop, if_pos hmore, ih (i + 1) _ (by omega), List.reverse_cons,
      List.append_assoc, List.singleton_append, hget, List.getElem_cons_drop]

/-- **Different texts have different bytes.** -/
theorem Bytes.ofString_injective {s t : String} (h : Bytes.ofString s = Bytes.ofString t) :
    s = t := by
  rw [Bytes.ofString, Bytes.ofString, ByteArray.toList, ByteArray.toList, byteArray_toList_loop,
    byteArray_toList_loop, List.drop_zero, List.drop_zero] at h
  have hdata : s.toUTF8.data = t.toUTF8.data := Array.toList_inj.mp (List.append_cancel_left h)
  rw [String.toUTF8_eq_toByteArray, String.toUTF8_eq_toByteArray] at hdata
  exact String.toByteArray_inj.mp (ByteArray.ext hdata)

end SchemaCatalog
