/-
  Members that say nothing
  ========================
  **A schema document without the members that mean the same as their absence.**

  A keyword that may be left out may also be `null`, and a collection
  may be empty; a schema that has been read does not remember which.  `pruned` is
  the value without such members, at the root and in every schema inside it,
  and with everything else as it was.  It is said in terms of values alone: the
  keyword decides which parts of its value are schemas again (`prunedUnder`).

  What becomes of a member depends on its name and value only (`remains`), so
  a look-up in the pruned document is one in the document itself
  (`find?_prunedMembers`).
-/
import SchemaCatalog.Schema.Reader
import SchemaCatalog.Proofs.Table

namespace SchemaCatalog.Json

/-! ## 1. Pruning -/

/-- Whether a member of a schema says nothing: it is `null` where the keyword may be left out, or
    an empty collection where emptiness is no form of its own. -/
def saysNothing (keyword : String) : Json → Bool
  | .null => keyword ∈ ["$ref", "type", "items", "additionalItems", "contains",
      "additionalProperties", "not"]
  | .obj ⟨[]⟩ => keyword ∈ ["properties", "definitions"]
  | .arr [] => keyword ∈ ["allOf", "anyOf", "oneOf", "required", "examples"]
  | _ => false

mutual

/-- A schema or flag without the members that say nothing, in it and in the schemas inside. -/
def pruned : Json → Json
  | .obj ⟨members⟩ => .obj ⟨prunedMembers members⟩
  | v => v

def prunedMembers : List (String × Json) → List (String × Json)
  | [] => []
  | (keyword, v) :: rest =>
    if saysNothing keyword v then prunedMembers rest
    else (keyword, prunedUnder keyword v) :: prunedMembers rest

/-- The value of a keyword, with the schemas that it holds pruned. -/
def prunedUnder (keyword : String) : Json → Json
  | .obj ⟨members⟩ =>
    if keyword ∈ ["properties", "definitions"] then .obj ⟨prunedEntries members⟩
    else if keyword ∈ ["items", "additionalItems", "contains", "additionalProperties", "not"] then
      .obj ⟨prunedMembers members⟩
    else .obj ⟨members⟩
  | .arr elements =>
    if keyword ∈ ["items", "allOf", "anyOf", "oneOf"] then .arr (prunedElements elements)
    else .arr elements
  | v => v

def prunedEntries : List (String × Json) → List (String × Json)
  | [] => []
  | (name, v) :: rest => (name, pruned v) :: prunedEntries rest

def prunedElements : List Json → List Json
  | [] => []
  | v :: rest => pruned v :: prunedElements rest

end

/-- What remains of a member. -/
def remains (keyword : String) (v : Json) : Option Json :=
  if saysNothing keyword v then none else some (prunedUnder keyword v)

/-! ## 2. By keyword -/

theorem prunedElements_eq (l : List Json) : prunedElements l = l.map pruned := by
  induction l with
  | nil => rfl
  | cons v rest ih => rw [prunedElements, ih, List.map_cons]

theorem prunedEntries_eq (l : List (String × Json)) :
    prunedEntries l = l.map fun e => (e.1, e.2.pruned) := by
  induction l with
  | nil => rfl
  | cons e rest ih => rw [prunedEntries, ih, List.map_cons]

/-- The keywords whose value is one schema or flag. -/
def soleKeywords : List String := ["additionalItems", "contains", "additionalProperties", "not"]

theorem prunedUnder_sole {keyword : String} (h : keyword ∈ soleKeywords) (v : Json) :
    prunedUnder keyword v = v.pruned := by
  simp only [soleKeywords, List.mem_cons, List.not_mem_nil, or_false] at h
  rcases v with _ | _ | _ | _ | elements | ⟨members⟩
  case arr => rcases h with rfl | rfl | rfl | rfl <;> simp [prunedUnder, pruned]
  case obj => rcases h with rfl | rfl | rfl | rfl <;> simp [prunedUnder, pruned]
  all_goals rfl

theorem prunedUnder_table {keyword : String} (h : keyword ∈ ["properties", "definitions"])
    (t : Table Json) : prunedUnder keyword (.obj t) = .obj (t.map pruned) := by
  obtain ⟨members⟩ := t
  rw [prunedUnder, if_pos h, prunedEntries_eq]
  rfl

theorem prunedUnder_list {keyword : String} (h : keyword ∈ ["items", "allOf", "anyOf", "oneOf"])
    (l : List Json) : prunedUnder keyword (.arr l) = .arr (l.map pruned) := by
  rw [prunedUnder, if_pos h, prunedElements_eq]

theorem prunedUnder_items_obj (t : Table Json) :
    prunedUnder "items" (.obj t) = (Json.obj t).pruned := by
  obtain ⟨members⟩ := t
  simp [prunedUnder, pruned]

/-- The value of any other keyword holds no schemas. -/
theorem prunedUnder_plain {keyword : String} (h : keyword ∉ ["properties", "items",
    "additionalItems", "contains", "additionalProperties", "allOf", "anyOf", "oneOf", "not",
    "definitions"]) (v : Json) : prunedUnder keyword v = v := by
  simp only [List.mem_cons, List.not_mem_nil, or_false, not_or] at h
  rcases v with _ | _ | _ | _ | elements | ⟨members⟩
  case arr => simp [prunedUnder, h]
  case obj => simp [prunedUnder, h]
  all_goals rfl

/-- The keywords that may be left out by `null`. -/
def optionalKeywords : List String := ["$ref", "type", "items"] ++ soleKeywords

theorem remains_optional {keyword : String} (h : keyword ∈ optionalKeywords) {v : Json}
    (hv : v ≠ .null) : remains keyword v = some (prunedUnder keyword v) := by
  have hsays : saysNothing keyword v = false := by
    simp only [optionalKeywords, soleKeywords, List.cons_append, List.nil_append, List.mem_cons,
      List.not_mem_nil, or_false] at h
    unfold saysNothing
    split
    · exact absurd rfl hv
    · rcases h with rfl | rfl | rfl | rfl | rfl | rfl | rfl <;> decide
    · rcases h with rfl | rfl | rfl | rfl | rfl | rfl | rfl <;> decide
    · rfl
  rw [remains, hsays]
  rfl

theorem remains_null {keyword : String} (h : keyword ∈ optionalKeywords) :
    remains keyword .null = none := by
  have hsays : saysNothing keyword .null = true := decide_eq_true h
  rw [remains, if_pos hsays]

theorem remains_table {keyword : String} (h : keyword ∈ ["properties", "definitions"])
    (t : Table Json) :
    remains keyword (.obj t) = if t.isEmpty then none else some (.obj (t.map pruned)) := by
  obtain ⟨_ | ⟨e, rest⟩⟩ := t
  · have hsays : saysNothing keyword (.obj ⟨[]⟩) = true := decide_eq_true h
    rw [remains, if_pos hsays]
    rfl
  · rw [remains, prunedUnder_table h]
    rfl

theorem remains_list {keyword : String} (h : keyword ∈ ["allOf", "anyOf", "oneOf"])
    (l : List Json) :
    remains keyword (.arr l) = if l.isEmpty then none else some (.arr (l.map pruned)) := by
  cases l with
  | nil =>
    have hsays : saysNothing keyword (.arr []) = true :=
      decide_eq_true (List.mem_append_left ["required", "examples"] h)
    rw [remains, if_pos hsays]
    rfl
  | cons v rest =>
    rw [remains, prunedUnder_list (List.mem_cons_of_mem _ h)]
    rfl

/-- Lists of names and of values hold no schemas. -/
theorem remains_plainList {keyword : String} (h : keyword ∈ ["required", "examples"])
    (l : List Json) :
    remains keyword (.arr l) = if l.isEmpty then none else some (.arr l) := by
  simp only [List.mem_cons, List.not_mem_nil, or_false] at h
  cases l with
  | nil => rcases h with rfl | rfl <;> rfl
  | cons v rest => rcases h with rfl | rfl <;> rfl

/-- Under a name that is no keyword everything remains. -/
theorem remains_of_not_mem {keyword : String} (h : keyword ∉ Schema.keywords) (v : Json) :
    remains keyword v = some v := by
  simp only [Schema.keywords, List.mem_cons, List.not_mem_nil, or_false, not_or] at h
  have hsays : saysNothing keyword v = false := by
    unfold saysNothing
    split <;> simp [h]
  rw [remains, hsays, prunedUnder_plain (by simp [h])]
  rfl

/-! ## 3. By name -/

theorem prunedMembers_cons (keyword : String) (v : Json) (rest : List (String × Json)) :
    prunedMembers ((keyword, v) :: rest) =
      ((remains keyword v).map fun v => (keyword, v)).toList ++ prunedMembers rest := by
  rw [prunedMembers, remains]
  split <;> rfl

theorem keys_prunedMembers_sublist (l : List (String × Json)) :
    ((prunedMembers l).map (·.1)).Sublist (l.map (·.1)) := by
  induction l with
  | nil => exact List.Sublist.refl _
  | cons e rest ih =>
    obtain ⟨keyword, v⟩ := e
    rw [prunedMembers_cons]
    cases remains keyword v with
    | none => exact List.Sublist.cons _ ih
    | some v' => exact List.Sublist.cons_cons _ ih

/-- What the pruned members have under a name is what remains of the member of that name. -/
theorem find?_prunedMembers {l : List (String × Json)} (h : (l.map (·.1)).Nodup) (key : String) :
    Table.find? key (prunedMembers l) = (Table.find? key l).bind (remains key) := by
  induction l with
  | nil => rfl
  | cons e rest ih =>
    obtain ⟨keyword, v⟩ := e
    obtain ⟨hfresh, hrest⟩ := List.nodup_cons.mp h
    rw [prunedMembers_cons, Table.find?_append, ih hrest, Table.find?]
    by_cases hkey : key = keyword
    · subst hkey
      have hnone : Table.find? key rest = none := Table.find?_eq_none_iff.mpr hfresh
      rw [if_pos rfl, hnone]
      cases hremains : remains key v with
      | none => simpa [Table.find?] using hremains.symm
      | some v' => simpa [Table.find?] using hremains.symm
    · rw [if_neg hkey]
      cases remains keyword v with
      | none => rfl
      | some v' => simp [Table.find?, hkey]

theorem sorted_prunedMembers {t : Table Json} (h : t.Sorted) :
    (Table.mk (prunedMembers t.entries)).Sorted := by
  have hkeys : (t.entries.map (·.1)).Pairwise (· < ·) := List.pairwise_map.mpr h
  exact List.pairwise_map.mp (hkeys.sublist (keys_prunedMembers_sublist t.entries))

/-- A document is pruned when each of its members remains as it is. -/
theorem pruned_obj_eq_self {t : Table Json} (h : ∀ e ∈ t.entries, remains e.1 e.2 = some e.2) :
    (Json.obj t).pruned = .obj t := by
  obtain ⟨members⟩ := t
  have hmembers : prunedMembers members = members := by
    induction members with
    | nil => rfl
    | cons e rest ih =>
      obtain ⟨hfirst, hrest⟩ := List.forall_mem_cons.mp h
      rw [prunedMembers_cons, hfirst, ih hrest]
      rfl
  rw [pruned, hmembers]

end SchemaCatalog.Json
