/-
  Records and open schemas
  ========================
  **Which records are accepted beside a schema that allows other properties.**

  A record should not be compared with a schema that says
  `additionalProperties: true`.  The check asks this once for each field, and so
  it never asks it of a record without fields.  Every accepted record that has
  a field is closed, at any depth and whatever references lead to its
  schema; a record without fields is accepted beside an open schema as long as that
  declares no properties (`checkShape_closes_records`).
-/
import SchemaCatalog.Proofs.Consistency.Acceptance

namespace SchemaCatalog

namespace Consistency

variable {c : Context}

/-- An open schema goes with a record only if neither of them names anything. -/
theorem ContentAgrees.empty_of_open {t : Schema} {fields : List (Field Shape)}
    (h : ContentAgrees c t (.record fields)) (hopen : t.additionalProperties = some (.flag true)) :
    fields = [] ∧ t.properties.entries = [] := by
  obtain ⟨hfields, hproperties⟩ := h
  have hnone : fields = [] := by
    refine List.eq_nil_iff_forall_not_mem.mpr fun f hf => ?_
    obtain ⟨_, _, hclosed⟩ := hfields f hf
    exact hclosed hopen
  refine ⟨hnone, List.eq_nil_iff_forall_not_mem.mpr fun e he => ?_⟩
  obtain ⟨f, hf, _⟩ := hproperties e.1 (List.mem_map.mpr ⟨e, he, rfl⟩)
  rw [hnone] at hf
  cases hf

/-- A record without fields is compared in the same way with an open and with a closed schema. -/
theorem descendKind_record_nil (t : Schema) (typeName : String) (p : Position)
    (place : Option (Subschema Schema)) :
    descendKind c { t with additionalProperties := place } typeName p (.record []) =
      descendKind c t typeName p (.record []) := by
  simp only [descendKind, descendFields, checkProperties]

end Consistency

open Consistency

/-- **Accepted records are closed unless they are empty.**  If the check succeeds, every record that
    the descent reaches, at any depth, and that is not exempt, is compared with a schema that says
    `additionalProperties: true` only if the record has no fields and the schema no properties.
    Such a record is compared without a look at `additionalProperties`. -/
theorem Schema.checkShape_closes_records (o : ConsistencyOptions) (s : Schema) (shape : Shape)
    (rootName : String) (h : s.checkShape o shape rootName = .ok ()) :
    (∀ q, Relation.ReflTransGen (Below ⟨s, o⟩) (.root s shape) q → q.shape.exempt = false →
      ∀ fields, q.shape.kind = .record fields →
        ∃ given t nullable, q.schema = some given ∧ StandsFor ⟨s, o⟩ given t nullable ∧
          (t.additionalProperties = some (.flag true) →
            fields = [] ∧ t.properties.entries = [])) ∧
    ∀ (t : Schema) (typeName : String) (p : Position) (place : Option (Subschema Schema)),
      descendKind ⟨s, o⟩ { t with additionalProperties := place } typeName p (.record []) =
        descendKind ⟨s, o⟩ t typeName p (.record []) := by
  refine ⟨fun q hq hexempt fields hkind => ?_, descendKind_record_nil⟩
  have hlocal : LocallyConsistent ⟨s, o⟩ q :=
    locallyConsistent_of_reaches (p := .root rootName) h hq hexempt
  cases hschema : q.schema with
  | none =>
    have hdynamic := hlocal.dynamic_of_none hschema
    rw [hkind] at hdynamic
    cases hdynamic
  | some given =>
    obtain ⟨t, nullable, _, _, hstands, _, _, hdynamic | ⟨_, hcontent⟩⟩ :=
      hlocal.agrees given hschema
    · rw [hkind] at hdynamic
      cases hdynamic
    · rw [hkind] at hcontent
      exact ⟨given, t, nullable, rfl, hstands, hcontent.empty_of_open⟩

/-- An object with nothing but room for other properties. -/
def openSchema : Schema where
  type := some (.single "object")
  additionalProperties := some (.flag true)

/-- **A record without fields is accepted against an open schema.** -/
theorem openSchema_accepted :
    openSchema.checkShape {} (.record []) "Root" = .ok () ∧
    (Pair.root openSchema (.record [])).shape.exempt = false ∧
    StandsFor ⟨openSchema, {}⟩ openSchema openSchema false ∧
    openSchema.additionalProperties = some (.flag true) := by
  exact ⟨rfl, rfl, .itself rfl rfl, rfl⟩

/-- An order with a customer, whose schema is found by a reference and is closed. -/
def customerOrder : Schema where
  type := some (.single "object")
  properties := ⟨[("customer", .schema (.reference "#/definitions/Customer"))]⟩
  definitions := ⟨[("Customer", .schema {
    type := some (.single "object")
    properties := ⟨[("name", .schema (.ofType "string"))]⟩
    additionalProperties := some (.flag false) })]⟩

def customerShape : Shape := .record [.ofName "name" .string]

theorem customerOrder_closes_records :
    customerOrder.checkShape {} (.record [.ofName "customer" customerShape]) "Order" = .ok () ∧
    ∃ q, Relation.ReflTransGen (Below ⟨customerOrder, {}⟩)
        (.root customerOrder (.record [.ofName "customer" customerShape])) q ∧
      q.shape.exempt = false ∧ q.shape.kind = .record [.ofName "name" .string] ∧
      ∃ given t nullable, q.schema = some given ∧
        StandsFor ⟨customerOrder, {}⟩ given t nullable ∧
        (t.additionalProperties = some (.flag true) →
          [Field.ofName "name" Shape.string] = [] ∧ t.properties.entries = []) := by
  have hok : customerOrder.checkShape {} (.record [.ofName "customer" customerShape]) "Order" =
      .ok () := by
    decide
  have hbelow : Below ⟨customerOrder, {}⟩
      (.root customerOrder (.record [.ofName "customer" customerShape]))
      ⟨some (.reference "#/definitions/Customer"), customerShape, 1, false, false⟩ :=
    ⟨rfl, customerOrder, customerOrder, false, rfl, .itself rfl rfl,
      .field List.mem_cons_self rfl⟩
  obtain ⟨hclosed, _⟩ := Schema.checkShape_closes_records _ _ _ _ hok
  exact ⟨hok, _, .single hbelow, rfl, rfl, hclosed _ (.single hbelow) rfl _ rfl⟩

end SchemaCatalog
