/-
QueryCache.Proofs.Backend — a backend that answers select clauses.

A record holds a value in every column, and every relation leads from it
to nothing, to one record or to a list of records.  Columns and relations
are known by their segments, hints included.  An answer holds one value
for each field of the clause, under the key of the field.
-/
import QueryCache.Proofs.Reshape.Slots

namespace QueryCache

/-- What a relation leads to. -/
inductive Related (α : Type) where
  | none
  | one (record : α)
  | many (records : List α)

namespace Related

/-- Null, a value or an array. -/
def toJson {α : Type} (f : α → Json) : Related α → Json
  | none => .null
  | one record => f record
  | many records => .arr (records.map f)

/-- The records themselves. -/
def toList {α : Type} : Related α → List α
  | none => []
  | one record => [record]
  | many records => records

theorem toJson_congr {α : Type} {f g : α → Json} (related : Related α)
    (h : ∀ record ∈ related.toList, f record = g record) : related.toJson f = related.toJson g := by
  cases related with
  | none => rfl
  | one record => exact h record List.mem_cons_self
  | many records => exact congrArg Json.arr (List.map_congr_left h)

/-- Rows are mapped one by one. -/
theorem mapRows_toJson {α : Type} {g : α → Json} (hg : ∀ record, (g record).isArray = false)
    {f : Json → Json} (hnull : f .null = .null) (related : Related α) :
    (related.toJson g).mapRows f = related.toJson fun record => f (g record) := by
  have hrow : ∀ record, (g record).mapRows f = f (g record) := by
    intro record
    have harr := hg record
    cases hvalue : g record with
    | arr items => simp [hvalue, Json.isArray] at harr
    | _ => rw [Json.mapRows]
  cases related with
  | none => rw [toJson, Json.mapRows, hnull, toJson]
  | one record => exact hrow record
  | many records =>
    rw [toJson, Json.mapRows, Json.mapRowsList_eq_map, List.map_map, toJson]
    exact congrArg Json.arr (List.map_congr_left fun record _ => hrow record)

end Related

/-- A record of the backend. -/
inductive Record where
  | mk (column : Text → Json) (relation : Text → Related Record)

namespace Record

def column : Record → Text → Json
  | mk column _ => column

def relation : Record → Text → Related Record
  | mk _ relation => relation

end Record

namespace Field

mutual

/-- The value that a record answers for a field. -/
def answer (record : Record) : Field → Json
  | mk head children =>
    if children.isEmpty then record.column head.segment
    else (record.relation head.segment).toJson fun related =>
      .obj (Fields.ofList (answers related children))

/-- The values of fields, each under its key. -/
def answers (record : Record) : List Field → List (Text × Json)
  | [] => []
  | field :: rest => (field.key, answer record field) :: answers record rest

end

/-- The row that a record answers for fields. -/
def answerRow (record : Record) (fields : List Field) : Json :=
  .obj (Fields.ofList (answers record fields))

theorem answers_eq_map (record : Record) (fields : List Field) :
    answers record fields = fields.map fun field => (field.key, answer record field) := by
  induction fields with
  | nil => rfl
  | cons field rest ih => rw [answers, ih, List.map_cons]

theorem answer_leaf (record : Record) (head : Head) :
    answer record (mk head []) = record.column head.segment := by
  rw [answer]
  rfl

theorem answer_relation (record : Record) (head : Head) {children : List Field}
    (h : children ≠ []) :
    answer record (mk head children) =
      (record.relation head.segment).toJson fun related => answerRow related children := by
  have hchildren : children.isEmpty = false := by simpa using h
  rw [answer, hchildren]
  rfl

end Field

/-- What the backend answers for a clause: a row, a list of rows, or
null. -/
def respond (clause : Text) (records : Related Record) : Except ParseError Json :=
  (selectFields clause).map fun fields =>
    records.toJson fun record => Field.answerRow record fields

end QueryCache
