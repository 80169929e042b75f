/-
QueryCache.Proofs.Reshape.Gathered — clauses are answered from flat rows.

The flat rows of some records gather what the records answer when the path
of every column finds its value, and the path of every relation the flat
rows of what the record leads to (`Slot.Gathers`).  Such a row in the shape
of a clause is the row that the record answers for the clause
(`Slot.reshapeFields_of_gathers`), by induction on the fields.  So a caller
whose leaves are in a statement cannot tell its answer, denormalized, from
an answer to the clause itself (`denormalizeResponse_of_gathers`).
-/
import QueryCache.Proofs.Backend
import QueryCache.Proofs.Statement.Merged

namespace QueryCache

/-! ## 1. Chains of the caller -/

namespace GroupedPath

/-- A chain of one head leads to a leaf. -/
theorem exists_leaf_of_leadsTo {head : Head} {paths : List GroupedPath}
    (h : LeadsTo (Head.segments [head]) paths) :
    ∃ entry, leaf entry ∈ paths ∧ entry.path = head.segment := h

/-- Chains through one head lead through one relation, if the relations are
known by their segments. -/
theorem exists_nested_of_leadsTo {head : Head} {chains : List (List Head)}
    {paths : List GroupedPath}
    (hunique : ∀ {entry other : Entry} {inner below : List GroupedPath},
      nested entry inner ∈ paths → nested other below ∈ paths → entry.path = other.path →
        inner = below)
    (hne : chains ≠ []) (hchains : ∀ chain ∈ chains, chain ≠ [])
    (h : ∀ chain ∈ chains, LeadsTo (Head.segments (head :: chain)) paths) :
    ∃ entry inner, nested entry inner ∈ paths ∧ entry.path = head.segment ∧
      ∀ chain ∈ chains, LeadsTo (Head.segments chain) inner := by
  have hstep : ∀ chain ∈ chains, ∃ entry inner, nested entry inner ∈ paths ∧
      entry.path = head.segment ∧ LeadsTo (Head.segments chain) inner := by
    intro chain hmem
    have hleads := h chain hmem
    obtain ⟨next, rest, rfl⟩ := List.exists_cons_of_ne_nil (hchains chain hmem)
    exact hleads
  obtain ⟨first, hfirst⟩ := List.exists_mem_of_ne_nil _ hne
  obtain ⟨entry, inner, hmem, hpath, -⟩ := hstep first hfirst
  refine ⟨entry, inner, hmem, hpath, fun chain hchain => ?_⟩
  obtain ⟨other, below, hother, hsame, hleads⟩ := hstep chain hchain
  exact hunique hmem hother (hpath.trans hsame.symm) ▸ hleads

end GroupedPath

theorem Field.pairwise_of_distinctKeysOf {fields : List Field} (h : DistinctKeysOf fields) :
    fields.Pairwise fun a b => a.key ≠ b.key := by
  induction fields with
  | nil => exact List.Pairwise.nil
  | cons field rest ih =>
    rw [DistinctKeysOf] at h
    exact List.pairwise_cons.2 ⟨fun other hmem => (h.2.1 other hmem).symm, ih h.2.2⟩

theorem Field.segment_ne_star {fields : List Field} (h : AllOf Head.IsPlain fields) :
    ∀ field ∈ fields, field.head.segment ≠ ['*'] := by
  intro field hmem
  obtain ⟨head, children⟩ := field
  have hfield := allOf_iff.1 h _ hmem
  rw [All] at hfield
  exact Segment.ne_star_of_isPlain (Head.isPlain_segment hfield.1)

/-! ## 2. Rows -/

namespace Slot

open GroupedPath

theorem lookup?_of_get? {source : Fields Json} {segment : Text} {value : Json}
    (h : Fields.get? segment source = some value) : lookup? source segment = some value := by
  rw [lookup?, h]
  rfl

/-- The flat row of what a record answers for entries. -/
def flatAnswer (record : Record) (paths : List GroupedPath) : Fields Json :=
  flattenRow paths (Fields.ofList (Field.answers record (toFields paths)))

/-- Flat rows hold under the paths of entries what the records answer,
wherever the records are `ok` for the entries. -/
structure Gathers (ok : Record → List GroupedPath → Prop) : Prop where
  column : ∀ {record paths entry}, ok record paths → leaf entry ∈ paths →
    lookup? (flatAnswer record paths) entry.path = some (record.column entry.path)
  relation : ∀ {record paths entry inner}, ok record paths → nested entry inner ∈ paths →
    ∀ shape, related? shape (flatAnswer record paths) entry.path =
      some ((record.relation entry.path).toJson fun related =>
        .obj (shape (flatAnswer related inner)))
  below : ∀ {record paths entry inner}, ok record paths → nested entry inner ∈ paths →
    ∀ related ∈ (record.relation entry.path).toList, ok related inner
  unique : ∀ {record paths}, ok record paths → ∀ {entry other inner below},
    nested entry inner ∈ paths → nested other below ∈ paths → entry.path = other.path →
      inner = below

section

variable {ok : Record → List GroupedPath → Prop}

mutual

/-- The flat row holds for a field what the record answers for it. -/
theorem valueIn_of_gathers (hgathers : Gathers ok) {record : Record} {paths : List GroupedPath}
    (hok : ok record paths) : (field : Field) → field.All Head.IsPlain → field.DistinctKeys →
    (∀ chain ∈ Field.chains field, LeadsTo (Head.segments chain) paths) →
    valueIn (flatAnswer record paths) field = some (field.answer record)
  | .mk head [], _, _, hchains => by
    rw [Field.chains] at hchains
    obtain ⟨entry, hmem, hpath⟩ := exists_leaf_of_leadsTo (hchains [head] (by simp))
    have hcolumn := hgathers.column hok hmem
    rw [hpath] at hcolumn
    rw [Field.answer_leaf]
    exact hcolumn
  | .mk head (first :: others), hplain, hkeys, hchains => by
    rw [Field.All] at hplain
    rw [Field.DistinctKeys] at hkeys
    rw [Field.chains, List.isEmpty_cons, if_neg Bool.false_ne_true] at hchains
    obtain ⟨entry, inner, hmem, hpath, hleads⟩ := exists_nested_of_leadsTo (hgathers.unique hok)
      (Field.chainsOf_nonempty (first :: others) (List.cons_ne_nil _ _))
      (Field.chainsOf_ne_nil (first :: others))
      (fun chain hmem => hchains _ (List.mem_map_of_mem hmem))
    have hbelow := hgathers.below hok hmem
    have hvalue := hgathers.relation hok hmem (reshapeFields (Field.slots (first :: others)))
    rw [hpath] at hbelow hvalue
    rw [Field.answer_relation record head (List.cons_ne_nil _ _)]
    refine hvalue.trans (congrArg some (Related.toJson_congr _ fun related hrelated => ?_))
    rw [Field.answerRow, reshapeFields_slots _ (Field.segment_ne_star hplain.2)
        (Field.pairwise_of_distinctKeysOf hkeys),
      filterMap_of_gathers hgathers (hbelow related hrelated) (first :: others) hplain.2 hkeys
        hleads]

theorem filterMap_of_gathers (hgathers : Gathers ok) {record : Record} {paths : List GroupedPath}
    (hok : ok record paths) : (fields : List Field) → Field.AllOf Head.IsPlain fields →
    Field.DistinctKeysOf fields →
    (∀ chain ∈ Field.chainsOf fields, LeadsTo (Head.segments chain) paths) →
    (fields.filterMap fun field =>
      (valueIn (flatAnswer record paths) field).map fun value => (field.key, value)) =
        Field.answers record fields
  | [], _, _, _ => by rw [Field.answers]; rfl
  | field :: rest, hplain, hkeys, hchains => by
    rw [Field.AllOf] at hplain
    rw [Field.DistinctKeysOf] at hkeys
    rw [Field.chainsOf] at hchains
    have hvalue := valueIn_of_gathers hgathers hok field hplain.1 hkeys.1
      fun chain hmem => hchains chain (List.mem_append_left _ hmem)
    have hrest := filterMap_of_gathers hgathers hok rest hplain.2 hkeys.2.2
      fun chain hmem => hchains chain (List.mem_append_right _ hmem)
    rw [List.filterMap_cons, hvalue, Field.answers]
    exact congrArg ((field.key, field.answer record) :: ·) hrest

end

/-- A flat row in the shape of a clause is the row that the record answers for
the clause. -/
theorem reshapeFields_of_gathers (hgathers : Gathers ok) {record : Record}
    {paths : List GroupedPath} (hok : ok record paths) {fields : List Field}
    (hplain : Field.AllOf Head.IsPlain fields) (hkeys : Field.DistinctKeysOf fields)
    (hchains : ∀ chain ∈ Field.chainsOf fields, LeadsTo (Head.segments chain) paths) :
    reshapeFields (Field.slots fields) (flatAnswer record paths) =
      Fields.ofList (Field.answers record fields) := by
  rw [reshapeFields_slots _ (Field.segment_ne_star hplain) (Field.pairwise_of_distinctKeysOf hkeys),
    filterMap_of_gathers hgathers hok fields hplain hkeys hchains]

end

end Slot

/-! ## 3. Fetches -/

/-- A clause has leaves, so something leads to them. -/
theorem GroupedPath.ne_nil_of_leads {user : Text} {fields : List Field}
    (huser : PlainClause user fields) {paths : List GroupedPath}
    (hleads : ∀ chain ∈ Field.chainsOf fields, LeadsTo (Head.segments chain) paths) :
    paths ≠ [] := by
  obtain ⟨chain, hchain⟩ := List.exists_mem_of_ne_nil _
    (Field.chainsOf_nonempty fields huser.nonempty)
  exact (hleads chain hchain).ne_nil

/-- A statement that is read back and leads to every leaf of a clause: the
backend's answer to it, denormalized, is the backend's answer to the clause,
when the flat rows gather what the records answer. -/
theorem denormalizeResponse_of_gathers {user : Text} {fields : List Field}
    (huser : PlainClause user fields) {merged : NormalizedQuery}
    (huserPaths : merged.userPaths = some ((Field.chainsOf fields).map Path.ofHeads))
    (hselect : selectFields merged.selectQuery = .ok (GroupedPath.toFields merged.grouped))
    (hleads : ∀ chain ∈ Field.chainsOf fields,
      GroupedPath.LeadsTo (Head.segments chain) merged.grouped)
    {ok : Record → List GroupedPath → Prop} (hgathers : Slot.Gathers ok)
    {records : Related Record} (hok : ∀ record ∈ records.toList, ok record merged.grouped) :
    ∃ response, respond merged.selectQuery records = .ok response ∧
      respond user records = .ok (merged.denormalizeResponse response) := by
  have hslots : Slot.ofPaths (merged.userPaths.getD merged.paths) = Field.slots fields := by
    rw [huserPaths, Option.getD_some, Slot.ofPaths_chains huser.plain
      (selectFields_spelled huser.select_eq) huser.distinct]
  -- The answer is flattened row by row, and reshaped row by row.
  have hflat : normalizeResponse merged.grouped (records.toJson fun record =>
        Field.answerRow record (GroupedPath.toFields merged.grouped)) =
      records.toJson fun record => .obj (Slot.flatAnswer record merged.grouped) := by
    rw [normalizeResponse, Related.mapRows_toJson (fun _ => rfl) rfl]
    rfl
  have hshaped : merged.denormalizeResponse (records.toJson fun record =>
        Field.answerRow record (GroupedPath.toFields merged.grouped)) =
      records.toJson fun record => Field.answerRow record fields := by
    rw [NormalizedQuery.denormalizeResponse, hflat, denormalize, hslots, Slot.reshape,
      Related.mapRows_toJson (fun _ => rfl) rfl]
    refine Related.toJson_congr records fun record hmem => ?_
    exact congrArg Json.obj (Slot.reshapeFields_of_gathers hgathers (hok record hmem) huser.plain
      huser.distinct hleads)
  refine ⟨records.toJson fun record =>
    Field.answerRow record (GroupedPath.toFields merged.grouped), ?_, ?_⟩
  · rw [respond, hselect]
    rfl
  · rw [respond, huser.select_eq, hshaped]
    rfl

end QueryCache
