/-
QueryCache.Proofs.Invisible — merging is invisible to the caller.

When no two entries of a level refer to one name, the flat row of the merged
statement gathers what the record answers (`Slot.gathers_bare`): null stays
null, many records are reshaped one by one, and one record is gathered again
from its dotted names.  So the caller cannot tell the merged fetch from one
of its own (`denormalizeResponse_merged`).
-/
import QueryCache.Proofs.Reshape.Flattened
import QueryCache.Proofs.Reshape.Gathered

namespace QueryCache

/-! ## 1. Rows -/

namespace Slot

open GroupedPath

/-- What a relation of the flat row holds, its rows reshaped. -/
theorem related?_flatRow {record : Record} {paths inner : List GroupedPath} {entry : Entry}
    (h : AreBare paths) (hdistinct : DistinctNamesOf paths) (hmem : nested entry inner ∈ paths)
    (shape : Fields Json → Fields Json) :
    related? shape (flatRow record paths) entry.path =
      some ((record.relation entry.path).toJson fun related =>
        .obj (shape (flatRow related inner))) := by
  have hlookup : ∀ value, flatEntry record (nested entry inner) = [(entry.path, value)] →
      lookup? (flatRow record paths) entry.path = some value := fun value hvalue =>
    lookup?_of_get? (get?_flatRow_relation h hdistinct hmem hvalue)
  rw [related?]
  cases hrelation : record.relation entry.path with
  | none =>
    rw [hlookup .null (by rw [flatEntry, hrelation])]
    rfl
  | one related =>
    rw [lookup?_flatRow_one h hdistinct hmem hrelation,
      flatFields?_flatRow_one h hdistinct hmem hrelation]
    rfl
  | many records =>
    rw [hlookup (.arr (records.map fun related => .obj (flatRow related inner)))
      (by rw [flatEntry, hrelation]; rfl)]
    exact congrArg some (Related.mapRows_toJson (fun _ => rfl) rfl (.many records))

theorem flatAnswer_bare (record : Record) {paths : List GroupedPath} (h : AreBare paths)
    (hdistinct : DistinctNamesOf paths) : flatAnswer record paths = flatRow record paths :=
  flattenRow_eq record h hdistinct

/-- Bare entries find what records answer, if no two of a level refer to one
name. -/
theorem gathers_bare : Gathers fun _ paths => AreBare paths ∧ DistinctNamesOf paths where
  column := by
    rintro record paths entry ⟨h, hdistinct⟩ hmem
    have hentry : (entry.path, record.column entry.path) ∈ flatEntries record paths :=
      mem_flatEntries.2 ⟨_, hmem, by rw [flatEntry]; exact List.mem_cons_self⟩
    rw [flatAnswer_bare record h hdistinct]
    exact lookup?_of_get? (get?_flatRow h hdistinct hentry)
  relation := by
    rintro record paths entry inner ⟨h, hdistinct⟩ hmem shape
    have hrelation := areBare_iff.1 h _ hmem
    have hbelow := distinctNames_of_mem hdistinct hmem
    rw [IsBare] at hrelation
    rw [DistinctNames] at hbelow
    rw [flatAnswer_bare record h hdistinct, related?_flatRow h hdistinct hmem]
    refine congrArg some (Related.toJson_congr _ fun related _ => ?_)
    rw [flatAnswer_bare related hrelation.2.2 hbelow]
  below := by
    rintro record paths entry inner ⟨h, hdistinct⟩ hmem related -
    have hrelation := areBare_iff.1 h _ hmem
    have hbelow := distinctNames_of_mem hdistinct hmem
    rw [IsBare] at hrelation
    rw [DistinctNames] at hbelow
    exact ⟨hrelation.2.2, hbelow⟩
  unique := by
    rintro record paths ⟨h, hdistinct⟩ entry other inner below hmem hother hpath
    have heq := eq_of_name_eq hdistinct hmem hother (congrArg Segment.bareName hpath)
    rw [nested.injEq] at heq
    exact heq.2

end Slot

/-! ## 2. Merged fetches -/

/-- A caller with a plain clause gets a merged statement.  When no two of
its entries on a level refer to one name, the backend's answer to it,
denormalized, is the backend's answer to the clause. -/
theorem denormalizeResponse_merged {user : Text} {fields : List Field}
    {queries : List TableQuery} (huser : PlainClause user fields)
    (hqueries : ∀ query ∈ queries, query.IsPlain) :
    ∃ merged, normalizeQuery (some user) false queries = .ok (some merged) ∧
      (GroupedPath.DistinctNamesOf merged.grouped → ∀ records : Related Record, ∃ response,
        respond merged.selectQuery records = .ok response ∧
          respond user records = .ok (merged.denormalizeResponse response)) := by
  obtain ⟨merged, hmerged, huserPaths, hselect, hgrouped⟩ :=
    NormalizedQuery.exists_merged huser hqueries
  refine ⟨merged, hmerged, fun hdistinct records => ?_⟩
  obtain ⟨hbare, hleads⟩ := hgrouped hdistinct
  have hne := GroupedPath.ne_nil_of_leads huser hleads
  have hread : selectFields merged.selectQuery =
      .ok (GroupedPath.toFields merged.grouped) := by
    rw [hselect, GroupedPath.selectFields_bare hne hbare]
  exact denormalizeResponse_of_gathers huser huserPaths hread hleads Slot.gathers_bare
    fun _ _ => ⟨hbare, hdistinct⟩

/-! ## 3. A clause about contacts -/

/-- The entries of a clause that names everything by aliases. -/
def labels : List GroupedPath :=
  [.leaf ⟨"label:name".toList, "name".toList, some "label".toList⟩,
   .nested ⟨"firm:company".toList, "company".toList, some "firm".toList⟩
    [.leaf ⟨"title:name".toList, "name".toList, some "title".toList⟩]]

theorem arePlain_labels : GroupedPath.ArePlain labels := by
  have hentry : ∀ aliasName segment : Text, Head.isIdentifier aliasName = true →
      Segment.isPlain segment = true →
      GroupedPath.IsPlainEntry ⟨aliasName ++ ':' :: segment, segment, some aliasName⟩ :=
    fun _ _ halias h => GroupedPath.isPlainEntry_alias halias h rfl
  exact ⟨hentry "label".toList "name".toList (by decide) (by decide),
    ⟨hentry "firm".toList "company".toList (by decide) (by decide), List.cons_ne_nil _ _,
      hentry "title".toList "name".toList (by decide) (by decide), trivial⟩, trivial⟩

theorem plainClause_labels :
    PlainClause "label:name,firm:company(title:name)".toList (GroupedPath.toFields labels) where
  select_eq := GroupedPath.selectFields_statement (List.cons_ne_nil _ _) arePlain_labels
  nonempty := List.cons_ne_nil _ _
  plain := GroupedPath.allOf_toFields labels arePlain_labels
  not_aggregate := by decide +kernel
  distinct := by
    refine ⟨trivial, ?_, ⟨trivial, fun _ h => absurd h List.not_mem_nil, trivial⟩,
      fun _ h => absurd h List.not_mem_nil, trivial⟩
    intro other hother
    obtain rfl := List.mem_singleton.1 hother
    decide

/-- The entries of a live query. -/
def numbers : List GroupedPath :=
  [.leaf (.bare "id".toList), .nested (.bare "company".toList) [.leaf (.bare "id".toList)]]

theorem areBare_numbers : GroupedPath.AreBare numbers := by
  have hentry : ∀ segment : Text, Segment.isPlain segment = true → (Entry.bare segment).IsBare :=
    fun segment h => ⟨h, rfl⟩
  exact ⟨hentry _ (by decide), ⟨hentry _ (by decide), List.cons_ne_nil _ _,
    hentry _ (by decide), trivial⟩, trivial⟩

/-- The live query itself. -/
def numbersQuery : TableQuery :=
  ⟨["id".toList, "company.id".toList].map Path.ofText, []⟩

theorem isPlain_numbersQuery : numbersQuery.IsPlain := by
  have hfields := GroupedPath.selectFields_bare (List.cons_ne_nil _ _) areBare_numbers
  have hparams : QueryParam.ofText "select=id,company(id)".toList =
      .ok [⟨"select".toList, "id,company(id)".toList, 0⟩] := rfl
  have hparsed := parseQueryKey_select hparams (parseSelect_chains hfields)
  refine ⟨"select=id,company(id)".toList, _, _, ?_, hparsed, hfields,
    GroupedPath.allOf_toFields _ (GroupedPath.arePlain_of_areBare _ areBare_numbers),
    fun column hcolumn => absurd hcolumn List.not_mem_nil⟩
  rw [TableQuery.ofQueryKey, hparsed]
  rfl

/-- Everything that the clause and the live query name, once. -/
def labelsPaths : List Path :=
  ["name".toList, "company.name".toList, "id".toList, "company.id".toList].map Path.ofText

/-- The merged query for them. -/
def labelsMerged : NormalizedQuery where
  selectQuery := (buildStatement labelsPaths).statement
  userPaths := some ((Field.chainsOf (GroupedPath.toFields labels)).map Path.ofHeads)
  paths := labelsPaths
  grouped := (buildStatement labelsPaths).grouped

theorem normalizeQuery_labels :
    normalizeQuery (some "label:name,firm:company(title:name)".toList) false [numbersQuery] =
      .ok (some labelsMerged) := by
  have hread := parseSelect_chains plainClause_labels.select_eq
  have hpaths : [numbersQuery].foldl NormalizedQuery.addQuery
      (((Field.chainsOf (GroupedPath.toFields labels)).map Path.ofHeads).map Path.withoutAlias) =
        labelsPaths := by decide +kernel
  have hempty : (buildStatement labelsPaths).isEmpty = false := by decide +kernel
  simp only [normalizeQuery, hread, Except.map, bind, Except.bind, pure, Except.pure,
    Bool.false_eq_true, if_false, NormalizedQuery.merged, Option.getD_some, hpaths, hempty]
  rfl

/-- The labels of contacts are answered from the merged statement. -/
theorem denormalizeResponse_merged_labels :
    PlainClause "label:name,firm:company(title:name)".toList (GroupedPath.toFields labels) ∧
      numbersQuery.IsPlain ∧ labelsMerged.selectQuery = "name,company(name,id),id".toList ∧
      GroupedPath.DistinctNamesOf labelsMerged.grouped ∧
      ∀ records : Related Record, ∃ response,
        respond labelsMerged.selectQuery records = .ok response ∧
          respond "label:name,firm:company(title:name)".toList records =
            .ok (labelsMerged.denormalizeResponse response) := by
  have hdistinct : GroupedPath.DistinctNamesOf labelsMerged.grouped := by decide +kernel
  refine ⟨plainClause_labels, isPlain_numbersQuery, by decide +kernel, hdistinct, ?_⟩
  obtain ⟨merged, hmerged, hresponse⟩ :=
    @denormalizeResponse_merged _ _ [numbersQuery] plainClause_labels fun query hmem =>
      List.mem_singleton.1 hmem ▸ isPlain_numbersQuery
  rw [normalizeQuery_labels, Except.ok.injEq, Option.some.injEq] at hmerged
  subst hmerged
  exact hresponse hdistinct

end QueryCache
