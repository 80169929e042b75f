/-
QueryCache.Proofs.Verbatim — clauses that are fetched as they stand.

When merging is disabled a clause is its own statement, and its answer is
flattened along what is built from its leaves.  That is one entry for each
field that statements show, under the key of the field, since keys of their own
leave nothing to rename (`grouped_buildStatement_chains`).  So whoever asks
with such a clause gets back what the backend answers, less what no statement
shows: numbers of rows without an alias, and relations of which nothing else is
asked (`denormalizeResponse_verbatim`).
-/
import QueryCache.Proofs.Reshape.Returned
import QueryCache.Reshape.Merge

namespace QueryCache

/-! ## 1. Simple clauses -/

/-- A select clause without wildcard and cast.  The fields of every level
answer under keys of their own. -/
structure SimpleClause (clause : Text) (fields : List Field) : Prop where
  select_eq : selectFields clause = .ok fields
  nonempty : fields ≠ []
  simple : Field.AllOf Head.IsSimple fields
  distinct : Field.DistinctKeysOf fields

namespace Field

mutual

theorem All.imp {p q : Head → Prop} (h : ∀ head, p head → q head) : (field : Field) →
    field.All p → field.All q
  | mk head children, hall => by
    rw [All] at hall ⊢
    exact ⟨h head hall.1, AllOf.imp h children hall.2⟩

theorem AllOf.imp {p q : Head → Prop} (h : ∀ head, p head → q head) : (fields : List Field) →
    AllOf p fields → AllOf q fields
  | [], _ => trivial
  | field :: rest, hall => by
    rw [AllOf] at hall ⊢
    exact ⟨All.imp h field hall.1, AllOf.imp h rest hall.2⟩

end

/-- Fields with keys of their own are written differently. -/
theorem differs_of_key {field other : Field} (hfield : field.head.IsOwn)
    (hother : other.head.IsOwn) (hkey : other.key ≠ field.key) : Differs field other := by
  refine ⟨fun _ hwritten => hkey ?_, fun _ _ heq => hkey heq.symm⟩
  have hhead : other.head = field.head := by
    rw [← hfield.ofWritten_written, ← hother.ofWritten_written, hwritten]
  rw [key, key, hhead]

mutual

theorem isApart_of_distinctKeys : (field : Field) → field.All Head.IsOwn → field.DistinctKeys →
    field.IsApart
  | mk head children, hown, hdistinct => by
    rw [All] at hown
    rw [DistinctKeys] at hdistinct
    rw [IsApart]
    exact areApart_of_distinctKeys children hown.2 hdistinct

/-- So they are apart. -/
theorem areApart_of_distinctKeys : (fields : List Field) → AllOf Head.IsOwn fields →
    DistinctKeysOf fields → AreApart fields
  | [], _, _ => trivial
  | field :: rest, hown, hdistinct => by
    have hheads : ∀ other ∈ field :: rest, other.head.IsOwn := fun other hmem =>
      (all_head_children hown hmem).1
    rw [AllOf] at hown
    rw [DistinctKeysOf] at hdistinct
    rw [AreApart]
    refine ⟨isApart_of_distinctKeys field hown.1 hdistinct.1, fun other hmem => ?_,
      areApart_of_distinctKeys rest hown.2 hdistinct.2.2⟩
    exact differs_of_key (hheads field List.mem_cons_self)
      (hheads other (List.mem_cons_of_mem _ hmem)) (hdistinct.2.1 other hmem)

end

end Field

/-! ## 2. Fetching the clause itself -/

/-- The clause with what is needed to reshape its answer. -/
def NormalizedQuery.verbatim (clause : Text) (fields : List Field) : NormalizedQuery where
  selectQuery := clause
  userPaths := some ((Field.chainsOf fields).map Path.ofHeads)
  paths := ((Field.chainsOf fields).map Path.ofHeads).map Path.withoutAlias
  grouped := Field.entriesOf fields

section

variable {clause : Text} {fields : List Field} (h : SimpleClause clause fields)
include h

theorem SimpleClause.own : Field.AllOf Head.IsOwn fields :=
  Field.AllOf.imp (fun _ hhead => hhead.own) fields h.simple

/-- With merging disabled the clause is taken as it is. -/
theorem normalizeQuery_verbatim (queries : List TableQuery) :
    normalizeQuery (some clause) true queries =
      .ok (some (NormalizedQuery.verbatim clause fields)) := by
  have htrim : (Text.trim clause).isEmpty = false := by
    rw [← Bool.not_eq_true]
    intro hblank
    have hselect := h.select_eq
    rw [selectFields, if_pos hblank] at hselect
    exact h.nonempty (Except.ok.inj hselect).symm
  have hgrouped := grouped_buildStatement_chains h.own
    (Field.areApart_of_distinctKeys fields h.own h.distinct) preferUnhintedRelation
  simp only [normalizeQuery, parseSelect_chains h.select_eq, Except.map, bind, Except.bind, pure,
    Except.pure, if_true, NormalizedQuery.alone, htrim, Bool.false_eq_true, if_false,
    Option.getD_some, hgrouped]
  rfl

/-- Its slots are its fields. -/
theorem SimpleClause.ofPaths_eq :
    Slot.ofPaths ((Field.chainsOf fields).map Path.ofHeads) = Field.slots fields := by
  refine Slot.ofPaths_of_routes (fun chain hchain => ?_) h.distinct
  have hheads := Field.all_of_mem_chainsOf fields h.simple chain hchain
  exact Path.route_of_dotless
    ⟨Field.chainsOf_ne_nil fields chain hchain,
      fun head hhead => (hheads head hhead).own.1.isDotless⟩
    fun head hhead => (hheads head hhead).stripHints_segment

/-- Reshaped into the clause its answer is what statements show of it. -/
theorem denormalizeResponse_kept {response : Json} (hanswer : Field.IsAnswer fields response)
    (happart : Field.TellsApart fields response) :
    (NormalizedQuery.verbatim clause fields).denormalizeResponse response =
      Field.kept fields response := by
  rw [NormalizedQuery.denormalizeResponse, NormalizedQuery.verbatim, Option.getD_some, denormalize,
    h.ofPaths_eq]
  exact Field.reshape_normalizeResponse hanswer h.simple h.distinct happart

/-- With merging disabled the statement is the clause itself, and of a response
that tells its fields apart all comes back that statements show.  So the
response comes back whole if no number of rows is asked for without an
alias. -/
theorem denormalizeResponse_verbatim (queries : List TableQuery) :
    ∃ query, normalizeQuery (some clause) true queries = .ok (some query) ∧
      query.selectQuery = clause ∧
      ∀ response, Field.IsAnswer fields response → Field.TellsApart fields response →
        query.denormalizeResponse response = Field.kept fields response ∧
          (Field.AreShown fields → query.denormalizeResponse response = response) := by
  refine ⟨_, normalizeQuery_verbatim h queries, rfl, fun response hanswer happart => ?_⟩
  have hkept := denormalizeResponse_kept h hanswer happart
  exact ⟨hkept, fun hshown => hkept.trans (Field.kept_of_areShown hanswer hshown h.distinct)⟩

end

/-! ## 3. Numbers of rows -/

instance : DecidablePred Head.IsSimple := fun head =>
  decidable_of_iff ((head.IsNamed ∧ head.written = head.spelled) ∧
      (Head.isIdentifier head.name = true ∨ head.name = "count()".toList))
    ⟨fun h => ⟨h.1, h.2⟩, fun h => ⟨h.own, h.name⟩⟩

/-- The field with that head. -/
def Field.ofWritten (written : Text) (children : List Field) : Field :=
  .mk (.ofWritten written) children

/-- The number of a note, and the note that it refers to with the number of its
replies. -/
def repliedNote : Field × Field :=
  (.ofWritten "note_id" [],
    .ofWritten "note:note_id" [.ofWritten "test" [], .ofWritten "replies:count()" []])

theorem simpleClause_repliedNote :
    SimpleClause "note_id,note:note_id(test,replies:count())".toList
      [repliedNote.1, repliedNote.2] := by
  have hread : GroupedPath.AllReadBack (Field.entriesOf [repliedNote.1, repliedNote.2]) :=
    ⟨GroupedPath.readsBack_ofWritten (by decide),
      ⟨GroupedPath.readsBack_ofWritten (by decide), List.cons_ne_nil _ _,
        GroupedPath.readsBack_ofWritten (by decide),
        GroupedPath.readsBack_ofWritten (by decide), trivial⟩, trivial⟩
  refine ⟨GroupedPath.selectFields_readBack (List.cons_ne_nil _ _) hread, List.cons_ne_nil _ _,
    ?_, ?_⟩
  · exact ⟨⟨by decide, trivial⟩, ⟨by decide, ⟨by decide, trivial⟩,
      ⟨by decide, trivial⟩, trivial⟩, trivial⟩
  · refine ⟨trivial, ?_, ⟨trivial, ?_, trivial, ?_, trivial⟩, ?_, trivial⟩ <;> decide

/-- A column and a relation are answered by a row with a value for each. -/
theorem isAnswer_pair {column relation : Field} {row : Fields Json} {value : Json}
    (hascending : row.Ascending)
    (hnames : (row.map Prod.fst).Perm ([column, relation].map Field.key))
    (hcolumn : column.isRelation = false) (hvalue : Fields.get? relation.key row = some value)
    (hbelow : Field.IsAnswer relation.children value) :
    Field.IsAnswer [column, relation] (.obj row) := by
  refine .of_names hascending hnames ?_
  rw [List.forall_mem_cons, List.forall_mem_singleton]
  refine ⟨fun h => absurd (hcolumn.symm.trans h) Bool.false_ne_true, fun _ found hfound => ?_⟩
  rwa [← Option.some.inj (hvalue.symm.trans hfound)]

/-- What is answered for the note. -/
def repliedRow : Fields Json :=
  [("replies".toList, .ofNat 2), ("test".toList, .bool true)]

/-- The note beside its number. -/
def numberedRow : Fields Json :=
  [("note".toList, .obj repliedRow), ("note_id".toList, .ofNat 5)]

theorem isAnswer_numberedRow :
    Field.IsAnswer [repliedNote.1, repliedNote.2] (.obj numberedRow) := by
  refine isAnswer_pair (by unfold Fields.Ascending; decide) (by decide) rfl rfl ?_
  refine .of_names (by unfold Fields.Ascending; decide) (by decide) ?_
  simp only [repliedNote, Field.ofWritten, Field.children, List.forall_mem_cons]
  exact ⟨fun h => absurd h (by decide), fun h => absurd h (by decide),
    fun _ h => absurd h List.not_mem_nil⟩

/-- The number and the note have one segment, but the note is one row. -/
theorem areToldApart_numberedRow :
    Field.AreToldApart [repliedNote.1, repliedNote.2] numberedRow := by
  have hshown : ∀ field ∈ Field.shownOf [repliedNote.1, repliedNote.2],
      field = repliedNote.1 ∨ field = repliedNote.2 := by
    intro field hfield
    simpa using (Field.mem_shownOf.1 hfield).1
  have hlaid : ∀ field ∈ Field.shownOf [repliedNote.1, repliedNote.2], ∀ value,
      field.laid? numberedRow = some value → value = .ofNat 5 := by
    intro field hfield value hvalue
    rcases hshown field hfield with rfl | rfl
    · exact (Option.some.inj hvalue).symm
    · contradiction
  have hrelation : ∀ field ∈ Field.shownOf [repliedNote.1, repliedNote.2],
      field.isRelation = true → field = repliedNote.2 := by
    intro field hfield hrelation
    rcases hshown field hfield with rfl | rfl
    · contradiction
    · rfl
  constructor
  case shared =>
    intro field hfield other hother _ value found hvalue hfound
    rw [hlaid field hfield value hvalue, hlaid other hother found hfound]
  case scalar =>
    intro _ _ _ other hother _ found hfound
    rw [hlaid other hother found hfound]
    rfl
  case single =>
    intro field hfield hone other hother hother' _
    rw [hrelation field hfield hone.1, hrelation other hother hother']
  case hidden =>
    simp only [List.forall_mem_cons]
    exact ⟨fun h => absurd h (by decide), fun h => absurd h (by decide),
      fun _ h => absurd h List.not_mem_nil⟩

theorem tellsApart_numberedRow :
    Field.TellsApart [repliedNote.1, repliedNote.2] (.obj numberedRow) := by
  intro level row hrow
  cases hrow with
  | here => exact areToldApart_numberedRow
  | inside hmem hrelation _ hbelow =>
    simp only [List.mem_cons, List.not_mem_nil, or_false] at hmem
    rcases hmem with rfl | rfl
    · contradiction
    · have hplaces : Field.HaveOwnPlaces repliedNote.2.children :=
        ⟨trivial, by unfold Field.Clears Field.LooksUnder; decide, trivial, by simp,
          trivial⟩
      exact hplaces.tellsApart
        (Field.all_head_children simpleClause_repliedNote.simple (by simp)).2 _ _ _ hbelow

/-- The note comes back beside its number, and with the number of its
replies. -/
theorem denormalizeResponse_verbatim_note :
    SimpleClause "note_id,note:note_id(test,replies:count())".toList
        [repliedNote.1, repliedNote.2] ∧
      ∃ query, normalizeQuery (some "note_id,note:note_id(test,replies:count())".toList) true [] =
          .ok (some query) ∧
        query.denormalizeResponse (.obj numberedRow) = .obj numberedRow := by
  obtain ⟨query, hquery, -, hreturned⟩ := denormalizeResponse_verbatim simpleClause_repliedNote []
  have hshown : Field.AreShown [repliedNote.1, repliedNote.2] := by
    simp only [repliedNote, Field.ofWritten, Field.AreShown, Field.IsShown, and_true]
    decide
  exact ⟨simpleClause_repliedNote, query, hquery,
    (hreturned _ isAnswer_numberedRow tellsApart_numberedRow).2 hshown⟩

/-- The number of an account, and a relation of which only the number of rows is
asked for. -/
def countedNotes : Field × Field :=
  (.ofWritten "id" [], .ofWritten "notes" [.ofWritten "count" []])

theorem simpleClause_countedNotes :
    SimpleClause "id,notes(count)".toList [countedNotes.1, countedNotes.2] := by
  have hread : GroupedPath.AllReadBack [.leaf (.ofHead (.ofWritten "id")),
      .nested (.ofHead (.ofWritten "notes")) [.leaf (.ofHead (.ofWritten "count"))]] :=
    ⟨GroupedPath.readsBack_ofWritten (by decide),
      ⟨GroupedPath.readsBack_ofWritten (by decide), List.cons_ne_nil _ _,
        GroupedPath.readsBack_ofWritten (by decide), trivial⟩, trivial⟩
  refine ⟨GroupedPath.selectFields_readBack (List.cons_ne_nil _ _) hread, List.cons_ne_nil _ _,
    ?_, ?_⟩
  · exact ⟨⟨by decide, trivial⟩, ⟨by decide, ⟨by decide, trivial⟩,
      trivial⟩, trivial⟩
  · refine ⟨trivial, ?_, ⟨trivial, ?_, trivial⟩, ?_, trivial⟩ <;> decide

/-- An account with three notes. -/
def countedRow : Fields Json :=
  [("id".toList, .ofNat 1), ("notes".toList, .arr [.obj [("count".toList, .ofNat 3)]])]

theorem isAnswer_countedRow :
    Field.IsAnswer [countedNotes.1, countedNotes.2] (.arr [.obj countedRow]) := by
  have hcount : Field.IsAnswer countedNotes.2.children (.obj [("count".toList, .ofNat 3)]) := by
    refine .of_names (List.pairwise_singleton _ _) (by decide) ?_
    simp only [countedNotes, Field.ofWritten, Field.children, List.forall_mem_singleton]
    exact fun h => absurd h (by decide)
  refine .list (List.forall_mem_singleton.2 ?_)
  exact isAnswer_pair (by unfold Fields.Ascending; decide) (by decide) rfl rfl
    (.list (List.forall_mem_singleton.2 hcount))

/-- A note that refers to a note which is not there. -/
def missingRow : Fields Json :=
  [("note".toList, .null), ("note_id".toList, .ofNat 5)]

/-- Null is laid under the segment of the number and of the note, so they are
not told apart. -/
theorem denormalizeResponse_missingRow :
    (NormalizedQuery.verbatim "note_id,note:note_id(test,replies:count())".toList
        [repliedNote.1, repliedNote.2]).denormalizeResponse (.obj missingRow) =
      .obj [("note".toList, .null), ("note_id".toList, .null)] := by
  have hflat : normalizeResponse (Field.entriesOf [repliedNote.1, repliedNote.2])
      (.obj missingRow) = .obj [("note_id".toList, .null)] := rfl
  rw [NormalizedQuery.denormalizeResponse, NormalizedQuery.verbatim, Option.getD_some,
    denormalize, simpleClause_repliedNote.ofPaths_eq, hflat, Slot.reshape_obj,
    Slot.reshapeFields_slots _ (Field.segment_ne_star_of_isSimple simpleClause_repliedNote.simple)
      (Field.pairwise_of_distinctKeysOf simpleClause_repliedNote.distinct)]
  rfl

/-- The number of notes does not come back, nor the number beside a note that is
not there. -/
theorem countedNotes_lost :
    (SimpleClause "id,notes(count)".toList [countedNotes.1, countedNotes.2] ∧
      Field.IsAnswer [countedNotes.1, countedNotes.2] (.arr [.obj countedRow]) ∧
      ∃ query, normalizeQuery (some "id,notes(count)".toList) true [] = .ok (some query) ∧
        query.denormalizeResponse (.arr [.obj countedRow]) =
          .arr [.obj [("id".toList, .ofNat 1)]] ∧
        query.denormalizeResponse (.arr [.obj countedRow]) ≠ .arr [.obj countedRow]) ∧
      SimpleClause "note_id,note:note_id(test,replies:count())".toList
        [repliedNote.1, repliedNote.2] ∧
      Field.IsAnswer [repliedNote.1, repliedNote.2] (.obj missingRow) ∧
      ∃ query, normalizeQuery (some "note_id,note:note_id(test,replies:count())".toList) true [] =
          .ok (some query) ∧
        query.denormalizeResponse (.obj missingRow) =
          .obj [("note".toList, .null), ("note_id".toList, .null)] ∧
        query.denormalizeResponse (.obj missingRow) ≠ .obj missingRow := by
  have hplaces : Field.HaveOwnPlaces [countedNotes.1, countedNotes.2] := by
    refine ⟨trivial, ?_, ⟨trivial, ?_, trivial⟩, ?_, trivial⟩ <;>
      (unfold Field.Clears Field.LooksUnder; decide)
  have hkept : Field.kept [countedNotes.1, countedNotes.2] (.arr [.obj countedRow]) =
      .arr [.obj [("id".toList, .ofNat 1)]] := rfl
  have hreturned := denormalizeResponse_kept simpleClause_countedNotes isAnswer_countedRow
    (hplaces.tellsApart simpleClause_countedNotes.simple _)
  rw [hkept] at hreturned
  have hmissing : Field.IsAnswer [repliedNote.1, repliedNote.2] (.obj missingRow) :=
    isAnswer_pair (by unfold Fields.Ascending; decide) (by decide) rfl rfl (.null _)
  refine ⟨⟨simpleClause_countedNotes, isAnswer_countedRow, _,
      normalizeQuery_verbatim simpleClause_countedNotes [], hreturned, ?_⟩,
    simpleClause_repliedNote, hmissing, _,
    normalizeQuery_verbatim simpleClause_repliedNote [], denormalizeResponse_missingRow, ?_⟩
  · rw [hreturned]
    simp [countedRow]
  · rw [denormalizeResponse_missingRow]
    simp [missingRow, Json.ofNat]

end QueryCache
