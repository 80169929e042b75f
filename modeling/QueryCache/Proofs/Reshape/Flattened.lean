/-
QueryCache.Proofs.Reshape.Flattened — an answer under dotted names.

The answer to a bare statement is flattened column by column:
`flatEntries` lists the columns with their dotted names, and no name
occurs twice.  So the flat row (`flatRow`) answers the path of a leaf with
its column and that of a relation with null or with flat rows; and the
names that begin with the path of a relation to one record are the flat
row of that record (`flatFields?_flatRow`).
-/
import QueryCache.Proofs.Backend
import QueryCache.Proofs.Statement.Bare
import QueryCache.Reshape.Flat

namespace QueryCache

namespace GroupedPath

mutual

/-- The columns that a record answers for an entry, under dotted names. -/
def flatEntry (record : Record) : GroupedPath → List (Text × Json)
  | leaf entry => [(entry.path, record.column entry.path)]
  | nested entry paths =>
    match record.relation entry.path with
    | .none => [(entry.path, .null)]
    | .one related =>
      (flatEntries related paths).map fun column => (entry.path ++ '.' :: column.1, column.2)
    | .many records =>
      [(entry.path, .arr (records.map fun related =>
        .obj (Fields.ofList (flatEntries related paths))))]

/-- The columns that a record answers for the entries of a level. -/
def flatEntries (record : Record) : List GroupedPath → List (Text × Json)
  | [] => []
  | grouped :: rest => flatEntry record grouped ++ flatEntries record rest

end

/-- The row of those columns. -/
def flatRow (record : Record) (paths : List GroupedPath) : Fields Json :=
  Fields.ofList (flatEntries record paths)

theorem mem_flatEntries {record : Record} {paths : List GroupedPath} {column : Text × Json} :
    column ∈ flatEntries record paths ↔ ∃ grouped ∈ paths, column ∈ flatEntry record grouped := by
  induction paths with
  | nil => simp [flatEntries]
  | cons grouped rest ih => simp [flatEntries, ih]

/-- The columns of an entry below `start`, written into `out`. -/
def writeColumns (start : Text) (out : Fields Json) (columns : List (Text × Json)) : Fields Json :=
  columns.foldl (fun out column => Fields.insert (start ++ column.1) column.2 out) out

/-! ## 1. Flattening -/

theorem ne_star_of_isBare {grouped : GroupedPath} (h : grouped.IsBare) :
    grouped.entry.path ≠ ['*'] :=
  Segment.ne_star_of_isPlain (isBare_entry h).1

/-- The answer to bare entries holds the value of each under the key that
flattening reads. -/
theorem get?_answers {record : Record} {paths : List GroupedPath} (h : AreBare paths)
    (hdistinct : DistinctNamesOf paths) {grouped : GroupedPath} (hmem : grouped ∈ paths) :
    Fields.get? grouped.responseKey (Fields.ofList (Field.answers record (toFields paths))) =
      some (grouped.toField.answer record) := by
  have hbare := areBare_iff.1 h
  have hanswers : Field.answers record (toFields paths) =
      paths.map fun grouped => (grouped.name, grouped.toField.answer record) := by
    rw [Field.answers_eq_map, toFields_eq_map, List.map_map]
    refine List.map_congr_left fun other hother => ?_
    exact congrArg (·, other.toField.answer record) (head_toField (hbare other hother)).2
  rw [hanswers, responseKey_eq (hbare grouped hmem)]
  refine Fields.get?_ofList ?_ (List.mem_map_of_mem hmem)
  exact List.pairwise_map.2 (pairwise_of_distinctNamesOf hdistinct)

theorem answer_toField_leaf {entry : Entry} (h : (leaf entry).IsBare) (record : Record) :
    (leaf entry).toField.answer record = record.column entry.path := by
  have hsegment := (head_toField h).1
  rw [toField] at hsegment ⊢
  rw [Field.answer_leaf]
  exact congrArg record.column hsegment

theorem answer_toField_nested {entry : Entry} {paths : List GroupedPath}
    (h : (nested entry paths).IsBare) (record : Record) :
    (nested entry paths).toField.answer record =
      (record.relation entry.path).toJson fun related =>
        Field.answerRow related (toFields paths) := by
  have hsegment := (head_toField h).1
  rw [IsBare] at h
  have hfields : toFields paths ≠ [] := by
    rw [toFields_eq_map]
    simpa using h.2.1
  rw [toField] at hsegment ⊢
  rw [Field.answer_relation record _ hfields]
  exact congrArg (fun segment => (record.relation segment).toJson fun related =>
    Field.answerRow related (toFields paths)) hsegment

theorem writeColumns_below (start segment : Text) (out : Fields Json)
    (columns : List (Text × Json)) :
    writeColumns (start ++ segment ++ ['.']) out columns =
      writeColumns start out
        (columns.map fun column => (segment ++ '.' :: column.1, column.2)) := by
  have hname : ∀ name : Text,
      start ++ segment ++ ['.'] ++ name = start ++ (segment ++ '.' :: name) := by
    intro name
    simp
  rw [writeColumns, writeColumns, List.foldl_map]
  simp only [hname]

mutual

/-- The columns of an entry are laid out as they are listed. -/
theorem flattenOne_eq (record : Record) (claimed : List Text) (row : Fields Json) (start : Text)
    (out : Fields Json) : (grouped : GroupedPath) → grouped.IsBare → grouped.DistinctNames →
    Fields.get? grouped.responseKey row = some (grouped.toField.answer record) →
    flattenOne claimed row start out grouped =
      writeColumns start out (flatEntry record grouped)
  | leaf entry, h, _, hrow => by
    have hstar : entry.path ≠ ['*'] := ne_star_of_isBare h
    rw [flattenOne, if_neg hstar, hrow, answer_toField_leaf h, flatEntry]
    rfl
  | nested entry paths, h, hdistinct, hrow => by
    have hstar : entry.path ≠ ['*'] := ne_star_of_isBare h
    rw [flattenOne, if_neg hstar, hrow, answer_toField_nested h, flatEntry]
    rw [IsBare] at h
    rw [DistinctNames] at hdistinct
    have hrows : ∀ (related : Record) (start : Text) (out : Fields Json),
        flattenInto (claimedKeys paths) (Fields.ofList (Field.answers related (toFields paths)))
            start out paths =
          writeColumns start out (flatEntries related paths) :=
      fun related start out => flattenInto_eq related _ _ start out paths h.2.2 hdistinct
        fun grouped hmem => get?_answers h.2.2 hdistinct hmem
    cases record.relation entry.path with
    | none => rfl
    | one related =>
      rw [← writeColumns_below]
      exact hrows related _ out
    | many records =>
      refine congrArg (fun value => Fields.insert (start ++ entry.path) value out)
        ((Related.mapRows_toJson (fun _ => rfl) rfl (.many records)).trans ?_)
      exact Related.toJson_congr (.many records) fun related _ =>
        congrArg Json.obj (hrows related [] [])

theorem flattenInto_eq (record : Record) (claimed : List Text) (row : Fields Json) (start : Text)
    (out : Fields Json) : (paths : List GroupedPath) → AreBare paths → DistinctNamesOf paths →
    (∀ grouped ∈ paths,
      Fields.get? grouped.responseKey row = some (grouped.toField.answer record)) →
    flattenInto claimed row start out paths =
      writeColumns start out (flatEntries record paths)
  | [], _, _, _ => by rw [flattenInto, flatEntries]; rfl
  | grouped :: rest, h, hdistinct, hrow => by
    rw [AreBare] at h
    rw [DistinctNamesOf] at hdistinct
    rw [flattenInto, flattenOne_eq record claimed row start out grouped h.1 hdistinct.1
        (hrow grouped List.mem_cons_self),
      flattenInto_eq record claimed row start _ rest h.2 hdistinct.2.2
        fun other hmem => hrow other (List.mem_cons_of_mem _ hmem),
      flatEntries, writeColumns, writeColumns, writeColumns, List.foldl_append]

end

/-- The answer to bare entries is flattened to the flat row. -/
theorem flattenRow_eq (record : Record) {paths : List GroupedPath} (h : AreBare paths)
    (hdistinct : DistinctNamesOf paths) :
    flattenRow paths (Fields.ofList (Field.answers record (toFields paths))) =
      flatRow record paths :=
  flattenInto_eq record _ _ [] [] paths h hdistinct fun _ hmem => get?_answers h hdistinct hmem

/-! ## 2. Names of columns -/

section

variable {paths : List GroupedPath}

theorem upTo_append_dot {segment : Text} (h : Segment.isPlain segment = true) (name : Text) :
    Text.upTo '.' segment = segment ∧ Text.upTo '.' (segment ++ '.' :: name) = segment := by
  have hdot : '.' ∉ segment := Segment.not_mem_of_isPlain h (by decide) (by decide)
  exact ⟨Text.upTo_of_not_mem hdot, Text.upTo_append hdot name⟩

/-- The name of a column begins with the path of its entry. -/
theorem upTo_of_mem_flatEntry {record : Record} {grouped : GroupedPath} (h : grouped.IsBare)
    {column : Text × Json} (hmem : column ∈ flatEntry record grouped) :
    Text.upTo '.' column.1 = grouped.entry.path := by
  have hplain := upTo_append_dot (isBare_entry h).1
  cases grouped with
  | leaf entry =>
    rw [flatEntry, List.mem_singleton] at hmem
    exact hmem ▸ (hplain []).1
  | nested entry inner =>
    rw [flatEntry] at hmem
    split at hmem
    · rw [List.mem_singleton] at hmem
      exact hmem ▸ (hplain []).1
    · obtain ⟨below, -, rfl⟩ := List.mem_map.1 hmem
      exact (hplain below.1).2
    · rw [List.mem_singleton] at hmem
      exact hmem ▸ (hplain []).1

mutual

theorem pairwise_flatEntry (record : Record) : (grouped : GroupedPath) → grouped.IsBare →
    grouped.DistinctNames → (flatEntry record grouped).Pairwise fun a b => a.1 ≠ b.1
  | leaf entry, _, _ => by rw [flatEntry]; exact List.pairwise_singleton _ _
  | nested entry inner, h, hdistinct => by
    rw [IsBare] at h
    rw [DistinctNames] at hdistinct
    rw [flatEntry]
    cases record.relation entry.path with
    | none => exact List.pairwise_singleton _ _
    | one related =>
      refine List.pairwise_map.2 ((pairwise_flatEntries related inner h.2.2 hdistinct).imp ?_)
      intro a b hne heq
      exact hne (List.cons.inj (List.append_cancel_left heq)).2
    | many records => exact List.pairwise_singleton _ _

/-- No two columns have one name. -/
theorem pairwise_flatEntries (record : Record) : (paths : List GroupedPath) → AreBare paths →
    DistinctNamesOf paths → (flatEntries record paths).Pairwise fun a b => a.1 ≠ b.1
  | [], _, _ => by rw [flatEntries]; exact List.Pairwise.nil
  | grouped :: rest, h, hdistinct => by
    rw [AreBare] at h
    rw [DistinctNamesOf] at hdistinct
    rw [flatEntries]
    refine List.pairwise_append.2 ⟨pairwise_flatEntry record grouped h.1 hdistinct.1,
      pairwise_flatEntries record rest h.2 hdistinct.2.2, ?_⟩
    intro a ha b hb heq
    obtain ⟨other, hother, hb⟩ := mem_flatEntries.1 hb
    have hpath : other.entry.path = grouped.entry.path := by
      rw [← upTo_of_mem_flatEntry h.1 ha, heq,
        upTo_of_mem_flatEntry (areBare_iff.1 h.2 other hother) hb]
    exact hdistinct.2.1 other hother (congrArg Segment.bareName hpath)

end

theorem flatEntries_ne_nil (record : Record) : (paths : List GroupedPath) → paths ≠ [] →
    AreBare paths → flatEntries record paths ≠ []
  | [], hne, _ => absurd rfl hne
  | leaf entry :: rest, _, _ => by
    rw [flatEntries, flatEntry]
    simp
  | nested entry inner :: rest, _, h => by
    rw [AreBare, IsBare] at h
    rw [flatEntries, flatEntry]
    cases record.relation entry.path with
    | none => simp
    | one related => simp [flatEntries_ne_nil related inner h.1.2.1 h.1.2.2]
    | many records => simp

end

/-! ## 3. The flat row -/

section

variable {record : Record} {paths : List GroupedPath} (h : AreBare paths)
  (hdistinct : DistinctNamesOf paths)
include h hdistinct

/-- Under the name of a column stands the column. -/
theorem get?_flatRow {name : Text} {value : Json}
    (hmem : (name, value) ∈ flatEntries record paths) :
    Fields.get? name (flatRow record paths) = some value :=
  Fields.get?_ofList (pairwise_flatEntries record paths h hdistinct) hmem

theorem isEmpty_flatRow (hne : paths ≠ []) : (flatRow record paths).isEmpty = false := by
  obtain ⟨column, rest, hcolumns⟩ :=
    List.exists_cons_of_ne_nil (flatEntries_ne_nil record paths hne h)
  have hget := @get?_flatRow record paths h hdistinct column.1 column.2
    (hcolumns ▸ List.mem_cons_self)
  rcases hrow : flatRow record paths with _ | ⟨first, others⟩
  · rw [hrow, Fields.get?_nil] at hget
    contradiction
  · rfl

/-- A name that begins with the path of an entry is answered by the entry
alone. -/
theorem get?_flatRow_eq_none {grouped : GroupedPath} (hgrouped : grouped ∈ paths) {name : Text}
    (hname : Segment.bareName (Text.upTo '.' name) = grouped.name)
    (hnone : ∀ column ∈ flatEntry record grouped, column.1 ≠ name) :
    Fields.get? name (flatRow record paths) = none := by
  refine Fields.get?_ofList_eq_none ?_
  intro column hmem heq
  obtain ⟨other, hother, hmem⟩ := mem_flatEntries.1 hmem
  have hpath := upTo_of_mem_flatEntry (areBare_iff.1 h other hother) hmem
  have hsame : other = grouped := by
    refine eq_of_name_eq hdistinct hother hgrouped ?_
    rw [← hname, ← heq, hpath]
    rfl
  exact hnone column (hsame ▸ hmem) heq

end

end GroupedPath

/-! ## 4. Names with one start -/

theorem compare_append_left (start a b : Text) :
    compare (start ++ a) (start ++ b) = compare a b := by
  induction start with
  | nil => rfl
  | cons c rest ih =>
    rw [List.cons_append, List.cons_append, List.compare_cons_cons, Std.ReflOrd.compare_self, ih]
    rfl

/-- The fields whose names begin with `start`, without it. -/
def Fields.below (start : Text) (source : Fields Json) : Fields Json :=
  source.filterMap fun field => (Text.stripStart start field.1).map fun rest => (rest, field.2)

theorem Fields.get?_below (start name : Text) (source : Fields Json) :
    get? name (below start source) = get? (start ++ name) source := by
  induction source with
  | nil => rfl
  | cons field rest ih =>
    obtain ⟨n, value⟩ := field
    rw [get?_cons, ← ih, below, List.filterMap_cons]
    rcases hstrip : Text.stripStart start n with _ | own
    · have hne : start ++ name ≠ n := by
        intro heq
        rw [Text.stripStart_eq_some_iff.2 heq.symm] at hstrip
        contradiction
      rw [if_neg hne]
      rfl
    · obtain rfl := Text.stripStart_eq_some_iff.1 hstrip
      simp only [Option.map_some, get?_cons, List.append_cancel_left_eq]
      rfl

theorem Fields.ascending_below (start : Text) {source : Fields Json} (h : Ascending source) :
    Ascending (below start source) := by
  refine List.pairwise_filterMap.2 (h.imp ?_)
  intro a b hab x hx y hy
  obtain ⟨own, hown, rfl⟩ := Option.map_eq_some_iff.1 hx
  obtain ⟨other, hother, rfl⟩ := Option.map_eq_some_iff.1 hy
  rw [Text.stripStart_eq_some_iff.1 hown, Text.stripStart_eq_some_iff.1 hother,
    compare_append_left] at hab
  exact hab

theorem Slot.flatFields?_eq (source : Fields Json) (segment : Text) :
    flatFields? source segment =
      if (Fields.below (segment ++ ['.']) source).isEmpty then none
      else some (Fields.below (segment ++ ['.']) source) := rfl

/-- The fields below a segment are known by what they answer. -/
theorem Slot.flatFields?_of_get? {source fields : Fields Json} {segment : Text}
    (hsource : source.Ascending) (hfields : fields.Ascending)
    (h : ∀ name, Fields.get? (segment ++ '.' :: name) source = Fields.get? name fields) :
    flatFields? source segment = if fields.isEmpty then none else some fields := by
  have hsame : Fields.below (segment ++ ['.']) source = fields := by
    refine Fields.ext_of_ascending (Fields.ascending_below _ hsource) hfields fun name => ?_
    have hname : segment ++ ['.'] ++ name = segment ++ '.' :: name := by simp
    rw [Fields.get?_below, hname, h]
  rw [flatFields?_eq, hsame]

/-! ## 5. Relations in the flat row -/

namespace GroupedPath

theorem flatEntry_one {record related : Record} {entry : Entry}
    (h : record.relation entry.path = .one related) (inner : List GroupedPath) :
    flatEntry record (nested entry inner) =
      (flatEntries related inner).map fun column =>
        (entry.path ++ '.' :: column.1, column.2) := by
  rw [flatEntry, h]

section

variable {record : Record} {paths inner : List GroupedPath} {entry : Entry}
  (h : AreBare paths) (hdistinct : DistinctNamesOf paths) (hmem : nested entry inner ∈ paths)
include h hdistinct hmem

theorem get?_flatRow_relation {value : Json}
    (hvalue : flatEntry record (nested entry inner) = [(entry.path, value)]) :
    Fields.get? entry.path (flatRow record paths) = some value := by
  refine get?_flatRow h hdistinct (mem_flatEntries.2 ⟨_, hmem, ?_⟩)
  exact hvalue ▸ List.mem_singleton_self _

variable {related : Record} (hone : record.relation entry.path = .one related)
include hone

/-- A relation to one record has no column of its own. -/
theorem lookup?_flatRow_one : Slot.lookup? (flatRow record paths) entry.path = none := by
  have hplain : Segment.isPlain entry.path = true := (isBare_entry (areBare_iff.1 h _ hmem)).1
  have hundotted : ∀ name : Text, '.' ∉ name → Segment.bareName name = Segment.bareName entry.path →
      Fields.get? name (flatRow record paths) = none := by
    intro name hdot hname
    refine get?_flatRow_eq_none h hdistinct hmem ?_ ?_
    · rw [Text.upTo_of_not_mem hdot]
      exact hname
    · rw [flatEntry_one hone]
      intro column hcolumn heq
      obtain ⟨below, -, rfl⟩ := List.mem_map.1 hcolumn
      exact hdot (heq ▸ List.mem_append_right _ List.mem_cons_self)
  have hdot : '.' ∉ entry.path := Segment.not_mem_of_isPlain hplain (by decide) (by decide)
  have hbare := Segment.bareName_of_isPlain hplain
  have hbareDot : '.' ∉ Segment.bareName entry.path := by
    rw [hbare]
    exact fun hmem => hdot (List.takeWhile_subset _ hmem)
  rw [Slot.lookup?, hundotted _ hdot rfl,
    hundotted _ hbareDot (Segment.bareName_bareName hplain)]
  rfl

/-- The columns below a relation to one record are the flat row of that
record. -/
theorem flatFields?_flatRow_one :
    Slot.flatFields? (flatRow record paths) entry.path = some (flatRow related inner) := by
  have hrelation := areBare_iff.1 h _ hmem
  have hbelow := distinctNames_of_mem hdistinct hmem
  have hplain : Segment.isPlain entry.path = true := (isBare_entry hrelation).1
  rw [IsBare] at hrelation
  rw [DistinctNames] at hbelow
  have hsame : ∀ name, Fields.get? (entry.path ++ '.' :: name) (flatRow record paths) =
      Fields.get? name (flatRow related inner) := by
    intro name
    by_cases hcolumn : ∃ value, (name, value) ∈ flatEntries related inner
    · obtain ⟨value, hvalue⟩ := hcolumn
      rw [get?_flatRow hrelation.2.2 hbelow hvalue]
      refine get?_flatRow h hdistinct (mem_flatEntries.2 ⟨_, hmem, ?_⟩)
      rw [flatEntry_one hone]
      exact List.mem_map_of_mem hvalue
    · have hinner : Fields.get? name (flatRow related inner) = none :=
        Fields.get?_ofList_eq_none fun column hmem heq => hcolumn ⟨column.2, heq ▸ hmem⟩
      rw [hinner]
      refine get?_flatRow_eq_none h hdistinct hmem ?_ ?_
      · rw [(upTo_append_dot hplain name).2]
        rfl
      · rw [flatEntry_one hone]
        intro column hmem heq
        obtain ⟨below, hbelow, rfl⟩ := List.mem_map.1 hmem
        have hown : below.1 = name := (List.cons.inj (List.append_cancel_left heq)).2
        exact hcolumn ⟨below.2, hown ▸ hbelow⟩
  have hempty : (flatRow related inner).isEmpty = false :=
    isEmpty_flatRow hrelation.2.2 hbelow hrelation.2.1
  exact (Slot.flatFields?_of_get? (Fields.ascending_ofList _) (Fields.ascending_ofList _)
    hsame).trans (if_neg (Bool.eq_false_iff.1 hempty))

end

end GroupedPath
end QueryCache
