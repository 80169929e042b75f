/-
QueryCache.Proofs.Reshape.Returned — answers to a clause, reshaped into it.

A clause can be fetched as it stands.  Its answer is flattened along the
entries of the clause itself (`Field.entriesOf`) and reshaped along its own
slots.  On the way every field lays its value under its segment, so it comes
back unless a sibling lays another value where it is looked for
(`Field.AreToldApart`).  What no statement shows is never laid out, and does
not come back (`Field.kept`).  All other values of a told-apart answer do, at
every level (`reshape_normalizeResponse`).
-/
import QueryCache.Proofs.HintedRelations
import QueryCache.Proofs.Statement.Repeated

namespace QueryCache

/-! ## 1. Fields without wildcard and cast -/

/-- The name of the head is an identifier or `count()`: no wildcard, no cast. -/
structure Head.IsSimple (head : Head) : Prop where
  own : head.IsOwn
  name : isIdentifier head.name = true ∨ head.name = "count()".toList

namespace Head.IsSimple

variable {head : Head} (h : head.IsSimple)
include h

theorem not_mem_name {c : Char} (hc : c ∈ marks) (hcall : c ∉ "count()".toList) :
    c ∉ head.name := by
  rcases h.name with hname | hname
  · exact not_mem_of_isIdentifier hname hc
  · rwa [hname]

theorem segment_ne_star : head.segment ≠ ['*'] := by
  intro hstar
  obtain ⟨rest, hsegment, -⟩ := exists_segment_eq head h.own.1.hints
  have hne : head.name ≠ [] := by
    rcases h.name with hname | hname
    · exact ne_nil_of_isIdentifier hname
    · simp [hname]
  obtain ⟨c, cs, hname⟩ := List.exists_cons_of_ne_nil hne
  rw [hsegment, hname, List.cons_append, List.cons.injEq] at hstar
  refine h.not_mem_name (c := '*') (by decide) (by decide) ?_
  rw [hname, hstar.1]
  exact List.mem_cons_self

theorem dot_not_mem_segment : '.' ∉ head.segment :=
  Head.dot_not_mem_segment h.own.1.isDotless

theorem stripHints_segment : Segment.stripHints head.segment = Text.upToCast head.name := by
  rw [Segment.stripHints, upTo_segment h.own.1.hint_not_mem_name,
    Text.upToCast_of_not_mem (h.not_mem_name (by decide) (by decide))]

end Head.IsSimple

namespace Field

/-- The fields that statements show. -/
def shownOf (fields : List Field) : List Field :=
  fields.filter fun field => !field.isHidden

theorem mem_shownOf {fields : List Field} {field : Field} :
    field ∈ shownOf fields ↔ field ∈ fields ∧ field.isHidden = false := by
  simp [shownOf]

theorem entriesOf_eq_map (fields : List Field) :
    entriesOf fields = (shownOf fields).map entryOf := by
  induction fields with
  | nil => rfl
  | cons field rest ih =>
    rw [entriesOf, shownOf, List.filter_cons, ih]
    rcases field.isHidden with _ | _ <;> rfl

theorem entry_entryOf (field : Field) : field.entryOf.entry = .ofHead field.head := by
  obtain ⟨head, children⟩ := field
  rw [entryOf]
  split <;> rfl

theorem path_entryOf (field : Field) : field.entryOf.entry.path = field.head.segment := by
  rw [entry_entryOf]
  rfl

theorem heading_entryOf (field : Field) :
    field.entryOf.heading = (field.isRelation, field.head.segment) := by
  obtain ⟨head, children⟩ := field
  rw [entryOf, isRelation, Field.children]
  split
  · rename_i hempty
    rw [hempty]
    rfl
  · rename_i hempty
    rw [Bool.not_eq_true] at hempty
    rw [hempty]
    rfl

theorem entryOf_column {field : Field} (h : field.isRelation = false) :
    field.entryOf = .leaf (.ofHead field.head) := by
  obtain ⟨head, children⟩ := field
  rw [entryOf, if_pos (by simpa [isRelation, Field.children] using h)]
  rfl

theorem entryOf_relation {field : Field} (h : field.isRelation = true) :
    field.entryOf = .nested (.ofHead field.head) (entriesOf field.children) := by
  obtain ⟨head, children⟩ := field
  rw [entryOf, if_neg (by simpa [isRelation, Field.children] using h)]
  rfl

theorem isHidden_relation {field : Field} (h : field.isRelation = true) :
    field.isHidden = areHidden field.children := by
  obtain ⟨head, children⟩ := field
  rw [isHidden, if_neg (by simpa [isRelation, Field.children] using h)]
  rfl

/-- A relation that is shown has something shown below it. -/
theorem entriesOf_children_ne_nil {field : Field} (hrelation : field.isRelation = true)
    (hvisible : field.isHidden = false) : entriesOf field.children ≠ [] := by
  rwa [isHidden_relation hrelation, ← Bool.not_eq_true, areHidden_iff] at hvisible

theorem responseKey_entryOf {field : Field} (h : field.head.IsSimple) :
    field.entryOf.responseKey = field.key := by
  rw [GroupedPath.responseKey, entry_entryOf, Entry.ofHead, key, Head.effectiveName,
    h.own.1.bareName_segment]

/-! ## 2. Answers -/

/-- The value answers fields: it is null, a row that holds a value under the
key of each field and nothing else, or a list of such values.  A relation holds
what answers the fields below it, a column any value. -/
inductive IsAnswer : List Field → Json → Prop where
  | null (fields : List Field) : IsAnswer fields .null
  | row {fields : List Field} {row : Fields Json} (hascending : row.Ascending)
    (hkeys : ∀ name, (Fields.get? name row).isSome = true ↔ ∃ field ∈ fields, field.key = name)
    (hbelow : ∀ field ∈ fields, field.isRelation = true →
      ∀ value, Fields.get? field.key row = some value → IsAnswer field.children value) :
    IsAnswer fields (.obj row)
  | list {fields : List Field} {items : List Json} (hitems : ∀ item ∈ items, IsAnswer fields item) :
    IsAnswer fields (.arr items)

/-- A row with the keys of the fields for names is an answer, if its relations
hold answers. -/
theorem IsAnswer.of_names {fields : List Field} {row : Fields Json} (hascending : row.Ascending)
    (hnames : (row.map Prod.fst).Perm (fields.map key))
    (hbelow : ∀ field ∈ fields, field.isRelation = true →
      ∀ value, Fields.get? field.key row = some value → IsAnswer field.children value) :
    IsAnswer fields (.obj row) := by
  refine .row hascending (fun name => ?_) hbelow
  rw [← List.mem_map, ← hnames.mem_iff, Fields.isSome_get?_iff]

/-- In an answer to fields there is a row that answers the fields of a level. -/
inductive HasRow : List Field → Json → List Field → Fields Json → Prop where
  | here (fields : List Field) (row : Fields Json) : HasRow fields (.obj row) fields row
  | item {fields level : List Field} {items : List Json} {item : Json} {row : Fields Json}
    (hmem : item ∈ items) (hitem : HasRow fields item level row) :
    HasRow fields (.arr items) level row
  | inside {fields level : List Field} {field : Field} {outer row : Fields Json} {value : Json}
    (hmem : field ∈ fields) (hrelation : field.isRelation = true)
    (hvalue : Fields.get? field.key outer = some value)
    (hbelow : HasRow field.children value level row) : HasRow fields (.obj outer) level row

/-! ## 3. Fields told apart -/

/-- What a row with the field lays under its segment: a column, null or rows.
A relation to one row lays the columns of that row below the segment. -/
def laid? (row : Fields Json) (field : Field) : Option Json :=
  field.entryOf.ownColumn? row

/-- The row holds one related row for the field. -/
def LeadsToOne (row : Fields Json) (field : Field) : Prop :=
  field.isRelation = true ∧ ∃ related, Fields.get? field.key row = some (.obj related)

/-- The field is looked for under the segment: its own, and then the bare name
of it. -/
def LooksUnder (field : Field) (segment : Text) : Prop :=
  segment = field.head.segment ∨ segment = Segment.bareName field.head.segment

/-- The fields of a row are told apart in the flat row.  Two of one segment lay
the same value there.  Where a relation leads to one row, only scalars are laid
where it is looked for, and no other relation has its segment.  Nothing is laid
where a field is looked for that no statement shows. -/
structure AreToldApart (fields : List Field) (row : Fields Json) : Prop where
  shared : ∀ field ∈ shownOf fields, ∀ other ∈ shownOf fields,
    other.head.segment = field.head.segment →
      ∀ value found, field.laid? row = some value → other.laid? row = some found → found = value
  scalar : ∀ field ∈ shownOf fields, field.LeadsToOne row → ∀ other ∈ shownOf fields,
    field.LooksUnder other.head.segment →
      ∀ found, other.laid? row = some found → found.isScalar = true
  single : ∀ field ∈ shownOf fields, field.LeadsToOne row → ∀ other ∈ shownOf fields,
    other.isRelation = true → other.head.segment = field.head.segment → other.key = field.key
  hidden : ∀ field ∈ fields, field.isHidden = true → ∀ other ∈ shownOf fields,
    ¬ field.LooksUnder other.head.segment

/-- Every row of the answer tells its fields apart. -/
def TellsApart (fields : List Field) (answer : Json) : Prop :=
  ∀ level row, HasRow fields answer level row → AreToldApart level row

/-- The field is not looked for under the segment of the other one, if
statements show that. -/
def Clears (field other : Field) : Prop :=
  other.isHidden = false → ¬ field.LooksUnder other.head.segment

mutual

/-- The fields of every level below have places of their own. -/
def HasOwnPlaces : Field → Prop
  | mk _ children => HaveOwnPlaces children

/-- So have those of this level: none is looked for under the segment of
another one. -/
def HaveOwnPlaces : List Field → Prop
  | [] => True
  | field :: rest =>
    HasOwnPlaces field ∧ (∀ other ∈ rest, Clears field other ∧ Clears other field) ∧
      HaveOwnPlaces rest

end

theorem HaveOwnPlaces.children {fields : List Field} (h : HaveOwnPlaces fields) {field : Field}
    (hmem : field ∈ fields) : HaveOwnPlaces field.children := by
  induction fields with
  | nil => contradiction
  | cons first rest ih =>
    rw [HaveOwnPlaces] at h
    rcases List.mem_cons.1 hmem with rfl | hmem
    · obtain ⟨head, children⟩ := field
      exact h.1
    · exact ih h.2.2 hmem

theorem HaveOwnPlaces.eq_of_looksUnder {fields : List Field} (h : HaveOwnPlaces fields)
    {field other : Field} (hfield : field ∈ fields) (hother : other ∈ shownOf fields)
    (hlooks : field.LooksUnder other.head.segment) : other = field := by
  induction fields with
  | nil => contradiction
  | cons first rest ih =>
    rw [HaveOwnPlaces] at h
    obtain ⟨hmem, hvisible⟩ := mem_shownOf.1 hother
    rcases List.mem_cons.1 hfield with rfl | hrest
    · rcases List.mem_cons.1 hmem with rfl | hmem
      · rfl
      · exact absurd hlooks ((h.2.1 other hmem).1 hvisible)
    · rcases List.mem_cons.1 hmem with rfl | hmem
      · exact absurd hlooks ((h.2.1 field hrest).2 hvisible)
      · exact ih h.2.2 hrest (mem_shownOf.2 ⟨hmem, hvisible⟩)

/-! ## 4. What comes back -/

mutual

/-- What comes back of the value of a field: nothing, if no statement shows the
field. -/
def kept? : Field → Json → Option Json
  | mk head children, value =>
    if isHidden (mk head children) then none
    else if children.isEmpty then some value
    else some (value.mapRows fun
      | .obj row => .obj (Fields.ofList (keptColumns children row))
      | other => other)

/-- What comes back of a row, under the keys of the fields. -/
def keptColumns : List Field → Fields Json → List (Text × Json)
  | [], _ => []
  | field :: rest, row =>
    (((Fields.get? field.key row).bind (kept? field)).map fun value => (field.key, value)).toList ++
      keptColumns rest row

end

/-- What comes back of an answer to the fields: all but what no statement
shows. -/
def kept (fields : List Field) (answer : Json) : Json :=
  answer.mapRows fun
    | .obj row => .obj (Fields.ofList (keptColumns fields row))
    | other => other

theorem kept_obj (fields : List Field) (row : Fields Json) :
    kept fields (.obj row) = .obj (Fields.ofList (keptColumns fields row)) := by
  rw [kept, Json.mapRows]

theorem keptColumns_eq_filterMap (fields : List Field) (row : Fields Json) :
    keptColumns fields row = fields.filterMap fun field =>
      ((Fields.get? field.key row).bind field.kept?).map fun value => (field.key, value) := by
  induction fields with
  | nil => rfl
  | cons field rest ih =>
    rw [keptColumns, ih, List.filterMap_cons]
    rcases (Fields.get? field.key row).bind field.kept? with _ | value <;> rfl

theorem kept?_of_hidden {field : Field} (h : field.isHidden = true) (value : Json) :
    field.kept? value = none := by
  obtain ⟨head, children⟩ := field
  rw [kept?, if_pos h]

theorem kept?_column {field : Field} (hshown : field.isHidden = false)
    (hcolumn : field.isRelation = false) (value : Json) : field.kept? value = some value := by
  obtain ⟨head, children⟩ := field
  rw [kept?, if_neg (by simp [hshown]),
    if_pos (by simpa [isRelation, Field.children] using hcolumn)]

theorem kept?_relation {field : Field} (hshown : field.isHidden = false)
    (hrelation : field.isRelation = true) (value : Json) :
    field.kept? value = some (kept field.children value) := by
  obtain ⟨head, children⟩ := field
  rw [kept?, if_neg (by simp [hshown]),
    if_neg (by simpa [isRelation, Field.children] using hrelation)]
  rfl

/-! ## 5. The flat row -/

section

variable {field : Field} (h : field.head.IsSimple)
include h

theorem isExplicit_entryOf : field.entryOf.IsExplicit where
  ne_star := by
    rw [path_entryOf]
    exact h.segment_ne_star
  dotless := by
    rw [path_entryOf]
    exact h.dot_not_mem_segment

theorem laid?_column (hcolumn : field.isRelation = false) (row : Fields Json) :
    field.laid? row = Fields.get? field.key row := by
  rw [laid?, ← responseKey_entryOf h, entryOf_column hcolumn]
  rfl

theorem laid?_relation (hrelation : field.isRelation = true) {row : Fields Json} {value : Json}
    (hvalue : Fields.get? field.key row = some value) (hobject : value.isObject = false) :
    field.laid? row = some (normalizeResponse (entriesOf field.children) value) := by
  rw [← responseKey_entryOf h, entryOf_relation hrelation] at hvalue
  rw [laid?, entryOf_relation hrelation]
  exact GroupedPath.ownColumn?_nested.2 ⟨value, hvalue, hobject, rfl⟩

/-- A value that is not one related row is laid out under the segment. -/
theorem exists_laid? {row : Fields Json} {value : Json}
    (hvalue : Fields.get? field.key row = some value) (hone : ¬ field.LeadsToOne row) :
    ∃ found, field.laid? row = some found := by
  rcases hrelation : field.isRelation with _ | _
  · exact ⟨value, (laid?_column h hrelation row).trans hvalue⟩
  · rcases hobject : value.isObject with _ | _
    · exact ⟨_, laid?_relation h hrelation hvalue hobject⟩
    · cases value with
      | obj related => exact absurd ⟨hrelation, related, hvalue⟩ hone
      | _ => contradiction

theorem laid?_of_leadsToOne {row : Fields Json} (hone : field.LeadsToOne row) :
    field.laid? row = none := by
  obtain ⟨hrelation, related, hrelated⟩ := hone
  rw [← responseKey_entryOf h, entryOf_relation hrelation] at hrelated
  rw [laid?, entryOf_relation hrelation, GroupedPath.ownColumn?, hrelated]

end

section

variable {fields : List Field} (hsimple : AllOf Head.IsSimple fields)
include hsimple

theorem segment_ne_star_of_isSimple : ∀ field ∈ fields, field.head.segment ≠ ['*'] :=
  fun _ hmem => (all_head_children hsimple hmem).1.segment_ne_star

theorem isSimple_of_shown {field : Field} (hfield : field ∈ shownOf fields) :
    field.head.IsSimple :=
  (all_head_children hsimple (mem_shownOf.1 hfield).1).1

theorem isExplicit_of_mem_entriesOf : ∀ grouped ∈ entriesOf fields, grouped.IsExplicit := by
  intro grouped hmem
  rw [entriesOf_eq_map] at hmem
  obtain ⟨field, hfield, rfl⟩ := List.mem_map.1 hmem
  exact isExplicit_entryOf (isSimple_of_shown hsimple hfield)

/-- Fields with places of their own are told apart in every row. -/
theorem HaveOwnPlaces.areToldApart (h : HaveOwnPlaces fields) (row : Fields Json) :
    AreToldApart fields row where
  shared field hfield other hother hsegment value found hvalue hfound := by
    obtain rfl := h.eq_of_looksUnder (mem_shownOf.1 hfield).1 hother (.inl hsegment)
    exact Option.some.inj (hfound.symm.trans hvalue)
  scalar field hfield hone other hother hlooks found hfound := by
    obtain rfl := h.eq_of_looksUnder (mem_shownOf.1 hfield).1 hother hlooks
    rw [laid?_of_leadsToOne (isSimple_of_shown hsimple hother) hone] at hfound
    contradiction
  single field hfield _ other hother _ hsegment := by
    rw [h.eq_of_looksUnder (mem_shownOf.1 hfield).1 hother (.inl hsegment)]
  hidden field hfield hhidden other hother hlooks := by
    have hshown := (mem_shownOf.1 hother).2
    rw [h.eq_of_looksUnder hfield hother hlooks, hhidden] at hshown
    contradiction

/-- So they are in every answer. -/
theorem HaveOwnPlaces.tellsApart (h : HaveOwnPlaces fields) (answer : Json) :
    TellsApart fields answer := by
  intro level row hrow
  induction hrow with
  | here fields row => exact h.areToldApart hsimple row
  | item _ _ ih => exact ih hsimple h
  | inside hmem _ _ _ ih => exact ih (all_head_children hsimple hmem).2 (h.children hmem)

variable {row : Fields Json}

/-- What stands under a segment of the flat row, a field of that segment laid
there. -/
theorem exists_laid?_of_get? {segment : Text} (hdot : '.' ∉ segment) {value : Json}
    (hvalue : Fields.get? segment (GroupedPath.flattenRow (entriesOf fields) row) = some value) :
    ∃ field ∈ shownOf fields, field.head.segment = segment ∧ field.laid? row = some value := by
  rw [GroupedPath.get?_flattenRow_segment (isExplicit_of_mem_entriesOf hsimple) hdot] at hvalue
  obtain ⟨grouped, hmem, hpath, hown⟩ := GroupedPath.exists_of_lastColumn? hvalue
  rw [entriesOf_eq_map] at hmem
  obtain ⟨field, hfield, rfl⟩ := List.mem_map.1 hmem
  exact ⟨field, hfield, (path_entryOf field).symm.trans hpath, hown⟩

/-- So it is with what is looked up for a field. -/
theorem exists_laid?_of_lookup? {field : Field} (hfield : field.head.IsSimple) {value : Json}
    (hvalue : Slot.lookup? (GroupedPath.flattenRow (entriesOf fields) row) field.head.segment =
      some value) :
    ∃ other ∈ shownOf fields, field.LooksUnder other.head.segment ∧
      other.laid? row = some value := by
  have hdot := hfield.dot_not_mem_segment
  rw [Slot.lookup?] at hvalue
  rcases hown : Fields.get? field.head.segment
    (GroupedPath.flattenRow (entriesOf fields) row) with _ | found
  · rw [hown] at hvalue
    obtain ⟨other, hother, hsegment, hlaid⟩ :=
      exists_laid?_of_get? hsimple (Slot.dot_not_mem_bareName hdot) hvalue
    exact ⟨other, hother, .inr hsegment, hlaid⟩
  · rw [hown] at hvalue
    obtain ⟨other, hother, hsegment, hlaid⟩ :=
      exists_laid?_of_get? hsimple hdot (hown.trans hvalue)
    exact ⟨other, hother, .inl hsegment, hlaid⟩

section

variable (happart : AreToldApart fields row)
include happart

/-- A field that lays a value finds it under its segment. -/
theorem lookup?_of_laid? {field : Field} (hfield : field ∈ shownOf fields) {value : Json}
    (hvalue : field.laid? row = some value) :
    Slot.lookup? (GroupedPath.flattenRow (entriesOf fields) row) field.head.segment =
      some value := by
  have hdot := (isSimple_of_shown hsimple hfield).dot_not_mem_segment
  have hmem : field.entryOf ∈ entriesOf fields := by
    rw [entriesOf_eq_map]
    exact List.mem_map_of_mem hfield
  have hsome := GroupedPath.isSome_lastColumn? hmem hvalue
  rw [path_entryOf,
    ← GroupedPath.get?_flattenRow_segment (isExplicit_of_mem_entriesOf hsimple) hdot] at hsome
  obtain ⟨found, hfound⟩ := Option.isSome_iff_exists.1 hsome
  obtain ⟨other, hother, hsegment, hlaid⟩ := exists_laid?_of_get? hsimple hdot hfound
  rw [happart.shared field hfield other hother hsegment value found hvalue hlaid] at hfound
  exact Slot.lookup?_of_get? hfound

/-- For a field that no statement shows nothing is found. -/
theorem lookup?_of_hidden {field : Field} (hmem : field ∈ fields)
    (hhidden : field.isHidden = true) :
    Slot.lookup? (GroupedPath.flattenRow (entriesOf fields) row) field.head.segment = none := by
  rw [Option.eq_none_iff_forall_not_mem]
  intro value hvalue
  obtain ⟨other, hother, hlooks, -⟩ :=
    exists_laid?_of_lookup? hsimple (all_head_children hsimple hmem).1 hvalue
  exact happart.hidden field hmem hhidden other hother hlooks

/-- Nor does anything stand below its segment. -/
theorem flatFields?_of_hidden {field : Field} (hmem : field ∈ fields)
    (hhidden : field.isHidden = true) :
    Slot.flatFields? (GroupedPath.flattenRow (entriesOf fields) row) field.head.segment =
      none := by
  have hdot := (all_head_children hsimple hmem).1.dot_not_mem_segment
  refine (Slot.flatFields?_of_get? (GroupedPath.ascending_flattenRow _ _) Fields.ascending_nil
    fun name => ?_).trans (if_pos rfl)
  rw [GroupedPath.flattenRow_eq_columns, GroupedPath.get?_columnsOf_below_eq_none
    (isExplicit_of_mem_entriesOf hsimple) hdot, Fields.get?_nil]
  intro grouped hgrouped hheading
  rw [entriesOf_eq_map] at hgrouped
  obtain ⟨other, hother, rfl⟩ := List.mem_map.1 hgrouped
  rw [heading_entryOf, Prod.mk.injEq] at hheading
  exact happart.hidden field hmem hhidden other hother (.inl hheading.2)

/-- A relation to one row finds the columns of that row below its segment, if
there are any. -/
theorem flatFields?_of_leadsToOne (hkeys : DistinctKeysOf fields) {field : Field}
    (hfield : field ∈ shownOf fields) (hrelation : field.isRelation = true)
    {related : Fields Json} (hrelated : Fields.get? field.key row = some (.obj related))
    (hne : GroupedPath.flattenRow (entriesOf field.children) related ≠ []) :
    Slot.flatFields? (GroupedPath.flattenRow (entriesOf fields) row) field.head.segment =
      some (GroupedPath.flattenRow (entriesOf field.children) related) := by
  have hsimpleField := isSimple_of_shown hsimple hfield
  obtain ⟨front, back, hsplit⟩ := List.append_of_mem hfield
  have hpairwise : (shownOf fields).Pairwise fun a b => a.key ≠ b.key :=
    (pairwise_of_distinctKeysOf hkeys).sublist List.filter_sublist
  have hentries : entriesOf fields = front.map entryOf ++
      .nested (.ofHead field.head) (entriesOf field.children) :: back.map entryOf := by
    rw [entriesOf_eq_map, hsplit, List.map_append, List.map_cons, entryOf_relation hrelation]
  have hexplicit := isExplicit_of_mem_entriesOf hsimple
  rw [hentries] at hexplicit
  -- The key of the relation is its own, so it is the only one of its segment.
  have hothers : ∀ other ∈ front.map entryOf ++ back.map entryOf,
      other.heading ≠ (true, field.head.segment) := by
    intro grouped hgrouped hheading
    rw [← List.map_append] at hgrouped
    obtain ⟨other, hother, rfl⟩ := List.mem_map.1 hgrouped
    rw [heading_entryOf, Prod.mk.injEq] at hheading
    have hmem : other ∈ shownOf fields := by
      rw [hsplit]
      exact List.mem_append.2 ((List.mem_append.1 hother).imp_right (List.mem_cons_of_mem _))
    have hkey := happart.single field hfield ⟨hrelation, related, hrelated⟩ other hmem hheading.1
      hheading.2
    rw [hsplit, List.pairwise_append, List.pairwise_cons] at hpairwise
    rcases List.mem_append.1 hother with hother | hother
    · exact hpairwise.2.2 other hother field List.mem_cons_self hkey
    · exact hpairwise.2.1.1 other hother hkey.symm
  rw [← responseKey_entryOf hsimpleField, entryOf_relation hrelation] at hrelated
  refine (Slot.flatFields?_of_get? (GroupedPath.ascending_flattenRow _ _)
    (GroupedPath.ascending_flattenRow _ _) fun name => ?_).trans
      (if_neg fun hempty => hne (List.isEmpty_iff.1 hempty))
  rw [hentries]
  exact GroupedPath.get?_flattenRow_middle hexplicit hothers hrelated name

end

end

/-- A row that answers shown fields lays something out. -/
theorem columnsOf_ne_nil {fields : List Field} {answer : Json} (h : IsAnswer fields answer)
    (hsimple : AllOf Head.IsSimple fields) (hshown : entriesOf fields ≠ []) {row : Fields Json}
    (hrow : answer = .obj row) (claimed : List Text) :
    GroupedPath.columnsOf claimed row (entriesOf fields) ≠ [] := by
  induction h generalizing row claimed with
  | null => contradiction
  | list => contradiction
  | @row fields outer hascending hkeys hbelow ih =>
    obtain rfl : outer = row := by simpa using hrow
    rw [entriesOf_eq_map] at hshown ⊢
    obtain ⟨field, hfield⟩ := List.exists_mem_of_ne_nil (shownOf fields) (by simpa using hshown)
    obtain ⟨hmem, hvisible⟩ := mem_shownOf.1 hfield
    obtain ⟨hhead, hchildren⟩ := all_head_children hsimple hmem
    obtain ⟨value, hvalue⟩ := Option.isSome_iff_exists.1 ((hkeys field.key).2 ⟨field, hmem, rfl⟩)
    obtain ⟨front, back, hsplit⟩ := List.append_of_mem hfield
    have hexplicit := isExplicit_entryOf hhead
    have hcolumns : GroupedPath.columns claimed outer field.entryOf ≠ [] := by
      by_cases hone : field.LeadsToOne outer
      · obtain ⟨hrelation, related, hrelated⟩ := hone
        have hbelow := ih field hmem hrelation _ hrelated hchildren
          (entriesOf_children_ne_nil hrelation hvisible) rfl
          (GroupedPath.claimedKeys (entriesOf field.children))
        rw [← responseKey_entryOf hhead] at hrelated
        rw [entryOf_relation hrelation] at hrelated hexplicit ⊢
        have hstar : (Entry.ofHead field.head).path ≠ ['*'] := hexplicit.ne_star
        rw [GroupedPath.columns, if_neg hstar, hrelated]
        simpa using hbelow
      · obtain ⟨found, hfound⟩ := exists_laid? hhead hvalue hone
        rw [GroupedPath.columns_of_ownColumn? hexplicit hfound]
        exact List.cons_ne_nil _ _
    rw [hsplit, List.map_append, List.map_cons, GroupedPath.columnsOf_append,
      GroupedPath.columnsOf]
    simp [hcolumns]

/-! ## 6. Answers reshaped -/

theorem isEmpty_children {field : Field} : field.children.isEmpty = !field.isRelation := by
  rw [isRelation, Bool.not_not]

section

variable {fields : List Field} (hsimple : AllOf Head.IsSimple fields) {row : Fields Json}
  (happart : AreToldApart fields row)
include hsimple happart

/-- For a field that no statement shows the flat row holds nothing. -/
theorem valueIn_of_hidden {field : Field} (hmem : field ∈ fields)
    (hhidden : field.isHidden = true) :
    Slot.valueIn (GroupedPath.flattenRow (entriesOf fields) row) field = none := by
  have hlookup := lookup?_of_hidden hsimple happart hmem hhidden
  rw [Slot.valueIn, Slot.related?, hlookup,
    flatFields?_of_hidden hsimple happart hmem hhidden]
  split <;> rfl

/-- For a relation it holds what the relation answers, reshaped. -/
theorem valueIn_of_relation (hdistinct : DistinctKeysOf fields) {field : Field}
    (hfield : field ∈ shownOf fields) (hrelation : field.isRelation = true) {value : Json}
    (hvalue : Fields.get? field.key row = some value) (hanswer : IsAnswer field.children value) :
    Slot.valueIn (GroupedPath.flattenRow (entriesOf fields) row) field =
      some (Slot.reshape (slots field.children)
        (normalizeResponse (entriesOf field.children) value)) := by
  obtain ⟨hmem, hvisible⟩ := mem_shownOf.1 hfield
  obtain ⟨hhead, hchildren⟩ := all_head_children hsimple hmem
  have hfound : value.isObject = false →
      Slot.lookup? (GroupedPath.flattenRow (entriesOf fields) row) field.head.segment =
        some (normalizeResponse (entriesOf field.children) value) := fun hobject =>
    lookup?_of_laid? hsimple happart hfield (laid?_relation hhead hrelation hvalue hobject)
  rw [Slot.valueIn, isEmpty_children, hrelation, Bool.not_true, if_neg Bool.false_ne_true]
  cases hanswer with
  | null =>
    rw [Slot.related?, hfound rfl]
    rfl
  | list =>
    rw [Slot.related?, hfound rfl]
    rfl
  | @row _ related hascending hkeys hbelow =>
    have hone : field.LeadsToOne row := ⟨hrelation, related, hvalue⟩
    have hne : GroupedPath.flattenRow (entriesOf field.children) related ≠ [] := by
      rw [GroupedPath.flattenRow_eq_columns]
      exact Fields.ofList_ne_nil (columnsOf_ne_nil (.row hascending hkeys hbelow) hchildren
        (entriesOf_children_ne_nil hrelation hvisible) rfl _)
    rw [Slot.related?_of_scalar fun found hlookup => ?_,
      flatFields?_of_leadsToOne hsimple happart hdistinct hfield hrelation hvalue hne]
    · rfl
    · obtain ⟨other, hother, hlooks, hlaid⟩ := exists_laid?_of_lookup? hsimple hhead hlookup
      exact happart.scalar field hfield hone other hother hlooks found hlaid

end

/-- Of an answer, flattened and reshaped, comes back all that statements
show. -/
theorem reshape_normalizeResponse {fields : List Field} {answer : Json}
    (h : IsAnswer fields answer) (hsimple : AllOf Head.IsSimple fields)
    (hdistinct : DistinctKeysOf fields) (happart : TellsApart fields answer) :
    Slot.reshape (slots fields) (normalizeResponse (entriesOf fields) answer) =
      kept fields answer := by
  induction h with
  | null => rfl
  | @list fields items _ ih =>
    have hitems : ∀ item ∈ items,
        Slot.reshape (slots fields) (normalizeResponse (entriesOf fields) item) =
          kept fields item := fun item hmem =>
      ih item hmem hsimple hdistinct fun level row hrow => happart level row (.item hmem hrow)
    simp only [normalizeResponse, Slot.reshape, kept, Json.mapRows_arr, List.map_map] at hitems ⊢
    exact congrArg Json.arr (List.map_congr_left hitems)
  | @row fields row hascending hkeys hbelow ih =>
    have hrow : normalizeResponse (entriesOf fields) (.obj row) =
        .obj (GroupedPath.flattenRow (entriesOf fields) row) := by
      rw [normalizeResponse, Json.mapRows]
    have htold := happart _ _ (.here _ _)
    rw [hrow, Slot.reshape_obj, Slot.reshapeFields_slots _
      (segment_ne_star_of_isSimple hsimple)
      (pairwise_of_distinctKeysOf hdistinct), kept_obj, keptColumns_eq_filterMap]
    refine congrArg (fun columns => Json.obj (Fields.ofList columns))
      (List.filterMap_congr fun field hmem => ?_)
    obtain ⟨hhead, hchildren⟩ := all_head_children hsimple hmem
    obtain ⟨value, hvalue⟩ := Option.isSome_iff_exists.1 ((hkeys field.key).2 ⟨field, hmem, rfl⟩)
    suffices Slot.valueIn (GroupedPath.flattenRow (entriesOf fields) row) field =
        field.kept? value by rw [this, hvalue, Option.bind_some]
    rcases hvisible : field.isHidden with _ | _
    · have hfield : field ∈ shownOf fields := mem_shownOf.2 ⟨hmem, hvisible⟩
      rcases hrelation : field.isRelation with _ | _
      · rw [kept?_column hvisible hrelation, Slot.valueIn, isEmpty_children, hrelation,
          Bool.not_false, if_pos rfl]
        exact lookup?_of_laid? hsimple htold hfield
          ((laid?_column hhead hrelation row).trans hvalue)
      · rw [kept?_relation hvisible hrelation, valueIn_of_relation hsimple htold hdistinct hfield
          hrelation hvalue (hbelow field hmem hrelation value hvalue)]
        exact congrArg some (ih field hmem hrelation value hvalue hchildren
          (distinctKeysOf_children hdistinct hmem)
          fun level found hfound => happart level found (.inside hmem hrelation hvalue hfound))
    · rw [kept?_of_hidden hvisible, valueIn_of_hidden hsimple htold hmem hvisible]

/-! ## 7. Answers that come back whole -/

mutual

/-- Statements show the field and all fields below it. -/
def IsShown : Field → Prop
  | mk head children => isHidden (mk head children) = false ∧ AreShown children

/-- They show all fields of the level. -/
def AreShown : List Field → Prop
  | [] => True
  | field :: rest => IsShown field ∧ AreShown rest

end

theorem isShown_of_mem {fields : List Field} (h : AreShown fields) {field : Field}
    (hmem : field ∈ fields) : field.isHidden = false ∧ AreShown field.children := by
  induction fields with
  | nil => contradiction
  | cons first rest ih =>
    rw [AreShown] at h
    rcases List.mem_cons.1 hmem with rfl | hmem
    · obtain ⟨head, children⟩ := field
      have hfirst := h.1
      rwa [IsShown] at hfirst
    · exact ih h.2 hmem

/-- Of an answer to fields that are shown everything comes back. -/
theorem kept_of_areShown {fields : List Field} {answer : Json} (h : IsAnswer fields answer)
    (hshown : AreShown fields) (hdistinct : DistinctKeysOf fields) :
    kept fields answer = answer := by
  induction h with
  | null => rfl
  | @list fields items _ ih =>
    have hitems : ∀ item ∈ items, kept fields item = item := fun item hmem =>
      ih item hmem hshown hdistinct
    rw [kept, Json.mapRows_arr]
    exact congrArg Json.arr ((List.map_congr_left hitems).trans (List.map_id' items))
  | @row fields row hascending hkeys hbelow ih =>
    have hkept : ∀ field ∈ fields, ∀ value, Fields.get? field.key row = some value →
        field.kept? value = some value := by
      intro field hmem value hvalue
      obtain ⟨hvisible, hchildren⟩ := isShown_of_mem hshown hmem
      rcases hrelation : field.isRelation with _ | _
      · exact kept?_column hvisible hrelation value
      · rw [kept?_relation hvisible hrelation, ih field hmem hrelation value hvalue hchildren
          (distinctKeysOf_children hdistinct hmem)]
    have hcolumns : keptColumns fields row = fields.filterMap fun field =>
        (Fields.get? field.key row).map fun value => (field.key, value) := by
      rw [keptColumns_eq_filterMap]
      refine List.filterMap_congr fun field hmem => ?_
      rcases hvalue : Fields.get? field.key row with _ | value
      · rfl
      · rw [Option.bind_some, hkept field hmem value hvalue]
    rw [kept_obj, hcolumns]
    refine congrArg Json.obj (Fields.ext_of_ascending (Fields.ascending_ofList _) hascending
      fun name => ?_)
    by_cases hname : ∃ field ∈ fields, field.key = name
    · obtain ⟨field, hmem, rfl⟩ := hname
      exact Slot.get?_ofList_keys (pairwise_of_distinctKeysOf hdistinct)
        (fun field => Fields.get? field.key row) hmem
    · rw [Slot.get?_ofList_keys_eq_none (fun field => Fields.get? field.key row)
        fun field hmem hkey => hname ⟨field, hmem, hkey⟩]
      exact (Option.not_isSome_iff_eq_none.1 fun hsome => hname ((hkeys name).1 hsome)).symm

end Field
end QueryCache
