/-
QueryCache.Proofs.Reshape.Projected — a nested row is projected along the
clause.

What a clause asks of a row is said by recursion on its fields: the value
of a leaf as it is, and for a relation null, the rows or the row below it,
projected in turn (`Field.project`).  The slots of the clause know nothing
of that tree, only routes, and read a source that may be flat.  When no
name of the source holds a dot, nothing in it is flat, at any depth
(`flatFields?_eq_none`), and the two agree field by field
(`valueIn_eq_project`), by induction on the fields, for every source at
once, since a relation leads from one source to the next.
-/
import QueryCache.Proofs.Reshape.Columns
import QueryCache.Proofs.Reshape.Gathered
import QueryCache.Proofs.Statement.ReadBack

namespace QueryCache

/-! ## 1. Nested values -/

namespace Json

/-- The value with every object in another shape, through arrays. -/
def mapObjects (shape : Fields Json → Fields Json) (value : Json) : Json :=
  value.mapRows fun
    | .obj fields => .obj (shape fields)
    | other => other

mutual

/-- No object in the value, however deep, has a dotted name. -/
def IsNested : Json → Prop
  | arr items => AreNested items
  | obj fields => HasNested fields
  | _ => True

/-- So it is for all items. -/
def AreNested : List Json → Prop
  | [] => True
  | item :: rest => IsNested item ∧ AreNested rest

/-- So it is for the object with these fields. -/
def HasNested : List (Text × Json) → Prop
  | [] => True
  | (name, value) :: rest => '.' ∉ name ∧ IsNested value ∧ HasNested rest

end

theorem hasNested_iff {fields : Fields Json} :
    HasNested fields ↔ ∀ field ∈ fields, '.' ∉ field.1 ∧ IsNested field.2 := by
  induction fields with
  | nil => simp [HasNested]
  | cons field rest ih => simp [HasNested, ih, and_assoc]

theorem isNested_of_get? {fields : Fields Json} (h : HasNested fields) {name : Text}
    {value : Json} (hvalue : Fields.get? name fields = some value) : value.IsNested :=
  (hasNested_iff.1 h _ (Fields.mem_of_get? hvalue)).2

mutual

/-- Shapes that agree on nested objects agree on nested values. -/
theorem mapObjects_congr {shape other : Fields Json → Fields Json}
    (h : ∀ fields, HasNested fields → shape fields = other fields) : (value : Json) →
    value.IsNested → value.mapObjects shape = value.mapObjects other
  | arr items, hvalue => by
    rw [IsNested] at hvalue
    rw [mapObjects, mapObjects, mapRows, mapRows]
    exact congrArg arr (mapObjectsList_congr h items hvalue)
  | obj fields, hvalue => by
    rw [IsNested] at hvalue
    rw [mapObjects, mapObjects, mapRows, mapRows]
    exact congrArg obj (h fields hvalue)
  | null, _ | bool _, _ | num _, _ | str _, _ => by simp only [mapObjects, mapRows]

theorem mapObjectsList_congr {shape other : Fields Json → Fields Json}
    (h : ∀ fields, HasNested fields → shape fields = other fields) : (items : List Json) →
    AreNested items →
    mapRowsList (fun | .obj fields => .obj (shape fields) | other => other) items =
      mapRowsList (fun | .obj fields => .obj (other fields) | other => other) items
  | [], _ => rfl
  | item :: rest, hitems => by
    rw [AreNested] at hitems
    rw [mapRowsList, mapRowsList, mapObjectsList_congr h rest hitems.2]
    exact congrArg (· :: _) (mapObjects_congr h item hitems.1)

end

end Json

/-! ## 2. Projections -/

namespace Field

/-- What an object holds for a head: the value under its segment, hints
included, or else the value under its name. -/
def held? (source : Fields Json) (head : Head) : Option Json :=
  (Fields.get? head.segment source).orElse fun _ => Fields.get? head.name source

mutual

/-- What an object answers for a field of the clause. -/
def project (source : Fields Json) : Field → Option Json
  | mk head children =>
    if children.isEmpty then held? source head
    else match held? source head with
      | some .null => some .null
      | some (.arr items) => some ((Json.arr items).mapObjects fun related =>
          Fields.ofList (projectAll related children))
      | some (.obj related) => some (.obj (Fields.ofList (projectAll related children)))
      | _ => none

/-- What it answers for fields side by side, each under its key; absent
fields are left out. -/
def projectAll (source : Fields Json) : List Field → List (Text × Json)
  | [] => []
  | field :: rest =>
    ((project source field).map fun value => (field.key, value)).toList ++ projectAll source rest

end

/-- A value projected along the fields of a clause: arrays element-wise, and
what is neither an array nor an object as it is. -/
def projectRows (fields : List Field) (value : Json) : Json :=
  value.mapObjects fun source => Fields.ofList (projectAll source fields)

end Field

/-- The head selects one column or one relation, without a cast. -/
structure Head.IsUncast (head : Head) : Prop where
  single : head.segment ≠ ['*']
  noCast : ¬ [':', ':'] <:+: head.name

theorem Head.IsUncast.upToCast_name {head : Head} (h : head.IsUncast) :
    Text.upToCast head.name = head.name := by
  rcases Text.upToCast_eq_self_or head.name with heq | ⟨type, heq⟩
  · exact heq
  · exact absurd ⟨Text.upToCast head.name, type, by simpa using heq.symm⟩ h.noCast

/-! ## 3. Slots and fields -/

namespace Slot

theorem reshape_eq_mapObjects (slots : List Slot) (response : Json) :
    reshape slots response = response.mapObjects (reshapeFields slots) := rfl

/-- In a nested source relations are read where they are nested. -/
theorem related?_of_hasNested {shape : Fields Json → Fields Json} {source : Fields Json}
    (h : Json.HasNested source) (segment : Text) :
    related? shape source segment =
      match lookup? source segment with
      | some .null => some .null
      | some (.arr items) => some ((Json.arr items).mapObjects shape)
      | some (.obj related) => some (.obj (shape related))
      | _ => none := by
  rw [related?, flatFields?_eq_none fun field hmem => (Json.hasNested_iff.1 h field hmem).1]
  rfl

theorem isNested_of_lookup? {source : Fields Json} (h : Json.HasNested source) {segment : Text}
    {value : Json} (hvalue : lookup? source segment = some value) : value.IsNested := by
  rw [lookup?] at hvalue
  rcases hfound : Fields.get? segment source with _ | found
  · rw [hfound, Option.orElse_none] at hvalue
    exact Json.isNested_of_get? h hvalue
  · rw [hfound, Option.orElse_some] at hvalue
    exact Json.isNested_of_get? h (hfound.trans hvalue)

/-- A head is looked up under its segment, or else under its name. -/
theorem lookup?_eq_held? {head : Head} (hlegal : head.IsLegal) (h : head.IsUncast)
    (source : Fields Json) : lookup? source head.segment = Field.held? source head := by
  rw [lookup?, Segment.bareName, hlegal.stripHints_segment, h.upToCast_name, Field.held?]

theorem segment_ne_star_of_isUncast {fields : List Field}
    (h : Field.AllOf Head.IsUncast fields) : ∀ field ∈ fields, field.head.segment ≠ ['*'] :=
  fun _ hmem => (Field.all_head_children h hmem).1.single

mutual

/-- A nested source holds for a field the projection of the field. -/
theorem valueIn_eq_project : (field : Field) → field.All Head.IsLegal → field.All Head.IsUncast →
    field.DistinctKeys → ∀ source, Json.HasNested source →
    valueIn source field = field.project source
  | .mk head children, hlegal, huncast, hdistinct, source, hsource => by
    rw [Field.All] at hlegal huncast
    rw [Field.DistinctKeys] at hdistinct
    have hlookup := lookup?_eq_held? hlegal.1 huncast.1 source
    -- What the source holds is nested, so the rows below it are projected.
    have hbelow : ∀ related, Json.HasNested related →
        reshapeFields (Field.slots children) related =
          Fields.ofList (Field.projectAll related children) := fun related hrelated => by
      rw [reshapeFields_slots _ (segment_ne_star_of_isUncast huncast.2)
          (Field.pairwise_of_distinctKeysOf hdistinct),
        filterMap_valueIn_eq_projectAll children hlegal.2 huncast.2 hdistinct related hrelated]
    rw [Field.project]
    by_cases hempty : children.isEmpty = true
    · rw [if_pos hempty, valueIn, Field.children, if_pos hempty, Field.head, hlookup]
    · rw [if_neg hempty, valueIn, Field.children, if_neg hempty, Field.head,
        related?_of_hasNested hsource, ← hlookup]
      rcases hvalue : lookup? source head.segment with _ | value
      · rfl
      · have hnested := isNested_of_lookup? hsource hvalue
        cases value with
        | arr items => exact congrArg some (Json.mapObjects_congr hbelow _ hnested)
        | obj related =>
          rw [Json.IsNested] at hnested
          exact congrArg (fun fields => some (Json.obj fields)) (hbelow related hnested)
        | _ => rfl

/-- What it holds for fields side by side is their projection. -/
theorem filterMap_valueIn_eq_projectAll : (fields : List Field) →
    Field.AllOf Head.IsLegal fields → Field.AllOf Head.IsUncast fields →
    Field.DistinctKeysOf fields → ∀ source, Json.HasNested source →
    (fields.filterMap fun field =>
      (valueIn source field).map fun value => (field.key, value)) =
        Field.projectAll source fields
  | [], _, _, _, _, _ => by rw [Field.projectAll, List.filterMap_nil]
  | field :: rest, hlegal, huncast, hdistinct, source, hsource => by
    rw [Field.AllOf] at hlegal huncast
    rw [Field.DistinctKeysOf] at hdistinct
    have hfield := valueIn_eq_project field hlegal.1 huncast.1 hdistinct.1 source hsource
    have hrest := filterMap_valueIn_eq_projectAll rest hlegal.2 huncast.2 hdistinct.2.2 source
      hsource
    rw [List.filterMap_cons, hfield, hrest, Field.projectAll]
    cases field.project source <;> rfl

end

/-- A nested object in the shape of fields is its projection along them. -/
theorem reshapeFields_eq_project {fields : List Field} (hlegal : Field.AllOf Head.IsLegal fields)
    (huncast : Field.AllOf Head.IsUncast fields) (hdistinct : Field.DistinctKeysOf fields)
    {source : Fields Json} (hsource : Json.HasNested source) :
    reshapeFields (Field.slots fields) source = Fields.ofList (Field.projectAll source fields) := by
  rw [reshapeFields_slots _ (segment_ne_star_of_isUncast huncast)
      (Field.pairwise_of_distinctKeysOf hdistinct),
    filterMap_valueIn_eq_projectAll fields hlegal huncast hdistinct source hsource]

end Slot

/-! ## 4. Clauses -/

/-- A clause without wildcards and casts, whose fields answer under keys of
their own, takes from a nested value its projection. -/
theorem denormalize_eq_projectRows {clause : Text} {fields : List Field}
    (hclause : selectFields clause = .ok fields) (huncast : Field.AllOf Head.IsUncast fields)
    (hdistinct : Field.DistinctKeysOf fields) {value : Json} (hvalue : value.IsNested) :
    (parseSelect clause).map (fun paths => denormalize paths value) =
      .ok (Field.projectRows fields value) := by
  have hlegal : Field.AllOf Head.IsLegal fields :=
    selectFields_all (fun _ _ _ => Head.isLegal_of_parse) hclause
  have hroutes : ∀ chain ∈ Field.chainsOf fields,
      Slot.route (Path.ofHeads chain) = Slot.headRoute chain := by
    intro chain hchain
    have hheads := Field.all_of_mem_chainsOf fields hlegal chain hchain
    refine Path.route_of_dotless ⟨Field.chainsOf_ne_nil fields chain hchain,
      fun head hhead => (hheads head hhead).isDotless⟩ fun head hhead => ?_
    rw [(hheads head hhead).stripHints_segment,
      (Field.all_of_mem_chainsOf fields huncast chain hchain head hhead).upToCast_name]
  rw [parseSelect_chains hclause, Except.map, denormalize,
    Slot.ofPaths_of_routes hroutes hdistinct, Slot.reshape_eq_mapObjects, Field.projectRows]
  exact congrArg Except.ok (Json.mapObjects_congr
    (fun _ => Slot.reshapeFields_eq_project hlegal huncast hdistinct) value hvalue)

/-! ## 5. Tasks -/

/-- The employee in charge of a task, and the labels of its tags. -/
def taskEntries : List GroupedPath :=
  [.leaf (.ofHead (Head.ofWritten "id".toList)),
    .nested (.ofHead (Head.ofWritten "assignee:employee!assignee_id".toList))
      [.leaf (.ofHead (Head.ofWritten "name:display_name".toList))],
    .nested (.ofHead (Head.ofWritten "tags:tag".toList))
      [.leaf (.ofHead (Head.ofWritten "label".toList))]]

/-- The clause for them. -/
def taskClause : Text :=
  "id,assignee:employee!assignee_id(name:display_name),tags:tag(label)".toList

/-- A task with tags, and one that nobody is in charge of. -/
def taskRows : Json :=
  .arr [
    .obj [("employee".toList, .obj [("display_name".toList, .str "Ann".toList)]),
      ("id".toList, .ofNat 1),
      ("tag".toList, .arr [.obj [("id".toList, .ofNat 7), ("label".toList, .str "new".toList)]])],
    .obj [("employee!assignee_id".toList, .null), ("id".toList, .ofNat 2)]]

theorem selectFields_taskClause :
    selectFields taskClause = .ok (GroupedPath.toFields taskEntries) := by
  have hread : ∀ written : Text, (Head.ofWritten written).IsNamed →
      Head.ReadsBack (Entry.ofHead (Head.ofWritten written)).declaration :=
    fun _ => GroupedPath.readsBack_ofWritten
  have hentries : GroupedPath.AllReadBack taskEntries :=
    ⟨hread _ (by decide +kernel),
      ⟨hread _ (by decide +kernel), List.cons_ne_nil _ _, hread _ (by decide +kernel), trivial⟩,
      ⟨hread _ (by decide +kernel), List.cons_ne_nil _ _, hread _ (by decide +kernel), trivial⟩,
      trivial⟩
  have htext : taskClause = GroupedPath.statement taskEntries := by decide +kernel
  rw [htext]
  exact GroupedPath.selectFields_readBack (List.cons_ne_nil _ _) hentries

/-- Tasks are projected: a name stands in for a hint, null stays null, and
absent tags are left out. -/
theorem denormalize_taskRows :
    selectFields taskClause = .ok (GroupedPath.toFields taskEntries) ∧
      Field.AllOf Head.IsUncast (GroupedPath.toFields taskEntries) ∧
      Field.DistinctKeysOf (GroupedPath.toFields taskEntries) ∧ taskRows.IsNested ∧
      (parseSelect taskClause).map (fun paths => denormalize paths taskRows) =
        .ok (Field.projectRows (GroupedPath.toFields taskEntries) taskRows) ∧
      Field.projectRows (GroupedPath.toFields taskEntries) taskRows =
        .arr [
          .obj [("assignee".toList, .obj [("name".toList, .str "Ann".toList)]),
            ("id".toList, .ofNat 1),
            ("tags".toList, .arr [.obj [("label".toList, .str "new".toList)]])],
          .obj [("assignee".toList, .null), ("id".toList, .ofNat 2)]] := by
  have hclause := selectFields_taskClause
  have hplain : ∀ written : Text, (Head.ofWritten written).segment ≠ ['*'] →
      ¬ [':', ':'] <:+: (Head.ofWritten written).name → (Head.ofWritten written).IsUncast :=
    fun _ hsegment hcast => ⟨hsegment, hcast⟩
  have huncast : Field.AllOf Head.IsUncast (GroupedPath.toFields taskEntries) :=
    ⟨⟨hplain _ (by decide +kernel) (by decide +kernel), trivial⟩,
      ⟨hplain _ (by decide +kernel) (by decide +kernel),
        ⟨hplain _ (by decide +kernel) (by decide +kernel), trivial⟩, trivial⟩,
      ⟨hplain _ (by decide +kernel) (by decide +kernel),
        ⟨hplain _ (by decide +kernel) (by decide +kernel), trivial⟩, trivial⟩, trivial⟩
  have hdistinct : Field.DistinctKeysOf (GroupedPath.toFields taskEntries) :=
    ⟨trivial, by decide +kernel, ⟨⟨trivial, by decide, trivial⟩, by decide +kernel,
      ⟨⟨trivial, by decide, trivial⟩, by decide, trivial⟩⟩⟩
  have hnested : taskRows.IsNested := by
    simp [taskRows, Json.IsNested, Json.AreNested, Json.HasNested, Json.ofNat]
  exact ⟨hclause, huncast, hdistinct, hnested,
    denormalize_eq_projectRows hclause huncast hdistinct hnested, by decide +kernel⟩

end QueryCache
