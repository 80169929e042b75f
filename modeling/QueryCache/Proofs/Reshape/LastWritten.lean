/-
QueryCache.Proofs.Reshape.LastWritten — columns that lie on each other.

A column and a relation of one segment are told apart by their response
keys, but the flat row knows both by the segment.  Flattening writes the
columns of a row one after the other (`columnsOf`), so under a name stands
what was written there last.  Below a relation to one row nothing else
writes (`get?_flattenRow_of_reaches`).  So a column is kept, at any depth,
unless a relation of its segment that comes later answers null or a list,
which then stands in its place (`normalizeResponse_column`).
-/
import QueryCache.Proofs.Reshape.Flattened
import QueryCache.Proofs.Statement.Leaves
import QueryCache.Proofs.Statement.ResponseKeys

namespace QueryCache

/-! ## 1. Names that are written more than once -/

namespace Fields

variable {α : Type}

/-- Under a name stands what was written there, else what was there. -/
theorem get?_foldl_insert_or (name : Text) (entries : List (Text × α)) (fields : Fields α) :
    get? name (entries.foldl (fun fields entry => insert entry.1 entry.2 fields) fields) =
      (get? name (ofList entries)).or (get? name fields) := by
  rw [ofList]
  induction entries generalizing fields with
  | nil => rfl
  | cons entry rest ih =>
    rw [List.foldl_cons, List.foldl_cons, ih, ih (insert entry.1 entry.2 []), Option.or_assoc,
      get?_insert, get?_insert]
    split <;> rfl

/-- Of two lists of columns the one that is written later counts first. -/
theorem get?_ofList_append (name : Text) (front back : List (Text × α)) :
    get? name (ofList (front ++ back)) =
      (get? name (ofList back)).or (get? name (ofList front)) := by
  rw [ofList, List.foldl_append, get?_foldl_insert_or]
  rfl

theorem get?_ofList_map_append (start name : Text) (entries : List (Text × α)) :
    get? (start ++ name) (ofList (entries.map fun entry => (start ++ entry.1, entry.2))) =
      get? name (ofList entries) := by
  induction entries with
  | nil => rfl
  | cons entry rest ih =>
    rw [List.map_cons, ← List.singleton_append, get?_ofList_append, ih,
      ← List.singleton_append (l := rest), get?_ofList_append]
    refine congrArg _ ?_
    simp only [ofList, List.foldl_cons, List.foldl_nil, get?_insert, List.append_cancel_left_eq,
      get?_nil]

end Fields

namespace GroupedPath

/-! ## 2. The columns of a row -/

mutual

/-- The columns that an entry reads in a row, under dotted names, in the
order in which they are written. -/
def columns (claimed : List Text) (row : Fields Json) : GroupedPath → List (Text × Json)
  | leaf entry =>
    if entry.path = ['*'] then row.filter fun column => !claimed.contains column.1
    else (Fields.get? (leaf entry).responseKey row).toList.map fun value => (entry.path, value)
  | nested entry paths =>
    if entry.path = ['*'] then row.filter fun column => !claimed.contains column.1
    else match Fields.get? (nested entry paths).responseKey row with
      | none => []
      | some (.obj related) =>
        (columnsOf (claimedKeys paths) related paths).map fun column =>
          (entry.path ++ '.' :: column.1, column.2)
      | some other => [(entry.path, normalizeResponse paths other)]

/-- Those that the entries of a level read. -/
def columnsOf (claimed : List Text) (row : Fields Json) : List GroupedPath → List (Text × Json)
  | [] => []
  | grouped :: rest => columns claimed row grouped ++ columnsOf claimed row rest

end

theorem copyUnclaimed_eq (claimed : List Text) (start : Text) (row out : Fields Json) :
    copyUnclaimed claimed start row out =
      writeColumns start out (row.filter fun column => !claimed.contains column.1) := by
  induction row generalizing out with
  | nil => rfl
  | cons column rest ih =>
    obtain ⟨name, value⟩ := column
    rw [copyUnclaimed, List.foldl_cons, ← copyUnclaimed, ih, List.filter_cons]
    dsimp only
    cases claimed.contains name <;> rfl

mutual

theorem flattenOne_eq_columns (claimed : List Text) (row : Fields Json) (start : Text)
    (out : Fields Json) : (grouped : GroupedPath) →
    flattenOne claimed row start out grouped =
      writeColumns start out (columns claimed row grouped)
  | leaf entry => by
    rw [flattenOne, columns]
    split
    · exact copyUnclaimed_eq claimed start row out
    · cases Fields.get? (leaf entry).responseKey row <;> rfl
  | nested entry paths => by
    rw [flattenOne, columns]
    split
    · exact copyUnclaimed_eq claimed start row out
    · rcases hrow : Fields.get? (nested entry paths).responseKey row with _ | value
      · rfl
      · cases value with
        | obj related =>
          dsimp only
          rw [← writeColumns_below]
          exact flattenInto_eq_columns (claimedKeys paths) related _ out paths
        | _ => rfl

/-- Flattening writes the columns of the row. -/
theorem flattenInto_eq_columns (claimed : List Text) (row : Fields Json) (start : Text)
    (out : Fields Json) : (paths : List GroupedPath) →
    flattenInto claimed row start out paths =
      writeColumns start out (columnsOf claimed row paths)
  | [] => by
    rw [flattenInto, columnsOf]
    rfl
  | grouped :: rest => by
    rw [flattenInto, flattenOne_eq_columns claimed row start out grouped,
      flattenInto_eq_columns claimed row start _ rest, columnsOf, writeColumns, writeColumns,
      writeColumns, List.foldl_append]

end

theorem flattenRow_eq_columns (paths : List GroupedPath) (row : Fields Json) :
    flattenRow paths row = Fields.ofList (columnsOf (claimedKeys paths) row paths) :=
  flattenInto_eq_columns (claimedKeys paths) row [] [] paths

theorem ascending_flattenRow (paths : List GroupedPath) (row : Fields Json) :
    (flattenRow paths row).Ascending := by
  rw [flattenRow_eq_columns]
  exact Fields.ascending_ofList _

theorem columnsOf_append (claimed : List Text) (row : Fields Json) (front back : List GroupedPath) :
    columnsOf claimed row (front ++ back) =
      columnsOf claimed row front ++ columnsOf claimed row back := by
  induction front with
  | nil => rfl
  | cons grouped rest ih =>
    rw [List.cons_append, columnsOf, columnsOf, ih, List.append_assoc]

/-! ## 3. What one entry writes -/

/-- What an entry writes under its own segment: a column, null, or flat rows.
The columns of a relation to one row are written below the segment. -/
def ownColumn? (row : Fields Json) : GroupedPath → Option Json
  | leaf entry => Fields.get? (leaf entry).responseKey row
  | nested entry paths =>
    match Fields.get? (nested entry paths).responseKey row with
    | some (.obj _) => none
    | found => found.map (normalizeResponse paths)

/-- The entry has an explicit segment without dots. -/
structure IsExplicit (grouped : GroupedPath) : Prop where
  ne_star : grouped.entry.path ≠ ['*']
  dotless : '.' ∉ grouped.entry.path

section

variable {claimed : List Text} {row : Fields Json} {grouped : GroupedPath}

theorem columns_of_ownColumn? (h : grouped.IsExplicit) {value : Json}
    (hvalue : grouped.ownColumn? row = some value) :
    columns claimed row grouped = [(grouped.entry.path, value)] := by
  cases grouped with
  | leaf entry =>
    have hstar : entry.path ≠ ['*'] := h.ne_star
    rw [ownColumn?] at hvalue
    rw [columns, if_neg hstar, hvalue]
    rfl
  | nested entry paths =>
    have hstar : entry.path ≠ ['*'] := h.ne_star
    rw [ownColumn?] at hvalue
    rw [columns, if_neg hstar]
    split at hvalue
    · contradiction
    · rename_i hobject
      obtain ⟨found, hfound, rfl⟩ := Option.map_eq_some_iff.1 hvalue
      rw [hfound]
      cases found with
      | obj related => exact absurd hfound (hobject related)
      | _ => rfl

/-- The names of an entry that writes nothing under its segment begin with
the segment and a dot. -/
theorem exists_below_of_mem_columns (h : grouped.IsExplicit)
    (hnone : grouped.ownColumn? row = none) {column : Text × Json}
    (hmem : column ∈ columns claimed row grouped) :
    ∃ rest, column.1 = grouped.entry.path ++ '.' :: rest := by
  cases grouped with
  | leaf entry =>
    have hstar : entry.path ≠ ['*'] := h.ne_star
    rw [ownColumn?] at hnone
    rw [columns, if_neg hstar, hnone] at hmem
    simp at hmem
  | nested entry paths =>
    have hstar : entry.path ≠ ['*'] := h.ne_star
    rw [ownColumn?] at hnone
    rw [columns, if_neg hstar] at hmem
    split at hnone
    · rename_i related hrow
      rw [hrow] at hmem
      obtain ⟨below, -, rfl⟩ := List.mem_map.1 hmem
      exact ⟨below.1, rfl⟩
    · rw [Option.map_eq_none_iff.1 hnone] at hmem
      simp at hmem

/-- Every name of an entry begins with its segment. -/
theorem upTo_of_mem_columns (h : grouped.IsExplicit) {column : Text × Json}
    (hmem : column ∈ columns claimed row grouped) :
    Text.upTo '.' column.1 = grouped.entry.path := by
  rcases hown : grouped.ownColumn? row with _ | value
  · obtain ⟨rest, hname⟩ := exists_below_of_mem_columns h hown hmem
    rw [hname, Text.upTo_append h.dotless]
  · rw [columns_of_ownColumn? h hown, List.mem_singleton] at hmem
    rw [hmem, Text.upTo_of_not_mem h.dotless]

theorem get?_columns_eq_none (h : grouped.IsExplicit) {name : Text}
    (hname : Text.upTo '.' name ≠ grouped.entry.path) :
    Fields.get? name (Fields.ofList (columns claimed row grouped)) = none :=
  Fields.get?_ofList_eq_none fun _ hmem heq => hname (heq ▸ upTo_of_mem_columns h hmem)

/-- Under a segment stands what the entry of that segment writes there. -/
theorem get?_columns_segment (h : grouped.IsExplicit) {segment : Text} (hdot : '.' ∉ segment) :
    Fields.get? segment (Fields.ofList (columns claimed row grouped)) =
      if grouped.entry.path = segment then grouped.ownColumn? row else none := by
  split
  · rename_i hsegment
    rcases hown : grouped.ownColumn? row with _ | value
    · refine Fields.get?_ofList_eq_none fun column hmem heq => hdot ?_
      obtain ⟨rest, hname⟩ := exists_below_of_mem_columns h hown hmem
      rw [← heq, hname]
      exact List.mem_append_right _ List.mem_cons_self
    · rw [columns_of_ownColumn? h hown, hsegment]
      exact Fields.get?_insert_self segment value []
  · rename_i hne
    refine get?_columns_eq_none h fun heq => hne ?_
    rw [← heq, Text.upTo_of_not_mem hdot]

/-- Only a relation writes below its segment. -/
theorem get?_columns_below_eq_none (h : grouped.IsExplicit) {segment : Text}
    (hdot : '.' ∉ segment) (hheading : grouped.heading ≠ (true, segment)) (rest : Text) :
    Fields.get? (segment ++ '.' :: rest) (Fields.ofList (columns claimed row grouped)) = none := by
  cases grouped with
  | leaf entry =>
    have hstar : entry.path ≠ ['*'] := h.ne_star
    rw [columns, if_neg hstar]
    refine Fields.get?_ofList_eq_none fun column hmem heq => h.dotless ?_
    obtain ⟨value, -, rfl⟩ := List.mem_map.1 hmem
    have hname : entry.path = segment ++ '.' :: rest := heq
    rw [GroupedPath.entry, hname]
    exact List.mem_append_right _ List.mem_cons_self
  | nested entry inner =>
    refine get?_columns_eq_none h ?_
    rw [Text.upTo_append hdot]
    exact fun heq => hheading (congrArg (Prod.mk true) heq.symm)

end

/-- Below the segment of a relation to one row stand the columns of that
row. -/
theorem get?_columns_below {claimed : List Text} {row related : Fields Json} {entry : Entry}
    {inner : List GroupedPath} (h : (nested entry inner).IsExplicit)
    (hrow : Fields.get? (nested entry inner).responseKey row = some (.obj related))
    (rest : Text) :
    Fields.get? (entry.path ++ '.' :: rest)
        (Fields.ofList (columns claimed row (nested entry inner))) =
      Fields.get? rest (flattenRow inner related) := by
  have hstar : entry.path ≠ ['*'] := h.ne_star
  have hname : ∀ name : Text, entry.path ++ '.' :: name = entry.path ++ ['.'] ++ name := by simp
  have hcolumns : columns claimed row (nested entry inner) =
      (columnsOf (claimedKeys inner) related inner).map fun column =>
        (entry.path ++ ['.'] ++ column.1, column.2) := by
    rw [columns, if_neg hstar, hrow]
    exact List.map_congr_left fun column _ => congrArg (·, column.2) (hname column.1)
  rw [hcolumns, hname, flattenRow_eq_columns]
  exact Fields.get?_ofList_map_append _ _ _

/-! ## 4. What the entries of a level write -/

/-- What stands under a segment when the entries are written one after the
other. -/
def lastColumn? (row : Fields Json) (segment : Text) : List GroupedPath → Option Json
  | [] => none
  | grouped :: rest =>
    (lastColumn? row segment rest).or
      (if grouped.entry.path = segment then grouped.ownColumn? row else none)

theorem get?_columnsOf_segment {claimed : List Text} {row : Fields Json} {paths : List GroupedPath}
    (h : ∀ grouped ∈ paths, grouped.IsExplicit) {segment : Text} (hdot : '.' ∉ segment) :
    Fields.get? segment (Fields.ofList (columnsOf claimed row paths)) =
      lastColumn? row segment paths := by
  induction paths with
  | nil => rfl
  | cons grouped rest ih =>
    rw [columnsOf, Fields.get?_ofList_append,
      get?_columns_segment (h grouped List.mem_cons_self) hdot,
      ih fun other hmem => h other (List.mem_cons_of_mem _ hmem), lastColumn?]

theorem get?_flattenRow_segment {row : Fields Json} {paths : List GroupedPath}
    (h : ∀ grouped ∈ paths, grouped.IsExplicit) {segment : Text} (hdot : '.' ∉ segment) :
    Fields.get? segment (flattenRow paths row) = lastColumn? row segment paths := by
  rw [flattenRow_eq_columns, get?_columnsOf_segment h hdot]

/-- No other entry writes below the segment of a relation. -/
theorem get?_columnsOf_below_eq_none {claimed : List Text} {row : Fields Json}
    {paths : List GroupedPath} (h : ∀ grouped ∈ paths, grouped.IsExplicit) {segment : Text}
    (hdot : '.' ∉ segment) (hheading : ∀ grouped ∈ paths, grouped.heading ≠ (true, segment))
    (rest : Text) :
    Fields.get? (segment ++ '.' :: rest) (Fields.ofList (columnsOf claimed row paths)) = none := by
  induction paths with
  | nil => rfl
  | cons grouped others ih =>
    rw [columnsOf, Fields.get?_ofList_append,
      get?_columns_below_eq_none (h grouped List.mem_cons_self) hdot
        (hheading grouped List.mem_cons_self),
      ih (fun other hmem => h other (List.mem_cons_of_mem _ hmem))
        fun other hmem => hheading other (List.mem_cons_of_mem _ hmem)]
    rfl

theorem lastColumn?_append (row : Fields Json) (segment : Text) (front back : List GroupedPath) :
    lastColumn? row segment (front ++ back) =
      (lastColumn? row segment back).or (lastColumn? row segment front) := by
  induction front with
  | nil => rw [List.nil_append, lastColumn?, Option.or_none]
  | cons grouped rest ih => rw [List.cons_append, lastColumn?, ih, lastColumn?, Option.or_assoc]

/-- Nothing stands under a segment when no entry of that segment writes
there. -/
theorem lastColumn?_eq_none {row : Fields Json} {segment : Text} {paths : List GroupedPath}
    (h : ∀ grouped ∈ paths, grouped.entry.path = segment → grouped.ownColumn? row = none) :
    lastColumn? row segment paths = none := by
  induction paths with
  | nil => rfl
  | cons grouped rest ih =>
    rw [lastColumn?, ih fun other hmem => h other (List.mem_cons_of_mem _ hmem), Option.none_or]
    split
    · rename_i hsegment
      exact h grouped List.mem_cons_self hsegment
    · rfl

/-- Something stands there when an entry of the segment writes there. -/
theorem isSome_lastColumn? {row : Fields Json} {grouped : GroupedPath} {value : Json}
    {paths : List GroupedPath} (hmem : grouped ∈ paths)
    (hvalue : grouped.ownColumn? row = some value) :
    (lastColumn? row grouped.entry.path paths).isSome = true := by
  induction paths with
  | nil => contradiction
  | cons other rest ih =>
    rw [lastColumn?, Option.isSome_or, Bool.or_eq_true]
    rcases List.mem_cons.1 hmem with rfl | hmem
    · rw [if_pos rfl, hvalue]
      exact Or.inr rfl
    · exact Or.inl (ih hmem)

/-- The value that an entry writes stands there when none of the later
entries of its segment writes one. -/
theorem lastColumn?_eq {row : Fields Json} {grouped : GroupedPath} {value : Json}
    (hvalue : grouped.ownColumn? row = some value) {front back : List GroupedPath}
    (hback : ∀ other ∈ back, other.entry.path = grouped.entry.path →
      other.ownColumn? row = none) :
    lastColumn? row grouped.entry.path (front ++ grouped :: back) = some value := by
  rw [lastColumn?_append, lastColumn?, lastColumn?_eq_none hback, if_pos rfl, hvalue]
  rfl

/-! ## 5. Levels -/

/-- Entries with explicit segments, no two of one kind with one segment. -/
structure AreSiblings (level : List GroupedPath) : Prop where
  explicit : ∀ grouped ∈ level, grouped.IsExplicit
  distinct : (level.map heading).Nodup

/-- No sibling is of the kind and the segment of an entry. -/
theorem AreSiblings.heading_ne {front back : List GroupedPath} {grouped : GroupedPath}
    (h : AreSiblings (front ++ grouped :: back)) :
    ∀ other ∈ front ++ back, other.heading ≠ grouped.heading := by
  have hdistinct := h.distinct
  rw [List.map_append, List.map_cons, List.nodup_middle, List.nodup_cons, ← List.map_append]
    at hdistinct
  exact fun other hmem heq => hdistinct.1 (List.mem_map.2 ⟨other, hmem, heq⟩)

/-- Below the segment of a relation to one row stand the columns of that row,
and nothing else, when no other relation has the segment. -/
theorem get?_flattenRow_middle {front back inner : List GroupedPath} {entry : Entry}
    (h : ∀ grouped ∈ front ++ nested entry inner :: back, grouped.IsExplicit)
    (hothers : ∀ other ∈ front ++ back, other.heading ≠ (true, entry.path))
    {row related : Fields Json}
    (hrow : Fields.get? (nested entry inner).responseKey row = some (.obj related))
    (rest : Text) :
    Fields.get? (entry.path ++ '.' :: rest)
        (flattenRow (front ++ nested entry inner :: back) row) =
      Fields.get? rest (flattenRow inner related) := by
  have hrelation := h (nested entry inner) (by simp)
  have hnone : ∀ paths : List GroupedPath, (∀ other ∈ paths, other ∈ front ++ back) →
      Fields.get? (entry.path ++ '.' :: rest) (Fields.ofList (columnsOf
        (claimedKeys (front ++ nested entry inner :: back)) row paths)) = none := by
    intro paths hpaths
    refine get?_columnsOf_below_eq_none (fun other hmem => h other ?_)
      hrelation.dotless (fun other hmem => hothers other (hpaths other hmem)) rest
    have hother := hpaths other hmem
    simp only [List.mem_append, List.mem_cons] at hother ⊢
    exact hother.imp_right Or.inr
  rw [flattenRow_eq_columns, columnsOf_append, columnsOf, Fields.get?_ofList_append,
    Fields.get?_ofList_append, get?_columns_below hrelation hrow,
    hnone back fun other hmem => List.mem_append_right _ hmem,
    hnone front fun other hmem => List.mem_append_left _ hmem, Option.none_or, Option.or_none]

/-- So it is among siblings. -/
theorem get?_flattenRow_below {level inner : List GroupedPath} (h : AreSiblings level)
    {row related : Fields Json} {entry : Entry} (hmem : nested entry inner ∈ level)
    (hrow : Fields.get? (nested entry inner).responseKey row = some (.obj related))
    (rest : Text) :
    Fields.get? (entry.path ++ '.' :: rest) (flattenRow level row) =
      Fields.get? rest (flattenRow inner related) := by
  obtain ⟨front, back, rfl⟩ := List.append_of_mem hmem
  exact get?_flattenRow_middle h.explicit h.heading_ne hrow rest

/-- Keys lead through related rows to a row of an inner level. -/
inductive Reaches : List GroupedPath → Fields Json → List Text → List GroupedPath →
    Fields Json → Prop where
  | here (paths : List GroupedPath) (row : Fields Json) : Reaches paths row [] paths row
  | through {paths inner level : List GroupedPath} {row related levelRow : Fields Json}
    {entry : Entry} {chain : List Text} (hmem : nested entry inner ∈ paths)
    (hrow : Fields.get? (nested entry inner).responseKey row = some (.obj related))
    (hbelow : Reaches inner related chain level levelRow) :
    Reaches paths row (entry.path :: chain) level levelRow

theorem IsLevelOf.trans {top inner level : List GroupedPath} (hinner : IsLevelOf top inner)
    (h : IsLevelOf inner level) : IsLevelOf top level := by
  induction h with
  | top => exact hinner
  | inside _ hmem ih => exact .inside ih hmem

theorem Reaches.isLevelOf {paths level : List GroupedPath} {row levelRow : Fields Json}
    {chain : List Text} (h : Reaches paths row chain level levelRow) : IsLevelOf paths level := by
  induction h with
  | here => exact .top
  | through hmem _ _ ih => exact (IsLevelOf.inside .top hmem).trans ih

/-- What the flat row of an inner level holds, the whole flat row holds under
the chain that leads there. -/
theorem get?_flattenRow_of_reaches {paths level : List GroupedPath} {row levelRow : Fields Json}
    {chain : List Text} (h : Reaches paths row chain level levelRow)
    (hsiblings : ∀ level, IsLevelOf paths level → AreSiblings level) (segment : Text) :
    Fields.get? (Text.join '.' (chain ++ [segment])) (flattenRow paths row) =
      Fields.get? segment (flattenRow level levelRow) := by
  induction h with
  | here => rfl
  | through hmem hrow hbelow ih =>
    rw [List.cons_append, Text.join_cons (by simp),
      get?_flattenRow_below (hsiblings _ .top) hmem hrow]
    exact ih fun level hlevel => hsiblings level ((IsLevelOf.inside .top hmem).trans hlevel)

end GroupedPath

/-! ## 6. Statements -/

namespace SelectNode

/-- The property of segments without an alias that hold no dot and are no
wildcard. -/
def IsExplicitSegment (_isRelation : Bool) (segment : Text) : Prop :=
  (Segment.splitAlias segment).1 = none ∧ '.' ∉ segment ∧ segment ≠ ['*']

theorem IsLevel.areSiblings {size : Nat} {nodes : List SelectNode}
    (h : IsLevel IsExplicitSegment size nodes) (policy : DedupePolicy) (chain : EmitChain)
    (collides : SelectNode → Bool) (counter : Nat) :
    GroupedPath.AreSiblings (emitList policy chain collides counter nodes).grouped where
  explicit grouped hmem := by
    obtain ⟨node, hnode, -, number, -, hgrouped⟩ := exists_node_of_mem hmem
    obtain ⟨hnone, hdot, hstar⟩ := h.declared node hnode
    have hpath : grouped.entry.path = node.declaration :=
      grouped.snd_heading.symm.trans (congrArg Prod.snd (heading_of_emit hnone hgrouped))
    exact ⟨hpath ▸ hstar, hpath ▸ hdot⟩
  distinct := by
    rw [map_heading_emitList fun node hmem => (h.declared node hmem).1]
    exact h.distinct.sublist (List.filter_sublist.map heading)

end SelectNode

/-- The levels of a statement without aliases and wildcards are made of
siblings. -/
theorem areSiblings_buildStatement (policy : DedupePolicy) {paths : List Path}
    (hpaths : ∀ path ∈ paths, path.declaration.IsCanonicalPath)
    (hexplicit : ∀ path ∈ paths, ['*'] ∉ Text.splitOn '.' path.declaration)
    {level : List GroupedPath}
    (h : GroupedPath.IsLevelOf (buildStatement paths policy).grouped level) :
    GroupedPath.AreSiblings level := by
  obtain ⟨hlevel, horderly⟩ := SelectTree.ofPaths_declared fun path hmem =>
    SelectNode.isDeclaredChain_of_forall (p := SelectNode.IsExplicitSegment)
      (Text.splitOn_ne_nil _ _) fun segment hsegment _ =>
        ⟨(hpaths path hmem segment hsegment).2, Text.not_mem_of_mem_splitOn hsegment,
          fun heq => hexplicit path hmem (heq ▸ hsegment)⟩
  obtain ⟨nodes, chain, counter, hnodes, -, rfl⟩ :=
    SelectNode.exists_nodes_of_isLevelOf hlevel horderly h
  exact hnodes.areSiblings policy chain _ counter

/-! ## 7. Columns are kept -/

/-- A relation of the segment answers null, rows or another value that is no
object, which the flat row holds as `value`. -/
def GroupedPath.IsCovered (row : Fields Json) (segment : Text) (paths : List GroupedPath)
    (value : Json) : Prop :=
  ∃ entry inner found, nested entry inner ∈ paths ∧ entry.path = segment ∧
    Fields.get? (nested entry inner).responseKey row = some found ∧ found.isObject = false ∧
    normalizeResponse inner found = value

theorem GroupedPath.ownColumn?_nested {row : Fields Json} {entry : Entry}
    {inner : List GroupedPath} {value : Json} :
    (nested entry inner).ownColumn? row = some value ↔
      ∃ found, Fields.get? (nested entry inner).responseKey row = some found ∧
        found.isObject = false ∧ normalizeResponse inner found = value := by
  rw [ownColumn?]
  rcases hfound : Fields.get? (nested entry inner).responseKey row with _ | found
  · simp
  · cases found <;> simp [Json.isObject]

namespace GroupedPath

variable {row : Fields Json} {front back : List GroupedPath} {entry : Entry}

/-- A column that no later relation of its segment covers stands under the
segment. -/
theorem lastColumn?_leaf (h : AreSiblings (front ++ leaf entry :: back)) {value : Json}
    (hvalue : Fields.get? (leaf entry).responseKey row = some value)
    (hcovered : ∀ covering, ¬ IsCovered row entry.path back covering) :
    lastColumn? row entry.path (front ++ leaf entry :: back) = some value := by
  have hcolumn : (leaf entry).ownColumn? row = some value := hvalue
  refine lastColumn?_eq hcolumn fun other hmem hpath => ?_
  cases other with
  | leaf other =>
    exact absurd (congrArg (Prod.mk false) hpath)
      (h.heading_ne _ (List.mem_append_right _ hmem))
  | nested other inner =>
    rcases hown : (nested other inner).ownColumn? row with _ | covering
    · rfl
    · obtain ⟨found, hfound, hobject, hvalue⟩ := ownColumn?_nested.1 hown
      exact absurd ⟨other, inner, found, hmem, hpath, hfound, hobject, hvalue⟩ (hcovered covering)

/-- Under the segment of a column that a later relation covers stands what the
relation answers. -/
theorem lastColumn?_covered (h : AreSiblings (front ++ leaf entry :: back)) {covering : Json}
    (hcovered : IsCovered row entry.path back covering) :
    lastColumn? row entry.path (front ++ leaf entry :: back) = some covering := by
  obtain ⟨relation, inner, found, hmem, hpath, hfound, hobject, hvalue⟩ := hcovered
  obtain ⟨middle, last, rfl⟩ := List.append_of_mem hmem
  have hcolumn := h.heading_ne
  have hlevel : front ++ leaf entry :: (middle ++ nested relation inner :: last) =
      (front ++ leaf entry :: middle) ++ nested relation inner :: last := by simp
  rw [hlevel] at h ⊢
  rw [← hpath]
  have hown : (nested relation inner).ownColumn? row = some covering :=
    ownColumn?_nested.2 ⟨found, hfound, hobject, hvalue⟩
  refine lastColumn?_eq hown fun other hother hsame => ?_
  -- Neither another column nor another relation has the segment.
  cases other with
  | leaf other =>
    exact absurd (congrArg (Prod.mk false) (hsame.trans hpath))
      (hcolumn (.leaf other) (by simp [hother]))
  | nested other below =>
    exact absurd (congrArg (Prod.mk true) hsame)
      (h.heading_ne _ (List.mem_append_right _ hother))

end GroupedPath

/-- Keys lead through related rows to the value of a column.  Under the
canonical path of the column the flat row holds this value, unless a later
relation of the same segment covers it. -/
theorem normalizeResponse_column (policy : DedupePolicy) {paths : List Path}
    (hpaths : ∀ path ∈ paths, path.declaration.IsCanonicalPath)
    (hexplicit : ∀ path ∈ paths, ['*'] ∉ Text.splitOn '.' path.declaration)
    {row levelRow : Fields Json} {chain : List Text} {front back : List GroupedPath}
    {entry : Entry} {value : Json}
    (hreach : GroupedPath.Reaches (buildStatement paths policy).grouped row chain
      (front ++ .leaf entry :: back) levelRow)
    (hvalue : Fields.get? (GroupedPath.leaf entry).responseKey levelRow = some value) :
    ∃ flat, normalizeResponse (buildStatement paths policy).grouped (.obj row) = .obj flat ∧
      ((∀ covering, ¬ GroupedPath.IsCovered levelRow entry.path back covering) →
        Fields.get? (Text.join '.' (chain ++ [entry.path])) flat = some value) ∧
      ∀ covering, GroupedPath.IsCovered levelRow entry.path back covering →
        Fields.get? (Text.join '.' (chain ++ [entry.path])) flat = some covering := by
  have hsiblings : ∀ level, GroupedPath.IsLevelOf (buildStatement paths policy).grouped level →
      GroupedPath.AreSiblings level := fun _ hlevel =>
    areSiblings_buildStatement policy hpaths hexplicit hlevel
  have hlevel := hsiblings _ hreach.isLevelOf
  have hflat : Fields.get? (Text.join '.' (chain ++ [entry.path]))
      (GroupedPath.flattenRow (buildStatement paths policy).grouped row) =
        GroupedPath.lastColumn? levelRow entry.path (front ++ .leaf entry :: back) := by
    rw [GroupedPath.get?_flattenRow_of_reaches hreach hsiblings,
      GroupedPath.flattenRow_eq_columns]
    exact GroupedPath.get?_columnsOf_segment hlevel.explicit
      (hlevel.explicit (.leaf entry) (by simp)).dotless
  refine ⟨_, by rw [normalizeResponse, Json.mapRows], ?_, ?_⟩
  · intro hcovered
    rw [hflat, GroupedPath.lastColumn?_leaf hlevel hvalue hcovered]
  · intro covering hcovered
    rw [hflat, GroupedPath.lastColumn?_covered hlevel hcovered]

/-- The number of a note, and the test of the note that it refers to. -/
def testPaths : List Path :=
  ["note_id", "note_id.test"].map fun name : String => .ofText name.toList

/-- The column that answers under a made up alias. -/
def noteNumber : Entry :=
  ⟨"d_0_note_id:note_id".toList, "note_id".toList, some "d_0_note_id".toList⟩

/-- The relation that answers under the name of both. -/
def testedNote : GroupedPath :=
  .nested (.bare "note_id".toList) [.leaf (.bare "test".toList)]

theorem grouped_testPaths :
    (buildStatement testPaths).grouped = [.leaf noteNumber, testedNote] := by
  have htree : (SelectTree.ofPaths testPaths).children =
      [.leaf 1 "note_id".toList, .relation 2 "note_id".toList [.leaf 3 "test".toList]] := rfl
  rw [buildStatement, SelectTree.toStatement, htree]
  rfl

/-- A row with a number and what stands for the note itself. -/
def noteRow (note : Json) : Fields Json :=
  [("d_0_note_id".toList, .ofNat 5), ("note_id".toList, note)]

/-- Beside a note that is there its number is kept. -/
theorem normalizeResponse_column_note :
    (∀ path ∈ testPaths, path.declaration.IsCanonicalPath) ∧
      (∀ path ∈ testPaths, ['*'] ∉ Text.splitOn '.' path.declaration) ∧
      ∃ flat, normalizeResponse (buildStatement testPaths).grouped
          (.obj (noteRow (.obj [("test".toList, .bool true)]))) = .obj flat ∧
        Fields.get? "note_id".toList flat = some (.ofNat 5) := by
  have hpaths : ∀ path ∈ testPaths, path.declaration.IsCanonicalPath := by
    unfold Text.IsCanonicalPath Segment.IsCanonical
    decide
  have hexplicit : ∀ path ∈ testPaths, ['*'] ∉ Text.splitOn '.' path.declaration := by decide
  have hreach : GroupedPath.Reaches (buildStatement testPaths).grouped
      (noteRow (.obj [("test".toList, .bool true)])) [] ([] ++ .leaf noteNumber :: [testedNote])
      (noteRow (.obj [("test".toList, .bool true)])) := by
    rw [grouped_testPaths]
    exact .here _ _
  refine ⟨hpaths, hexplicit, ?_⟩
  obtain ⟨flat, hflat, hkept, -⟩ := @normalizeResponse_column preferUnhintedRelation testPaths
    hpaths hexplicit _ _ [] [] [testedNote] noteNumber (.ofNat 5) hreach rfl
  refine ⟨flat, hflat, hkept ?_⟩
  rintro covering ⟨entry, inner, found, hmem, -, hfound, hobject, -⟩
  rw [List.mem_singleton.1 hmem] at hfound
  obtain rfl := Option.some.inj hfound
  exact absurd hobject (by decide)

/-- A missing note covers its number. -/
theorem noteNumber_covered :
    (buildStatement testPaths).grouped = [.leaf noteNumber, testedNote] ∧
      Fields.get? (GroupedPath.leaf noteNumber).responseKey (noteRow .null) = some (.ofNat 5) ∧
      Fields.get? testedNote.responseKey (noteRow .null) = some .null ∧
      normalizeResponse (buildStatement testPaths).grouped (.obj (noteRow .null)) =
        .obj [("note_id".toList, .null)] := by
  refine ⟨grouped_testPaths, rfl, rfl, ?_⟩
  rw [grouped_testPaths]
  rfl

end QueryCache
