/-
QueryCache.Proofs.SelectedColumns — which columns of a row a query keeps.

A selection keeps a column that one of its paths names, under the key of
that path, if nothing else answers under the key (`QueryFilter.Selects`);
and its wildcard keeps every column that nothing else of the selection is
about (`QueryFilter.TakesOver`).  Relations, aliases and further columns
may stand beside them.  Such a column is in the row in the shape of the
query (`get?_denormalize_of_keeps`); where a relation is expanded, a row
of the table alone has null there or nothing
(`get?_reshapeFields_of_relation`).
-/
import QueryCache.Filter.QueryFilter
import QueryCache.Proofs.Reshape.Columns
import QueryCache.Proofs.Select.Chains

namespace QueryCache

/-! ## 1. First segments and first keys -/

namespace Path

variable {path : Path} (h : path.IsAligned)
include h

/-- A route begins with the first segment and the first key. -/
theorem eq_upTo_of_route {segment key : Text} {rest : List (Text × Text)}
    (hroute : Slot.route path = (segment, key) :: rest) :
    segment = Text.upTo '.' path.path ∧ key = Text.upTo '.' path.outputPath := by
  obtain ⟨below, hsegments⟩ := Text.splitOn_eq_cons '.' path.path
  obtain ⟨keys, hkeys⟩ := Text.splitOn_eq_cons '.' path.outputPath
  rw [route_of_isAligned h, segments, hsegments, hkeys, List.zip_cons_cons] at hroute
  obtain ⟨hfirst, -⟩ := List.cons.inj hroute
  exact ⟨(Prod.mk.inj hfirst).1.symm, (Prod.mk.inj hfirst).2.symm⟩

/-- A path of one segment has one key. -/
theorem route_of_not_mem (hdot : '.' ∉ path.path) :
    Slot.route path = [(path.path, path.outputPath)] := by
  have hsegments : path.segments = [path.path] := Text.splitOn_of_not_mem hdot
  have hlength := h
  rw [IsAligned, hsegments] at hlength
  obtain ⟨key, hkeys⟩ := List.length_eq_one_iff.1 hlength
  have hkey := Text.join_splitOn '.' path.outputPath
  rw [hkeys, Text.join] at hkey
  rw [route_of_isAligned h, hsegments, hkeys, hkey]
  rfl

/-- A route of one step is that of a path of one segment. -/
theorem path_eq_of_route {segment key : Text} (hroute : Slot.route path = [(segment, key)]) :
    path.path = segment := by
  have hlength := congrArg List.length hroute
  rw [route_of_isAligned h, List.length_zip, h, Nat.min_self] at hlength
  obtain ⟨only, honly⟩ := List.length_eq_one_iff.1 hlength
  have hpath := Text.join_splitOn '.' path.path
  rw [segments] at honly
  rw [honly, Text.join] at hpath
  rw [route_of_isAligned h, segments, honly] at hroute
  obtain ⟨keys, hkeys⟩ := Text.splitOn_eq_cons '.' path.outputPath
  rw [hkeys, List.zip_cons_cons] at hroute
  rw [← hpath]
  exact (Prod.mk.inj (List.cons.inj hroute).1).1

end Path

/-! ## 2. Lists of columns -/

/-- A list of columns is read as their names. -/
theorem parseSelect_columns {names : List Text} (hne : names ≠ [])
    (hnames : ∀ name ∈ names, Head.isIdentifier name = true) :
    parseSelect (Text.join ',' names) = .ok (names.map Path.ofText) := by
  have hnamed : ∀ name ∈ names, Head.IsNamed ⟨name, none, name, []⟩ := fun name hname =>
    ⟨by simp, Or.inl (.plain (hnames name hname)), by simp⟩
  rw [parseSelect_heads hne fun name hname => Head.readsBack_named (hnamed name hname)]
  refine congrArg Except.ok (List.map_congr_left fun name hname => ?_)
  have hhead : Head.ofWritten name = ⟨name, none, name, []⟩ :=
    Head.ofWritten_named (hnamed name hname)
  rw [hhead]
  rfl

/-! ## 3. Kept columns -/

namespace QueryFilter

/-- The selection answers the column under the key, and nothing else
there. -/
structure Selects (filter : QueryFilter) (column key : Text) : Prop where
  isIdentifier : Head.isIdentifier column = true
  selected : ∃ path ∈ filter.paths, path.path = column ∧ path.outputPath = key
  alone : ∀ path ∈ filter.paths, Text.upTo '.' path.outputPath = key → path.path = column

/-- The wildcard of the selection answers the column: nothing else selects
from it, and nothing else answers under its name. -/
structure TakesOver (filter : QueryFilter) (column : Text) : Prop where
  isIdentifier : Head.isIdentifier column = true
  wildcard : ∃ path ∈ filter.paths, path.path = ['*'] ∧ path.outputPath = ['*']
  alone : ∀ path ∈ filter.paths, path.path ≠ ['*'] →
    Text.upTo '.' path.outputPath ≠ column ∧ Text.upTo '.' path.outputPath ≠ ['*'] ∧
      Segment.bareName (Text.upTo '.' path.path) ≠ column

/-- The row in the shape of the query has the column under its own name. -/
def Keeps (filter : QueryFilter) (column : Text) : Prop :=
  filter.Selects column column ∨ filter.TakesOver column

/-- A selection of columns without aliases selects them all. -/
theorem selects_of_columns {filter : QueryFilter} (names : List Text)
    (hpaths : filter.paths = names.map Path.ofText)
    (hnames : ∀ name ∈ names, Head.isIdentifier name = true) {name : Text} (hmem : name ∈ names) :
    filter.Selects name name := by
  have houtput : ∀ other ∈ names, (Path.ofText other).outputPath = other := by
    intro other hother
    have hmark : ∀ c ∈ marks, c ∉ other := fun c =>
      Head.not_mem_of_isIdentifier (hnames other hother)
    rw [Path.outputPath, Path.ofText, Option.getD_none, Segment.stripPathHints,
      Segment.mapSegments, Text.splitOn_of_not_mem (hmark '.' (by decide))]
    exact Text.upTo_of_not_mem (hmark '!' (by decide))
  refine ⟨hnames name hmem, ⟨.ofText name, ?_, rfl, houtput name hmem⟩, ?_⟩
  · rw [hpaths]
    exact List.mem_map_of_mem hmem
  · intro path hpath hkey
    rw [hpaths] at hpath
    obtain ⟨other, hother, rfl⟩ := List.mem_map.1 hpath
    rw [houtput other hother, Text.upTo_of_not_mem
      (Head.not_mem_of_isIdentifier (hnames other hother) (by decide))] at hkey
    exact hkey

theorem denormalize_obj (filter : QueryFilter) (source : Fields Json) :
    filter.denormalize (.obj source) =
      .obj (Slot.reshapeFields (Slot.ofPaths filter.paths) source) :=
  Slot.reshape_obj _ source

theorem isAligned_of_ofQueryKey {text : Text} {filter : QueryFilter}
    (h : QueryFilter.ofQueryKey text = .ok filter) : ∀ path ∈ filter.paths, path.IsAligned := by
  rcases hquery : parseQueryKey text with error | query
  · rw [ofQueryKey, hquery] at h
    contradiction
  · rw [ofQueryKey, hquery] at h
    rw [← Except.ok.inj h]
    exact isAligned_of_parseSelect (paths_of_parseQueryKey hquery)

section

variable {filter : QueryFilter} (haligned : ∀ path ∈ filter.paths, path.IsAligned)
include haligned

/-- What is known of the paths behind a slot of the selection. -/
theorem exists_path_of_slot {slot : Slot} (hslot : slot ∈ Slot.ofPaths filter.paths) :
    (∃ path ∈ filter.paths, Text.upTo '.' path.path = slot.segment ∧
        Text.upTo '.' path.outputPath = slot.key) ∧
      (slot.isLeaf = true → ∃ path ∈ filter.paths, path.path = slot.segment ∧
        Text.upTo '.' path.outputPath = slot.key) ∧
      (slot.inner ≠ [] → ∃ path ∈ filter.paths, '.' ∈ path.path ∧
        Text.upTo '.' path.path = slot.segment ∧ Text.upTo '.' path.outputPath = slot.key) := by
  obtain ⟨⟨rest, hbegins⟩, hends, hgoesOn⟩ := Slot.comesFrom_ofPaths slot hslot
  refine ⟨?_, fun hleaf => ?_, fun hinner => ?_⟩
  · obtain ⟨path, hmem, hroute⟩ := List.mem_map.1 hbegins
    obtain ⟨hsegment, hkey⟩ := Path.eq_upTo_of_route (haligned path hmem) hroute
    exact ⟨path, hmem, hsegment.symm, hkey.symm⟩
  · obtain ⟨path, hmem, hroute⟩ := List.mem_map.1 (hends hleaf)
    obtain ⟨-, hkey⟩ := Path.eq_upTo_of_route (haligned path hmem) hroute
    exact ⟨path, hmem, Path.path_eq_of_route (haligned path hmem) hroute, hkey.symm⟩
  · obtain ⟨next, rest, hroute⟩ := hgoesOn hinner
    obtain ⟨path, hmem, hroute⟩ := List.mem_map.1 hroute
    obtain ⟨hsegment, hkey⟩ := Path.eq_upTo_of_route (haligned path hmem) hroute
    refine ⟨path, hmem, ?_, hsegment.symm, hkey.symm⟩
    by_contra hdot
    rw [Path.route_of_not_mem (haligned path hmem) hdot] at hroute
    simp at hroute

/-- Without a wildcard among the paths no slot is one. -/
theorem segment_ne_star_of_slot (hwildcard : filter.hasWildcard = false) {slot : Slot}
    (hslot : slot ∈ Slot.ofPaths filter.paths) (hleaf : slot.isLeaf = true) :
    slot.segment ≠ ['*'] := by
  intro hstar
  obtain ⟨path, hmem, hpath, -⟩ := (exists_path_of_slot haligned hslot).2.1 hleaf
  have hnot := List.any_eq_false.1 hwildcard path hmem
  rw [Path.isWildcard, Path.terminal, Path.segments, hpath, hstar] at hnot
  exact hnot (by decide)

/-- A selected column is in the row. -/
theorem get?_reshapeFields_of_selects {column key : Text} (h : filter.Selects column key)
    {source : Fields Json} {value : Json} (hvalue : Fields.get? column source = some value) :
    Fields.get? key (Slot.reshapeFields (Slot.ofPaths filter.paths) source) = some value := by
  have hdot : '.' ∉ column := Head.not_mem_of_isIdentifier h.isIdentifier (by decide)
  have hstar : column ≠ ['*'] := by
    rintro rfl
    exact Head.not_mem_of_isIdentifier h.isIdentifier (by decide) List.mem_cons_self
  obtain ⟨path, hmem, rfl, rfl⟩ := h.selected
  refine Slot.get?_of_leaf hstar
    (Slot.exists_isLeaf_of_route hmem (Path.route_of_not_mem (haligned path hmem) hdot)) ?_ ?_
  · intro slot hslot hkey
    obtain ⟨⟨other, hother, hsegment, hotherKey⟩, -, hgoesOn⟩ := exists_path_of_slot haligned hslot
    have heq := h.alone other hother (hotherKey.trans hkey)
    refine ⟨?_, ?_⟩
    · rw [← hsegment, heq, Text.upTo_of_not_mem hdot]
    · by_contra hinner
      obtain ⟨longer, hlonger, hdots, -, hlongerKey⟩ := hgoesOn hinner
      rw [h.alone longer hlonger (hlongerKey.trans hkey)] at hdots
      exact hdot hdots
  · rw [Slot.lookup?, hvalue]
    rfl

/-- A column that the wildcard answers is in the row. -/
theorem get?_reshapeFields_of_takesOver {column : Text} (h : filter.TakesOver column)
    {source : Fields Json} {value : Json} (hvalue : Fields.get? column source = some value) :
    Fields.get? column (Slot.reshapeFields (Slot.ofPaths filter.paths) source) = some value := by
  have hmark : ∀ c ∈ marks, c ∉ column := fun c =>
    Head.not_mem_of_isIdentifier h.isIdentifier
  have hbare : Segment.bareName (Text.upTo '.' column) = column := by
    rw [Text.upTo_of_not_mem (hmark '.' (by decide)), Segment.bareName, Segment.stripHints,
      Text.upTo_of_not_mem (hmark '!' (by decide)),
      Text.upToCast_of_not_mem (hmark ':' (by decide))]
  obtain ⟨path, hmem, hpath, hkey⟩ := h.wildcard
  have hroute : Slot.route path = [(['*'], ['*'])] := by
    have hroute := Path.route_of_not_mem (haligned path hmem) (by rw [hpath]; decide)
    rwa [hpath, hkey] at hroute
  refine Slot.get?_of_star (Slot.exists_isLeaf_of_route hmem hroute) ?_ ?_ hvalue
  · -- Only the wildcard answers under the column or under its own name.
    intro slot hslot hname
    have hstar : ∀ other ∈ filter.paths, Text.upTo '.' other.outputPath = slot.key →
        other.path = ['*'] := by
      intro other hother hotherKey
      by_contra hne
      obtain ⟨hcolumn, hwild, -⟩ := h.alone other hother hne
      rw [hotherKey] at hcolumn hwild
      rcases hname with hname | hname
      · exact hcolumn hname
      · exact hwild hname
    obtain ⟨⟨other, hother, hsegment, hotherKey⟩, -, hgoesOn⟩ := exists_path_of_slot haligned hslot
    refine ⟨?_, ?_⟩
    · rw [← hsegment, hstar other hother hotherKey]
      rfl
    · by_contra hinner
      obtain ⟨longer, hlonger, hdots, -, hlongerKey⟩ := hgoesOn hinner
      rw [hstar longer hlonger hlongerKey] at hdots
      simp at hdots
  · rw [hbare, Slot.claimed]
    simp only [List.contains_eq_mem, decide_eq_false_iff_not, List.mem_map, not_exists, not_and]
    intro slot hslot hclaims
    obtain ⟨⟨other, hother, hsegment, -⟩, -⟩ := exists_path_of_slot haligned hslot
    rw [← hsegment] at hclaims
    by_cases hstar : other.path = ['*']
    · rw [hstar] at hclaims
      exact hmark '*' (by decide) (hclaims ▸ by decide)
    · exact (h.alone other hother hstar).2.2 hclaims

/-- A row of the table says nothing about relations: in the shape of the
query it has null at most where a relation is expanded. -/
theorem get?_reshapeFields_of_relation (hwildcard : filter.hasWildcard = false)
    {source : Fields Json} (hflat : ∀ field ∈ source, '.' ∉ field.1) {key : Text}
    (hapart : ∀ path ∈ filter.paths, Text.upTo '.' path.outputPath = key → '.' ∈ path.path)
    (habsent : ∀ path ∈ filter.paths, Text.upTo '.' path.outputPath = key →
      ∀ value, Slot.lookup? source (Text.upTo '.' path.path) = some value →
        value.isObject = false ∧ value.isArray = false)
    {value : Json}
    (hvalue : Fields.get? key (Slot.reshapeFields (Slot.ofPaths filter.paths) source) =
      some value) : value = .null := by
  refine Slot.get?_of_relation (fun slot => segment_ne_star_of_slot haligned hwildcard) ?_ hvalue
  intro slot hslot hkey
  obtain ⟨⟨path, hmem, hsegment, hpathKey⟩, hleaf, -⟩ := exists_path_of_slot haligned hslot
  refine ⟨?_, fun below hbelow => Slot.below?_eq_null hflat ?_ hbelow⟩
  · rw [← Bool.not_eq_true]
    intro htrue
    obtain ⟨other, hother, hpath, hotherKey⟩ := hleaf htrue
    have hdot := hapart other hother (hotherKey.trans hkey)
    rw [hpath, ← hsegment] at hdot
    exact Text.not_mem_upTo '.' path.path hdot
  · rw [← hsegment]
    exact habsent path hmem (hpathKey.trans hkey)

theorem get?_denormalize_of_keeps {column : Text} (h : filter.Keeps column) {row value : Json}
    (hvalue : row.get? column = some value) :
    (filter.denormalize row).get? column = some value := by
  cases row with
  | obj source =>
    rw [denormalize_obj]
    rcases h with h | h
    · exact get?_reshapeFields_of_selects haligned h hvalue
    · exact get?_reshapeFields_of_takesOver haligned h hvalue
  | _ => simp [Json.get?] at hvalue

end

end QueryFilter
end QueryCache
