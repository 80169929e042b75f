/-
QueryCache.Proofs.Filter.AliasStarts — columns under the aliases of leaves.

A filter column that names no leaf may start like the alias chains of some
leaves do: `author.id` starts like `author.name`, where `author:author_id(name)`
is selected.  The column then stands for another one, with the segments of the
leaf in place of the names that they share (`Path.standIn`).

The leaves are asked in the order of the selection, and the first one that
renames the column decides (`Condition.resolve_eq`).  It need not be the leaf
with the longest shared start.  So the longest start decides in every order of
the leaves exactly if all leaves that rename the column agree with those that
share most of it (`resolvesByLongest_iff`).
-/
import Mathlib.Data.List.MinMax
import QueryCache.Proofs.ReshapedRows

namespace QueryCache

/-! ## 1. Common starts -/

/-- How many parts two lists share at their start. -/
def commonStart : List Text → List Text → Nat
  | part :: parts, other :: others => if part = other then commonStart parts others + 1 else 0
  | _, _ => 0

theorem commonStart_le (parts others : List Text) :
    commonStart parts others ≤ parts.length ∧ commonStart parts others ≤ others.length := by
  induction parts generalizing others with
  | nil => exact ⟨Nat.zero_le _, Nat.zero_le _⟩
  | cons part parts ih =>
    cases others with
    | nil => exact ⟨Nat.zero_le _, Nat.zero_le _⟩
    | cons other others =>
      obtain ⟨hparts, hothers⟩ := ih others
      rw [commonStart]
      split
      · exact ⟨Nat.succ_le_succ hparts, Nat.succ_le_succ hothers⟩
      · exact ⟨Nat.zero_le _, Nat.zero_le _⟩

theorem take_eq_take_iff_le_commonStart {parts others : List Text} {n : Nat}
    (hparts : n ≤ parts.length) (hothers : n ≤ others.length) :
    parts.take n = others.take n ↔ n ≤ commonStart parts others := by
  induction n generalizing parts others with
  | zero => simp
  | succ n ih =>
    obtain _ | ⟨part, parts⟩ := parts
    · contradiction
    obtain _ | ⟨other, others⟩ := others
    · contradiction
    have hrest := ih (Nat.le_of_succ_le_succ hparts) (Nat.le_of_succ_le_succ hothers)
    rw [List.take_succ_cons, List.take_succ_cons, List.cons.injEq, hrest, commonStart]
    split
    · rename_i hsame
      simp [hsame]
    · rename_i hdiffer
      simp [hdiffer]

/-- A search from the longest start down is decided at the longest one that is
shared, if nothing is found below where nothing is found there. -/
theorem findSome?_starts {α : Type} {p : Nat → Prop} [DecidablePred p] {g : Nat → Option α}
    {longest shared : Nat} (hshared : shared ≤ longest)
    (hp : ∀ count ≤ longest, p count ↔ count ≤ shared) (hzero : g 0 = none)
    (hg : g shared = none → ∀ count ≤ shared, g count = none) :
    ((List.range longest).reverse.findSome? fun k => if p (k + 1) then g (k + 1) else none) =
      g shared := by
  induction longest with
  | zero => rw [Nat.le_zero.1 hshared, hzero]; rfl
  | succ longest ih =>
    rw [List.range_succ, List.reverse_append, List.reverse_singleton, List.singleton_append,
      List.findSome?_cons]
    rcases Nat.lt_or_eq_of_le hshared with hlt | rfl
    · rw [if_neg fun hlast => absurd ((hp _ le_rfl).1 hlast) (Nat.not_le_of_lt hlt)]
      exact ih (Nat.le_of_lt_succ hlt) fun count hcount => hp count (Nat.le_succ_of_le hcount)
    · rw [if_pos ((hp _ le_rfl).2 le_rfl)]
      rcases hfound : g (longest + 1) with _ | found
      · refine List.findSome?_eq_none_iff.2 fun k hk => ?_
        rw [List.mem_reverse, List.mem_range] at hk
        rw [hg hfound (k + 1) (by omega), ite_self]
      · rfl

/-! ## 2. The column that a leaf puts in place of another -/

namespace Path

/-- How many names of a leaf's alias chain a column starts with, its last
segment left out. -/
def sharedStart (column : Text) (path : Path) : Nat :=
  match path.aliasChain with
  | some chain => commonStart (Text.splitOn '.' column).dropLast (Text.splitOn '.' chain)
  | none => 0

/-- The column with the first segments of a leaf in place of its own. -/
def swapStart (count : Nat) (column : Text) (path : Path) : Text :=
  Text.join '.' (path.segments.take count ++ (Text.splitOn '.' column).drop count)

/-- The column with the leaf's segments in place of the names that it
shares. -/
def standIn (column : Text) (path : Path) : Text :=
  path.swapStart (path.sharedStart column) column

/-- The leaf puts another column in place of this one. -/
def renames (column : Text) (path : Path) : Bool :=
  path.standIn column != column

section

variable {path : Path} {column : Text}

theorem renames_iff : path.renames column = true ↔ path.standIn column ≠ column :=
  bne_iff_ne

theorem sharedStart_lt : path.sharedStart column < (Text.splitOn '.' column).length := by
  have hpos := List.length_pos_iff.2 (Text.splitOn_ne_nil '.' column)
  rw [sharedStart]
  split
  · rename_i chain _
    have hle := (commonStart_le (Text.splitOn '.' column).dropLast (Text.splitOn '.' chain)).1
    rw [List.length_dropLast] at hle
    omega
  · exact hpos

theorem swapStart_zero : path.swapStart 0 column = column := by
  rw [swapStart, List.take_zero, List.drop_zero, List.nil_append, Text.join_splitOn]

theorem standIn_of_sharedStart_eq_zero (h : path.sharedStart column = 0) :
    path.standIn column = column := by
  rw [standIn, h, swapStart_zero]

/-- The segments of a column with another start. -/
theorem splitOn_swapStart {count : Nat} (hcolumn : count < (Text.splitOn '.' column).length) :
    Text.splitOn '.' (path.swapStart count column) =
      path.segments.take count ++ (Text.splitOn '.' column).drop count := by
  refine Text.splitOn_join ?_ fun part hpart => ?_
  · refine List.append_ne_nil_of_right_ne_nil _ (List.ne_nil_of_length_pos ?_)
    rw [List.length_drop]
    omega
  · rcases List.mem_append.1 hpart with hpart | hpart
    · exact Text.not_mem_of_mem_splitOn (List.mem_of_mem_take hpart)
    · exact Text.not_mem_of_mem_splitOn (List.mem_of_mem_drop hpart)

/-- A swap leaves the column as it is exactly if the segments are its own. -/
theorem swapStart_eq_self_iff {count : Nat} (hcolumn : count < (Text.splitOn '.' column).length)
    (hsegments : count ≤ path.segments.length) :
    path.swapStart count column = column ↔
      path.segments.take count = (Text.splitOn '.' column).take count := by
  constructor
  · intro h
    have hsplit := @splitOn_swapStart path column count hcolumn
    rw [h] at hsplit
    rw [hsplit, List.take_append_of_le_length (by rw [List.length_take]; omega), List.take_take,
      Nat.min_self]
  · intro h
    rw [swapStart, h, List.take_append_drop, Text.join_splitOn]

variable (haligned : path.IsAligned)
include haligned

theorem sharedStart_le_segments : path.sharedStart column ≤ path.segments.length := by
  rw [IsAligned, outputPath] at haligned
  rw [sharedStart]
  split
  · rename_i chain hchain
    rw [hchain, Option.getD_some] at haligned
    rw [← haligned]
    exact (commonStart_le _ _).2
  · exact Nat.zero_le _

/-- Where the longest shared start changes nothing, no shorter one does. -/
theorem swapStart_eq_self_of_standIn {count : Nat} (hcount : count ≤ path.sharedStart column)
    (h : path.standIn column = column) : path.swapStart count column = column := by
  have hsegments : path.sharedStart column ≤ path.segments.length :=
    sharedStart_le_segments haligned
  have hown := (swapStart_eq_self_iff sharedStart_lt hsegments).1 h
  refine (swapStart_eq_self_iff (hcount.trans_lt sharedStart_lt) (hcount.trans hsegments)).2 ?_
  have htaken := congrArg (List.take count) hown
  rwa [List.take_take, List.take_take, Nat.min_eq_left hcount] at htaken

end

end Path

/-! ## 3. The leaf that decides -/

/-- A start that leaves a segment of the column is shared with a leaf up to
`sharedStart`. -/
theorem Path.take_eq_take_chain_iff {path : Path} {chain column : Text}
    (hchain : path.aliasChain = some chain) {count : Nat}
    (hcolumn : count < (Text.splitOn '.' column).length)
    (hcount : count ≤ (Text.splitOn '.' chain).length) :
    (Text.splitOn '.' column).take count = (Text.splitOn '.' chain).take count ↔
      count ≤ path.sharedStart column := by
  have hdrop : (Text.splitOn '.' column).dropLast.take count =
      (Text.splitOn '.' column).take count := by
    rw [List.dropLast_eq_take, List.take_take, Nat.min_eq_left (Nat.le_sub_one_of_lt hcolumn)]
  rw [← hdrop, Path.sharedStart, hchain]
  refine take_eq_take_iff_le_commonStart ?_ hcount
  rw [List.length_dropLast]
  exact Nat.le_sub_one_of_lt hcolumn

/-- A leaf maps a column to its stand-in, unless that is the column itself. -/
theorem mapThrough?_eq {path : Path} (haligned : path.IsAligned) (column : Text) :
    mapThrough? (Text.splitOn '.' column) path =
      if path.standIn column = column then none else some (path.standIn column) := by
  rcases hchain : path.aliasChain with _ | chain
  · have hshared : path.sharedStart column = 0 := by rw [Path.sharedStart, hchain]
    rw [mapThrough?, hchain, if_pos (Path.standIn_of_sharedStart_eq_zero hshared)]
    rfl
  have hnames : (Text.splitOn '.' chain).length = path.segments.length := by
    rw [Path.IsAligned, Path.outputPath, hchain] at haligned
    exact haligned
  have hcolumn : path.sharedStart column < (Text.splitOn '.' column).length := Path.sharedStart_lt
  have hsegments : path.sharedStart column ≤ path.segments.length :=
    Path.sharedStart_le_segments haligned
  rw [mapThrough?, hchain, Option.bind_eq_bind, Option.bind_some, Text.join_splitOn]
  let mapped (count : Nat) : Option Text :=
    if path.swapStart count column = column then none else some (path.swapStart count column)
  have hmapped : mapped (path.sharedStart column) = none →
      ∀ count ≤ path.sharedStart column, mapped count = none := by
    intro hnone count hcount
    have hstay : path.standIn column = column := by
      by_contra hmoved
      rw [show mapped (path.sharedStart column) = some (path.standIn column) from if_neg hmoved]
        at hnone
      contradiction
    exact if_pos (Path.swapStart_eq_self_of_standIn haligned hcount hstay)
  exact findSome?_starts (by omega)
    (fun count hcount => Path.take_eq_take_chain_iff hchain (by omega) (by omega))
    (if_pos Path.swapStart_zero) hmapped

/-- The first leaf that renames a column maps it. -/
theorem mapAliasStart?_eq {paths : List Path} (haligned : ∀ path ∈ paths, path.IsAligned)
    (column : Text) :
    mapAliasStart? paths column = (paths.find? (·.renames column)).map (·.standIn column) := by
  induction paths with
  | nil => rfl
  | cons path rest ih =>
    have hrest : rest.findSome? (mapThrough? (Text.splitOn '.' column)) = _ :=
      ih fun other hmem => haligned other (List.mem_cons_of_mem _ hmem)
    rw [mapAliasStart?, List.findSome?_cons, mapThrough?_eq (haligned path List.mem_cons_self)]
    by_cases hstay : path.standIn column = column
    · rw [if_pos hstay, List.find?_cons_of_neg fun h => Path.renames_iff.1 h hstay]
      exact hrest
    · rw [if_neg hstay, List.find?_cons_of_pos (Path.renames_iff.2 hstay)]
      rfl

/-- A column that names no leaf is named by none. -/
theorem leafNamed?_eq_none {paths : List Path} {column : Text} (h : ¬NamesLeaf paths column) :
    leafNamed? paths column = none := by
  rw [leafNamed?, Option.orElse_eq_or, Option.or_eq_none_iff, List.find?_eq_none,
    List.find?_eq_none]
  refine ⟨fun path hmem hnamed => h ⟨path, hmem, Or.inr ?_⟩,
    fun path hmem hnamed => h ⟨path, hmem, ?_⟩⟩
  · rw [Path.outputPath, eq_of_beq hnamed, Option.getD_some]
  · simpa using hnamed

/-- The condition on the column that a leaf puts in place of its own, which is
kept for reading reshaped rows. -/
def Condition.renamedBy (c : Condition) (path : Path) : Condition :=
  { c with path := path.standIn c.path, aliasChain := some c.path }

/-- The first leaf that renames the column of a condition decides what it
stands for. -/
theorem Condition.resolve_eq {paths : List Path} (haligned : ∀ path ∈ paths, path.IsAligned)
    {c : Condition} (hunnamed : ¬NamesLeaf paths c.path) :
    c.resolve paths = (paths.find? (·.renames c.path)).elim c c.renamedBy := by
  rw [resolve, leafNamed?_eq_none hunnamed, mapAliasStart?_eq haligned]
  cases paths.find? (·.renames c.path) <;> rfl

/-! ## 4. The longest shared start -/

/-- The leaf shares a start with the column, and no leaf shares a longer one. -/
structure SharesLongest (paths : List Path) (column : Text) (path : Path) : Prop where
  mem : path ∈ paths
  shares : 0 < path.sharedStart column
  longest : ∀ other ∈ paths, other.sharedStart column ≤ path.sharedStart column

theorem SharesLongest.of_perm {paths leaves : List Path} (hperm : leaves.Perm paths)
    {column : Text} {path : Path} (h : SharesLongest paths column path) :
    SharesLongest leaves column path :=
  ⟨hperm.mem_iff.2 h.mem, h.shares, fun other hmem => h.longest other (hperm.mem_iff.1 hmem)⟩

/-- Where a leaf renames the column, some leaf shares the longest start. -/
theorem exists_sharesLongest {paths : List Path} {column : Text} {path : Path}
    (hmem : path ∈ paths) (hrenames : path.standIn column ≠ column) :
    ∃ longest, SharesLongest paths column longest := by
  have hshares : 0 < path.sharedStart column :=
    Nat.pos_of_ne_zero fun hzero => hrenames (Path.standIn_of_sharedStart_eq_zero hzero)
  rcases hmax : paths.argmax (·.sharedStart column) with _ | longest
  · rw [List.argmax_eq_none] at hmax
    exact absurd hmem (hmax ▸ List.not_mem_nil)
  · have hlongest : ∀ other ∈ paths, other.sharedStart column ≤ longest.sharedStart column :=
      fun other hother => List.le_of_mem_argmax hother hmax
    exact ⟨longest, List.argmax_mem hmax, hshares.trans_le (hlongest path hmem), hlongest⟩

/-- The column of a condition gives way to the stand-in of the leaves that share
most of it. -/
def Condition.ResolvesByLongest (paths : List Path) (c : Condition) : Prop :=
  ∀ path, SharesLongest paths c.path path → (c.resolve paths).path = path.standIn c.path

/-- Every leaf that renames the column puts the same column in its place as the
leaves that share most of it. -/
def RenameAsLongest (paths : List Path) (column : Text) : Prop :=
  ∀ path ∈ paths, path.standIn column ≠ column →
    ∀ longest, SharesLongest paths column longest → path.standIn column = longest.standIn column

section

variable {paths : List Path} {c : Condition}

theorem Condition.resolve_eq_of_perm (haligned : ∀ path ∈ paths, path.IsAligned)
    (hunnamed : ¬NamesLeaf paths c.path) {leaves : List Path} (hperm : leaves.Perm paths) :
    c.resolve leaves = (leaves.find? (·.renames c.path)).elim c c.renamedBy := by
  refine resolve_eq (fun path hmem => haligned path (hperm.mem_iff.1 hmem)) ?_
  rintro ⟨path, hmem, hnames⟩
  exact hunnamed ⟨path, hperm.mem_iff.1 hmem, hnames⟩

variable (haligned : ∀ path ∈ paths, path.IsAligned) (hunnamed : ¬NamesLeaf paths c.path)
include haligned hunnamed

/-- The first of the leaves that rename the column may be any of them. -/
theorem Condition.renameAsLongest_of_forall_perm
    (h : ∀ leaves : List Path, leaves.Perm paths → c.ResolvesByLongest leaves) :
    RenameAsLongest paths c.path := by
  intro path hmem hrenames longest hlongest
  have hperm : (path :: paths.erase path).Perm paths := (List.perm_cons_erase hmem).symm
  have hresolved := h _ hperm longest (hlongest.of_perm hperm)
  rwa [resolve_eq_of_perm haligned hunnamed hperm,
    List.find?_cons_of_pos (Path.renames_iff.2 hrenames)] at hresolved

variable (h : RenameAsLongest paths c.path) {leaves : List Path} (hperm : leaves.Perm paths)
include h hperm

theorem Condition.resolvesByLongest_of_perm : c.ResolvesByLongest leaves := by
  intro longest hlongest
  rw [resolve_eq_of_perm haligned hunnamed hperm]
  rcases hfirst : leaves.find? (·.renames c.path) with _ | path
  · have hstay := List.find?_eq_none.1 hfirst longest hlongest.mem
    rw [Path.renames_iff, not_not] at hstay
    rw [hfirst, Option.elim_none, hstay]
  · rw [hfirst]
    exact h path (hperm.mem_iff.1 (List.mem_of_find?_eq_some hfirst))
      (Path.renames_iff.1 (List.find?_some hfirst)) longest (hlongest.of_perm hperm.symm)

theorem Condition.resolve_perm : c.resolve leaves = c.resolve paths := by
  have hfirst : ∀ path, leaves.find? (·.renames c.path) = some path →
      ∃ other, paths.find? (·.renames c.path) = some other ∧
        path.standIn c.path = other.standIn c.path := by
    intro path hpath
    have hmem := hperm.mem_iff.1 (List.mem_of_find?_eq_some hpath)
    have hrenames := List.find?_some hpath
    obtain ⟨longest, hlongest⟩ := exists_sharesLongest hmem (Path.renames_iff.1 hrenames)
    obtain ⟨other, hother⟩ :=
      Option.isSome_iff_exists.1 (List.find?_isSome.2 ⟨path, hmem, hrenames⟩)
    refine ⟨other, hother, ?_⟩
    rw [h path hmem (Path.renames_iff.1 hrenames) longest hlongest,
      h other (List.mem_of_find?_eq_some hother) (Path.renames_iff.1 (List.find?_some hother))
        longest hlongest]
  rw [resolve_eq_of_perm haligned hunnamed hperm, resolve_eq haligned hunnamed]
  rcases hleaves : leaves.find? (·.renames c.path) with _ | path
  · have hpaths : paths.find? (·.renames c.path) = none :=
      List.find?_eq_none.2 fun path hmem =>
        List.find?_eq_none.1 hleaves path (hperm.mem_iff.2 hmem)
    rw [hleaves, hpaths]
  · obtain ⟨other, hother, hsame⟩ := hfirst path hleaves
    rw [hleaves, hother, Option.elim_some, Option.elim_some, renamedBy, renamedBy, hsame]

end

/-! ## 5. Conditions of a query string -/

/-- The condition stands, with its column as written, in a filter of the query
string. -/
def Condition.IsSpelledBy (text : Text) (c : Condition) : Prop :=
  ∃ params, QueryParam.ofText text = .ok params ∧ ∃ param ∈ params, param.IsFilter ∧
    ∃ written, ParsedQuery.parseFilter param = .ok written ∧ c ∈ written.conditions

namespace ParsedQuery

/-- The filters that a query has are kept when more parameters are read. -/
theorem filters_subset_of_foldlM {params : List QueryParam} {start query : ParsedQuery}
    (h : params.foldlM addParam start = .ok query) : start.filters ⊆ query.filters := by
  refine foldlM_addParam_induction (P := fun query => start.filters ⊆ query.filters)
    (fun query next param _ hnext hkept => ?_) h (List.Subset.refl _)
  rcases addParam_filters hnext with hsame | ⟨-, written, -, hadded⟩
  · rw [hsame]
    exact hkept
  · rw [hadded]
    exact List.subset_append_of_subset_left _ hkept

/-- What a filter parameter spells is a filter of the query, resolved. -/
theorem mem_filters_of_foldlM {params : List QueryParam} {start query : ParsedQuery}
    (h : params.foldlM addParam start = .ok query) {param : QueryParam} (hparam : param ∈ params)
    (hfilter : param.IsFilter) {written : FilterTree} (hwritten : parseFilter param = .ok written) :
    written.mapConditions (·.resolve start.paths) ∈ query.filters := by
  induction params generalizing start with
  | nil => contradiction
  | cons first rest ih =>
    rw [List.foldlM_cons] at h
    rcases hnext : start.addParam first with error | next
    · rw [hnext] at h
      contradiction
    rw [hnext] at h
    rcases List.mem_cons.1 hparam with rfl | hrest
    · have hadded := addParam_of_isFilter hfilter start
      rw [hwritten, hnext] at hadded
      obtain rfl := Except.ok.inj hadded
      exact filters_subset_of_foldlM h (List.mem_append_right _ List.mem_cons_self)
    · rw [← (addParam_paths hnext).2]
      exact ih h hrest

end ParsedQuery

/-- A column that a query string writes against no leaf is replaced, in the
filter that it is written in, by the stand-in of the first leaf that renames it.
That is the longest shared start in place, whatever the order of the leaves,
exactly if all leaves that rename the column agree with those that share most of
it. -/
theorem parseQueryKey_aliasStart {text : Text} {query : ParsedQuery}
    (h : parseQueryKey text = .ok query) {c : Condition} (hc : c.IsSpelledBy text)
    (hunnamed : ¬NamesLeaf query.paths c.path) :
    (∃ filter ∈ query.filters, c.resolve query.paths ∈ filter.conditions) ∧
      c.resolve query.paths = (query.paths.find? (·.renames c.path)).elim c c.renamedBy ∧
      ((∀ leaves : List Path, leaves.Perm query.paths →
          c.ResolvesByLongest leaves ∧ c.resolve leaves = c.resolve query.paths) ↔
        RenameAsLongest query.paths c.path) := by
  have haligned := isAligned_of_parseSelect (paths_of_parseQueryKey h)
  refine ⟨?_, Condition.resolve_eq haligned hunnamed, ?_, ?_⟩
  · obtain ⟨params, hparams, param, hparam, hfilter, written, hwritten, hmem⟩ := hc
    obtain ⟨others, select, paths, hothers, -, hquery⟩ := parseQueryKey_eq_ok h
    obtain rfl := Except.ok.inj (hparams.symm.trans hothers)
    have hpaths : query.paths = paths :=
      ParsedQuery.foldlM_addParam_induction (P := fun query => query.paths = paths)
        (fun query next param _ hnext hown => (ParsedQuery.addParam_paths hnext).2.trans hown)
        hquery rfl
    refine ⟨_, ParsedQuery.mem_filters_of_foldlM hquery hparam hfilter hwritten, ?_⟩
    rw [FilterTree.conditions_mapConditions, hpaths]
    exact List.mem_map_of_mem hmem
  · intro hall
    exact Condition.renameAsLongest_of_forall_perm haligned hunnamed
      fun leaves hperm => (hall leaves hperm).1
  · intro hagree leaves hperm
    exact ⟨Condition.resolvesByLongest_of_perm haligned hunnamed hagree hperm,
      Condition.resolve_perm haligned hunnamed hagree hperm⟩

/-! ## 6. The teams of authors -/

/-- The entries of a clause with aliases at two depths. -/
def teams : List GroupedPath :=
  [.nested ⟨"author:author_id".toList, "author_id".toList, some "author".toList⟩
    [.leaf ⟨"name".toList, "name".toList, none⟩,
     .nested ⟨"team:team_id".toList, "team_id".toList, some "team".toList⟩
      [.leaf ⟨"label".toList, "label".toList, none⟩]]]

/-- That clause, with filters on an author and on the author's team. -/
def teamsText : Text :=
  "select=author:author_id(name,team:team_id(label))&author.id=eq.3&author.team.id=eq.7".toList

/-- The condition on the author. -/
def ofAuthor : Condition where
  path := "author.id".toList
  operator := .eq
  operand := .num (.int 3)

/-- The condition on the team. -/
def ofTeam : Condition where
  path := "author.team.id".toList
  operator := .eq
  operand := .num (.int 7)

/-- That query, read. -/
def teamsQuery : ParsedQuery where
  select := "author:author_id(name,team:team_id(label))".toList
  paths := (Field.chainsOf (GroupedPath.toFields teams)).map Path.ofHeads
  filters := [.condition
      { ofAuthor with path := "author_id.id".toList, aliasChain := some "author.id".toList },
    .condition
      { ofTeam with
        path := "author_id.team.id".toList, aliasChain := some "author.team.id".toList }]

theorem selectFields_teams :
    selectFields teamsQuery.select = .ok (GroupedPath.toFields teams) := by
  have hentry : ∀ aliasName segment : Text, Head.isIdentifier aliasName = true →
      Segment.isPlain segment = true →
      GroupedPath.IsPlainEntry ⟨aliasName ++ ':' :: segment, segment, some aliasName⟩ :=
    fun _ _ halias h => GroupedPath.isPlainEntry_alias halias h rfl
  exact @GroupedPath.selectFields_statement teams (List.cons_ne_nil _ _)
    ⟨⟨hentry "author".toList "author_id".toList (by decide) (by decide), List.cons_ne_nil _ _,
      GroupedPath.isPlainEntry_segment (by decide),
      ⟨hentry "team".toList "team_id".toList (by decide) (by decide), List.cons_ne_nil _ _,
        GroupedPath.isPlainEntry_segment (by decide), trivial⟩, trivial⟩, trivial⟩

theorem params_teams : QueryParam.ofText teamsText =
    .ok [⟨"select".toList, teamsQuery.select, 0⟩, ⟨ofAuthor.path, "eq.3".toList, 50⟩,
      ⟨ofTeam.path, "eq.7".toList, 65⟩] := by
  rfl

theorem isFilter_ofAuthor : QueryParam.IsFilter ⟨ofAuthor.path, "eq.3".toList, 50⟩ :=
  ⟨by decide, by decide⟩

theorem isFilter_ofTeam : QueryParam.IsFilter ⟨ofTeam.path, "eq.7".toList, 65⟩ :=
  ⟨by decide, by decide⟩

theorem parseFilter_ofAuthor :
    ParsedQuery.parseFilter ⟨ofAuthor.path, "eq.3".toList, 50⟩ = .ok (.condition ofAuthor) :=
  @parseFilter_eq _ "3".toList _ 50 (by decide) (by decide)

theorem parseFilter_ofTeam :
    ParsedQuery.parseFilter ⟨ofTeam.path, "eq.7".toList, 65⟩ = .ok (.condition ofTeam) :=
  @parseFilter_eq _ "7".toList _ 65 (by decide) (by decide)

theorem parseQueryKey_teams : parseQueryKey teamsText = .ok teamsQuery := by
  have hauthor : ofAuthor.resolve teamsQuery.paths =
      { ofAuthor with path := "author_id.id".toList, aliasChain := some "author.id".toList } := by
    decide
  have hteam : ofTeam.resolve teamsQuery.paths =
      { ofTeam with
        path := "author_id.team.id".toList, aliasChain := some "author.team.id".toList } := by
    decide
  rw [parseQueryKey_of_params params_teams (parseSelect_chains selectFields_teams),
    List.foldlM_cons, ParsedQuery.addParam_of_isFilter isFilter_ofAuthor,
    parseFilter_ofAuthor]
  show List.foldlM _ _ _ = _
  rw [List.foldlM_cons, ParsedQuery.addParam_of_isFilter isFilter_ofTeam,
    parseFilter_ofTeam]
  show Except.ok { teamsQuery with
    filters := [.condition (ofAuthor.resolve teamsQuery.paths),
      .condition (ofTeam.resolve teamsQuery.paths)] } = _
  rw [hauthor, hteam]
  rfl

theorem isSpelledBy_teams : ofAuthor.IsSpelledBy teamsText ∧ ofTeam.IsSpelledBy teamsText :=
  ⟨⟨_, params_teams, _, by simp, isFilter_ofAuthor, _, parseFilter_ofAuthor, by simp⟩,
    ⟨_, params_teams, _, by simp, isFilter_ofTeam, _, parseFilter_ofTeam, by simp⟩⟩

/-- No leaf is called by the number of an author or of a team. -/
theorem not_namesLeaf_teams :
    ¬NamesLeaf teamsQuery.paths ofAuthor.path ∧ ¬NamesLeaf teamsQuery.paths ofTeam.path := by
  unfold NamesLeaf
  decide

/-- The number of an author is found behind the alias by either leaf. -/
theorem parseQueryKey_aliasStart_author :
    parseQueryKey teamsText = .ok teamsQuery ∧ ofAuthor.IsSpelledBy teamsText ∧
      ¬NamesLeaf teamsQuery.paths ofAuthor.path ∧
      (∃ longest, SharesLongest teamsQuery.paths ofAuthor.path longest) ∧
      ∀ leaves : List Path, leaves.Perm teamsQuery.paths →
        ofAuthor.ResolvesByLongest leaves ∧
          (ofAuthor.resolve leaves).path = "author_id.id".toList := by
  have hstandIn : ∀ path ∈ teamsQuery.paths,
      path.standIn ofAuthor.path = "author_id.id".toList := by
    decide
  obtain ⟨-, hresolve, hperm⟩ :=
    parseQueryKey_aliasStart parseQueryKey_teams isSpelledBy_teams.1 not_namesLeaf_teams.1
  have hall := hperm.2 fun path hmem _ longest hlongest =>
    (hstandIn path hmem).trans (hstandIn longest hlongest.mem).symm
  have hpath : (ofAuthor.resolve teamsQuery.paths).path = "author_id.id".toList := by
    rw [hresolve]
    decide
  refine ⟨parseQueryKey_teams, isSpelledBy_teams.1, not_namesLeaf_teams.1, ?_,
    fun leaves hleaves => ⟨(hall leaves hleaves).1, (hall leaves hleaves).2 ▸ hpath⟩⟩
  exact @exists_sharesLongest _ _
    ⟨"author:author_id.name".toList, "author_id.name".toList, some "author.name".toList⟩
    (by decide) (by decide)

/-- The number of a team is looked for under the alias of the team: the leaf
with the name of the author comes first, which knows the author alone.  With the
leaves the other way round it is found. -/
theorem team_alias_left :
    parseQueryKey teamsText = .ok teamsQuery ∧ ofTeam.IsSpelledBy teamsText ∧
      ¬NamesLeaf teamsQuery.paths ofTeam.path ∧ ¬ofTeam.ResolvesByLongest teamsQuery.paths ∧
      (∃ longest, SharesLongest teamsQuery.paths ofTeam.path longest ∧
        longest.standIn ofTeam.path = "author_id.team_id.id".toList) ∧
      (ofTeam.resolve teamsQuery.paths).path = "author_id.team.id".toList ∧
      (ofTeam.resolve teamsQuery.paths.reverse).path = "author_id.team_id.id".toList := by
  obtain ⟨longest, hlongest, hstandIn⟩ : ∃ longest,
      SharesLongest teamsQuery.paths ofTeam.path longest ∧
        longest.standIn ofTeam.path = "author_id.team_id.id".toList := by
    refine ⟨⟨"author:author_id.team:team_id.label".toList, "author_id.team_id.label".toList,
      some "author.team.label".toList⟩, ⟨?_, ?_, ?_⟩, ?_⟩ <;> decide
  have hresolved : (ofTeam.resolve teamsQuery.paths).path = "author_id.team.id".toList := by
    decide
  refine ⟨parseQueryKey_teams, isSpelledBy_teams.2, not_namesLeaf_teams.2, fun h => ?_,
    ⟨longest, hlongest, hstandIn⟩, hresolved, by decide⟩
  have hclaimed := h longest hlongest
  rw [hresolved, hstandIn] at hclaimed
  contradiction

end QueryCache
