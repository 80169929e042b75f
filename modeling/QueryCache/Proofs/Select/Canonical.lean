/-
QueryCache.Proofs.Select.Canonical — paths without aliases.

A path is canonical when each of its segments is there and declares no
alias.  Such a path is its own declaration: taking its aliases off changes
nothing (`stripPathAliases_of_canonical`).  The segments of named heads are
of this kind.  The leaves of a clause of named heads have such segments, and
without their aliases they are known by these alone
(`IsNamedClause.exists_leaves`).
-/
import QueryCache.Proofs.Select.Chains

namespace QueryCache

/-- The segment is there and declares no alias. -/
def Segment.IsCanonical (segment : Text) : Prop :=
  segment ≠ [] ∧ (Segment.splitAlias segment).1 = none

/-- The segment is that of a named head. -/
def Segment.IsNamed (segment : Text) : Prop :=
  ∃ head : Head, head.IsNamed ∧ head.segment = segment

theorem Segment.IsNamed.isCanonical {segment : Text} (h : IsNamed segment) :
    IsCanonical segment := by
  obtain ⟨head, hnamed, rfl⟩ := h
  refine ⟨hnamed.segment_ne_nil, ?_⟩
  rw [splitAlias, hnamed.splitAtLoneColon_segment.1]

theorem Segment.isNamed_of_isIdentifier {segment : Text} (h : Head.isIdentifier segment = true) :
    IsNamed segment :=
  ⟨⟨segment, none, segment, []⟩, ⟨by simp, Or.inl (.plain h), by simp⟩, rfl⟩

/-- Every segment of the dotted path is canonical. -/
def Text.IsCanonicalPath (path : Text) : Prop :=
  ∀ segment ∈ Text.splitOn '.' path, Segment.IsCanonical segment

/-- Every segment of the dotted path is that of a named head. -/
def Text.IsNamedPath (path : Text) : Prop :=
  ∀ segment ∈ Text.splitOn '.' path, Segment.IsNamed segment

/-- The path consists of identifiers. -/
def Text.IsDottedName (path : Text) : Prop :=
  ∀ segment ∈ Text.splitOn '.' path, Head.isIdentifier segment = true

namespace Text

theorem IsNamedPath.isCanonicalPath {path : Text} (h : path.IsNamedPath) :
    path.IsCanonicalPath :=
  fun segment hmem => (h segment hmem).isCanonical

theorem IsDottedName.isNamedPath {path : Text} (h : path.IsDottedName) : path.IsNamedPath :=
  fun segment hmem => Segment.isNamed_of_isIdentifier (h segment hmem)

theorem IsCanonicalPath.ne_nil {path : Text} (h : path.IsCanonicalPath) : path ≠ [] := by
  rintro rfl
  exact (h [] (by simp [splitOn])).1 rfl

end Text

theorem Segment.stripPathAliases_of_canonical {path : Text} (h : path.IsCanonicalPath) :
    Segment.stripPathAliases path = path := by
  have hsegments : (Text.splitOn '.' path).map Segment.withoutAlias = Text.splitOn '.' path := by
    conv => rhs; rw [← List.map_id (Text.splitOn '.' path)]
    refine List.map_congr_left fun segment hmem => ?_
    rw [Segment.withoutAlias, Segment.splitAlias_of_none (h segment hmem).2]
    rfl
  rw [Segment.stripPathAliases, Segment.mapSegments, hsegments, Text.join_splitOn]

/-- The leaf has a canonical path, and without aliases it is known by that
path alone. -/
structure Path.IsCanonical (path : Path) : Prop where
  canonical : path.path.IsCanonicalPath
  withoutAlias_eq : path.withoutAlias = Path.ofText path.path

/-- A select clause of named heads: columns with or without a cast, `*` and
`count()`, under any aliases. -/
def IsNamedClause (clause : Text) : Prop :=
  ∃ fields, selectFields clause = .ok fields ∧ Field.AllOf Head.IsNamed fields

/-- A clause of named heads is read, and its leaves have segments of named
heads. -/
theorem IsNamedClause.exists_leaves {clause : Text} (h : IsNamedClause clause) :
    ∃ leaves, parseSelect clause = .ok leaves ∧
      ∀ leaf ∈ leaves, leaf.path.IsNamedPath ∧ leaf.IsCanonical := by
  obtain ⟨fields, hfields, hnamed⟩ := h
  refine ⟨_, parseSelect_chains hfields, fun leaf hmem => ?_⟩
  obtain ⟨chain, hchain, rfl⟩ := List.mem_map.1 hmem
  have hheads := Field.all_of_mem_chainsOf fields hnamed chain hchain
  have hdotless : DotlessChain chain := ⟨Field.chainsOf_ne_nil fields chain hchain,
    Field.all_of_mem_chainsOf fields (selectFields_dotless hfields) chain hchain⟩
  have hpath : (Path.ofHeads chain).path.IsNamedPath := by
    intro segment hsegment
    have hsegments : Text.splitOn '.' (Path.ofHeads chain).path = chain.map (·.segment) :=
      Path.segments_ofHeads hdotless
    rw [hsegments] at hsegment
    obtain ⟨head, hhead, rfl⟩ := List.mem_map.1 hsegment
    exact ⟨head, hheads head hhead, rfl⟩
  exact ⟨hpath, hpath.isCanonicalPath, Path.withoutAlias_named hdotless
    (Field.all_of_mem_chainsOf fields (selectFields_spelled hfields) chain hchain) hheads⟩

end QueryCache
