/-
QueryCache.Proofs.Statement.Table — the nodes of a tree in one table.

A table has a row for every node, in the order of their insertion, and the
number of a node is its place.  A row carries the kind and the segment of
its node and links to its children by their numbers, under their kinds and
segments.  A chain is inserted by a walk from the root that goes through the
linked child, or first grows the table by a row for it.

`IsTree` says what the links of such a table are, but for the one relation
that the walk has reached and that may still be empty.  One step of the walk
keeps it (`IsTree.child`), hence so do a chain (`IsTree.insertChain`) and any
list of paths (`isTree_ofPaths`): links lead from a node to a younger one,
and every node but the root is linked once, under what it is.
-/
import Mathlib.Data.List.Nodup
import QueryCache.Proofs.Statement.Levels

namespace QueryCache

/-- A node as the table keeps it: its kind and its segment, and the numbers of
its children under their kinds and segments, oldest first. -/
structure TableRow where
  heading : Bool × Text
  links : List ((Bool × Text) × Nat) := []
deriving DecidableEq

/-- The rows of all nodes, oldest first. -/
abbrev NodeTable := List TableRow

namespace NodeTable

/-! ## 1. Insertion by number -/

/-- The number of the child with that kind and segment. -/
def linked? (table : NodeTable) (parent : Nat) (heading : Bool × Text) : Option Nat :=
  table[parent]?.bind fun row => row.links.lookup heading

/-- The row with a link to the next node. -/
def link (table : NodeTable) (heading : Bool × Text) (row : TableRow) : TableRow :=
  { row with links := row.links ++ [(heading, table.length)] }

/-- The table with a new node, linked from its parent. -/
def grow (table : NodeTable) (parent : Nat) (heading : Bool × Text) : NodeTable :=
  List.modify (table ++ [TableRow.mk heading []]) parent (table.link heading)

/-- The number of a child, which is entered unless it is there. -/
def child (table : NodeTable) (parent : Nat) (heading : Bool × Text) : Nat × NodeTable :=
  match table.linked? parent heading with
  | some number => (number, table)
  | none => (table.length, table.grow parent heading)

/-- Walks along a chain of segments, the last of which is a leaf. -/
def insertChain : List Text → (parent : Nat) → NodeTable → NodeTable
  | [], _, table => table
  | [segment], parent, table => (table.child parent (false, segment)).2
  | segment :: next :: rest, parent, table =>
    insertChain (next :: rest) (table.child parent (true, segment)).1
      (table.child parent (true, segment)).2

/-- The table with a declaration inserted; the empty one is no leaf. -/
def insert (table : NodeTable) (path : Path) : NodeTable :=
  if path.declaration.isEmpty then table
  else table.insertChain (Text.splitOn '.' path.declaration) 0

/-- The table of all the paths, inserted in their order below the root. -/
def ofPaths (paths : List Path) : NodeTable :=
  paths.foldl insert [TableRow.mk (true, []) []]

/-! ## 2. Links -/

/-- The node of one number has the other as its child, under that kind and
segment. -/
def Links (table : NodeTable) (parent : Nat) (heading : Bool × Text) (number : Nat) : Prop :=
  ∃ row, table[parent]? = some row ∧ (heading, number) ∈ row.links

/-- The rows are the nodes of a tree below the row of number 0, but the
relation of number `reached` may be empty. -/
structure IsTree (table : NodeTable) (reached : Nat) : Prop where
  root : ∃ row, table[0]? = some row ∧ row.heading = (true, [])
  /-- Children are younger than their parent, and in the table. -/
  younger : ∀ {parent number : Nat} {heading : Bool × Text}, table.Links parent heading number →
    parent < number ∧ number < table.length
  /-- Every other node has one parent, under its own kind and segment. -/
  parent : ∀ {number : Nat} {row : TableRow}, number ≠ 0 → table[number]? = some row →
    ∃ parent, ∀ other heading, table.Links other heading number ↔
      other = parent ∧ heading = row.heading
  /-- No two children have their kind and segment in common. -/
  keyed : ∀ {number : Nat} {row : TableRow}, table[number]? = some row →
    (row.links.map Prod.fst).Nodup
  leaf : ∀ {number : Nat} {row : TableRow}, table[number]? = some row →
    row.heading.1 = false → row.links = []
  relation : ∀ {number : Nat} {row : TableRow}, table[number]? = some row →
    row.heading.1 = true → number ≠ reached → row.links ≠ []

theorem links_of_linked? {table : NodeTable} {parent number : Nat} {heading : Bool × Text}
    (h : table.linked? parent heading = some number) : table.Links parent heading number := by
  obtain ⟨row, hrow, hlookup⟩ := Option.bind_eq_some_iff.1 h
  obtain ⟨front, back, hlinks, -⟩ := List.lookup_eq_some_iff.1 hlookup
  exact ⟨row, hrow, by simp [hlinks]⟩

theorem not_mem_of_linked?_eq_none {table : NodeTable} {parent : Nat} {heading : Bool × Text}
    (h : table.linked? parent heading = none) {row : TableRow} (hrow : table[parent]? = some row) :
    heading ∉ row.links.map Prod.fst := by
  rw [linked?, hrow, Option.bind_some, List.lookup_eq_none_iff] at h
  rintro hmem
  obtain ⟨link, hlink, rfl⟩ := List.mem_map.1 hmem
  simpa using h link hlink

/-! ## 3. A new row -/

section

variable {table : NodeTable} {parent : Nat} {heading : Bool × Text}

@[simp] theorem length_grow : (table.grow parent heading).length = table.length + 1 := by
  rw [grow, List.length_modify, List.length_append, List.length_singleton]

theorem getElem?_grow_self (hparent : parent < table.length) :
    (table.grow parent heading)[table.length]? = some ⟨heading, []⟩ := by
  simp [grow, hparent.ne]

theorem getElem?_grow_parent {row : TableRow} (hrow : table[parent]? = some row) :
    (table.grow parent heading)[parent]? = some (table.link heading row) := by
  have hparent : parent < table.length := (List.getElem?_eq_some_iff.1 hrow).1
  rw [grow, List.getElem?_modify, List.getElem?_append_left hparent, hrow]
  simp

/-- The other rows stay. -/
theorem getElem?_grow_of_ne {number : Nat} (hnumber : number < table.length)
    (hne : number ≠ parent) : (table.grow parent heading)[number]? = table[number]? := by
  rw [grow, List.getElem?_modify, List.getElem?_append_left hnumber]
  simp [hne.symm]

/-- Where a row of the grown table comes from. -/
theorem getElem?_grow_cases {number : Nat} {row new : TableRow} (hrow : table[parent]? = some row)
    (h : (table.grow parent heading)[number]? = some new) :
    (number = table.length ∧ new = ⟨heading, []⟩) ∨
      (number = parent ∧ new = table.link heading row) ∨
      (number ≠ parent ∧ table[number]? = some new) := by
  have hparent : parent < table.length := (List.getElem?_eq_some_iff.1 hrow).1
  have hlength : number < table.length + 1 := by
    rw [← length_grow]
    exact (List.getElem?_eq_some_iff.1 h).1
  by_cases hself : number = table.length
  · rw [hself, getElem?_grow_self hparent, Option.some.injEq] at h
    exact Or.inl ⟨hself, h.symm⟩
  · by_cases heq : number = parent
    · rw [heq, getElem?_grow_parent hrow, Option.some.injEq] at h
      exact Or.inr (Or.inl ⟨heq, h.symm⟩)
    · rw [getElem?_grow_of_ne (by omega) heq] at h
      exact Or.inr (Or.inr ⟨heq, h⟩)

/-- A new row brings the link to it and no other. -/
theorem links_grow {row : TableRow} (hrow : table[parent]? = some row) {elder number : Nat}
    {key : Bool × Text} : (table.grow parent heading).Links elder key number ↔
      table.Links elder key number ∨ elder = parent ∧ key = heading ∧ number = table.length := by
  constructor
  · rintro ⟨new, hnew, hmem⟩
    rcases getElem?_grow_cases hrow hnew with ⟨-, rfl⟩ | ⟨rfl, rfl⟩ | ⟨-, hold⟩
    · simp at hmem
    · rw [link, List.mem_append, List.mem_singleton, Prod.mk.injEq] at hmem
      rcases hmem with hmem | ⟨hkey, hnumber⟩
      · exact Or.inl ⟨row, hrow, hmem⟩
      · exact Or.inr ⟨rfl, hkey, hnumber⟩
    · exact Or.inl ⟨new, hold, hmem⟩
  · rintro (⟨old, hold, hmem⟩ | ⟨rfl, rfl, rfl⟩)
    · by_cases heq : elder = parent
      · subst heq
        obtain rfl := Option.some.inj (hrow.symm.trans hold)
        exact ⟨_, getElem?_grow_parent hrow, List.mem_append_left _ hmem⟩
      · have hlength := (List.getElem?_eq_some_iff.1 hold).1
        exact ⟨old, (getElem?_grow_of_ne hlength heq).trans hold, hmem⟩
    · exact ⟨_, getElem?_grow_parent hrow, List.mem_append_right _ (List.mem_singleton.2 rfl)⟩

end

/-! ## 4. A step of the walk -/

section

variable {table : NodeTable} {reached : Nat} {heading : Bool × Text}

/-- A node with a child is no empty relation. -/
theorem IsTree.of_links (h : table.IsTree reached) {number : Nat}
    (hlinks : table.Links reached heading number) (other : Nat) : table.IsTree other :=
  { h with
    relation := by
      intro place row hrow hrelation _
      by_cases hplace : place = reached
      · obtain ⟨found, hfound, hmem⟩ := hlinks
        rw [hplace, hfound, Option.some.injEq] at hrow
        exact List.ne_nil_of_mem (hrow ▸ hmem)
      · exact h.relation hrow hrelation hplace }

/-- Nor is a leaf. -/
theorem IsTree.of_leaf (h : table.IsTree reached) {row : TableRow}
    (hrow : table[reached]? = some row) (hleaf : row.heading.1 = false) (other : Nat) :
    table.IsTree other :=
  { h with
    relation := by
      intro place found hfound hrelation _
      refine h.relation hfound hrelation ?_
      rintro rfl
      rw [hrow, Option.some.injEq] at hfound
      rw [← hfound, hleaf] at hrelation
      contradiction }

/-- A child is the row that its link tells. -/
theorem IsTree.exists_row (h : table.IsTree reached) {parent number : Nat}
    (hlinks : table.Links parent heading number) :
    ∃ row, table[number]? = some row ∧ row.heading = heading := by
  obtain ⟨hyounger, hlength⟩ := h.younger hlinks
  refine ⟨table[number], List.getElem?_eq_getElem hlength, ?_⟩
  obtain ⟨_, honly⟩ := h.parent (Nat.ne_zero_of_lt hyounger) (List.getElem?_eq_getElem hlength)
  exact ((honly _ _).1 hlinks).2.symm

section

variable {row : TableRow} (hrow : table[reached]? = some row)
include hrow

/-- A new child under a kind and a segment of its own. -/
theorem IsTree.grow (h : table.IsTree reached) (hrelation : row.heading.1 = true)
    (hnew : heading ∉ row.links.map Prod.fst) :
    (table.grow reached heading).IsTree table.length := by
  have hreached : reached < table.length := (List.getElem?_eq_some_iff.1 hrow).1
  -- A row that is there stays what it is.
  have hkept : ∀ {number : Nat} {old : TableRow}, table[number]? = some old →
      ∃ new, (table.grow reached heading)[number]? = some new ∧ new.heading = old.heading := by
    intro number old hold
    by_cases heq : number = reached
    · subst heq
      obtain rfl := Option.some.inj (hrow.symm.trans hold)
      exact ⟨_, getElem?_grow_parent hrow, rfl⟩
    · exact ⟨old, (getElem?_grow_of_ne (List.getElem?_eq_some_iff.1 hold).1 heq).trans hold, rfl⟩
  -- So it keeps its only parent, which is older than the new row.
  have hparent : ∀ {number : Nat} {old : TableRow}, number ≠ 0 → table[number]? = some old →
      ∃ parent, ∀ other key, (table.grow reached heading).Links other key number ↔
        other = parent ∧ key = old.heading := by
    intro number old hnumber hold
    obtain ⟨parent, honly⟩ := h.parent hnumber hold
    refine ⟨parent, fun other key => ?_⟩
    rw [links_grow hrow, honly]
    exact or_iff_left fun hlast => (List.getElem?_eq_some_iff.1 hold).1.ne hlast.2.2
  constructor
  case root =>
    obtain ⟨old, hold, hroot⟩ := h.root
    obtain ⟨new, hnew, hsame⟩ := hkept hold
    exact ⟨new, hnew, hsame.trans hroot⟩
  case younger =>
    intro parent number key hlinks
    rw [length_grow]
    rcases (links_grow hrow).1 hlinks with hlinks | ⟨rfl, -, rfl⟩
    · exact ⟨(h.younger hlinks).1, Nat.lt_succ_of_lt (h.younger hlinks).2⟩
    · exact ⟨hreached, Nat.lt_succ_self _⟩
  case parent =>
    intro number new hnumber hnew
    rcases getElem?_grow_cases hrow hnew with ⟨rfl, rfl⟩ | ⟨rfl, rfl⟩ | ⟨-, hold⟩
    · refine ⟨reached, fun other key => ?_⟩
      rw [links_grow hrow]
      constructor
      · rintro (hlinks | ⟨hother, hkey, -⟩)
        · exact absurd (h.younger hlinks).2 (Nat.lt_irrefl _)
        · exact ⟨hother, hkey⟩
      · exact fun ⟨hother, hkey⟩ => Or.inr ⟨hother, hkey, rfl⟩
    · have honly := hparent hnumber hrow
      exact honly
    · exact hparent hnumber hold
  case keyed =>
    intro number new hget
    rcases getElem?_grow_cases hrow hget with ⟨-, rfl⟩ | ⟨-, rfl⟩ | ⟨-, hold⟩
    · exact List.nodup_nil
    · rw [link, List.map_append, List.map_singleton, ← List.concat_eq_append]
      exact List.Nodup.concat hnew (h.keyed hrow)
    · exact h.keyed hold
  case leaf =>
    intro number new hget hleaf
    rcases getElem?_grow_cases hrow hget with ⟨-, rfl⟩ | ⟨-, rfl⟩ | ⟨-, hold⟩
    · rfl
    · exact absurd (hrelation.symm.trans hleaf) (by decide)
    · exact h.leaf hold hleaf
  case relation =>
    intro number new hget hheading hne
    rcases getElem?_grow_cases hrow hget with ⟨rfl, -⟩ | ⟨-, rfl⟩ | ⟨hother, hold⟩
    · exact absurd rfl hne
    · simp [link]
    · exact h.relation hold hheading hother

/-- The walk leads to a child of the kind and the segment that it asks for,
and only this one may be empty then. -/
theorem IsTree.child (h : table.IsTree reached) (hrelation : row.heading.1 = true)
    (heading : Bool × Text) :
    (table.child reached heading).2.IsTree (table.child reached heading).1 ∧
      ∃ new, (table.child reached heading).2[(table.child reached heading).1]? = some new ∧
        new.heading = heading := by
  rw [NodeTable.child]
  split
  · rename_i number hlinked
    have hlinks := links_of_linked? hlinked
    exact ⟨h.of_links hlinks number, h.exists_row hlinks⟩
  · rename_i hnone
    exact ⟨h.grow hrow hrelation (not_mem_of_linked?_eq_none hnone hrow), _,
      getElem?_grow_self (List.getElem?_eq_some_iff.1 hrow).1, rfl⟩

end

end

/-! ## 5. Walks -/

/-- A chain is inserted below the relation that the walk has reached. -/
theorem IsTree.insertChain {table : NodeTable} {reached : Nat} (h : table.IsTree reached)
    {row : TableRow} (hrow : table[reached]? = some row) (hrelation : row.heading.1 = true)
    {chain : List Text} (hne : chain ≠ []) : (table.insertChain chain reached).IsTree 0 := by
  match chain with
  | [] => exact absurd rfl hne
  | [segment] =>
    obtain ⟨htree, new, hnew, hheading⟩ := h.child hrow hrelation (false, segment)
    exact htree.of_leaf hnew (congrArg Prod.fst hheading) 0
  | segment :: next :: rest =>
    obtain ⟨htree, new, hnew, hheading⟩ := h.child hrow hrelation (true, segment)
    exact htree.insertChain hnew (congrArg Prod.fst hheading) (List.cons_ne_nil next rest)

theorem IsTree.insert {table : NodeTable} (h : table.IsTree 0) (path : Path) :
    (table.insert path).IsTree 0 := by
  rw [NodeTable.insert]
  split
  · exact h
  · obtain ⟨row, hrow, hroot⟩ := h.root
    exact h.insertChain hrow (congrArg Prod.fst hroot) (Text.splitOn_ne_nil _ _)

/-- The root alone. -/
theorem isTree_root : NodeTable.IsTree [TableRow.mk (true, []) []] 0 := by
  have hrow : ∀ {number : Nat} {row : TableRow}, [TableRow.mk (true, []) []][number]? = some row →
      number = 0 ∧ row = TableRow.mk (true, []) [] := by
    intro number row h
    obtain ⟨hlength, rfl⟩ := List.getElem?_eq_some_iff.1 h
    obtain rfl : number = 0 := by simpa using hlength
    exact ⟨rfl, rfl⟩
  constructor
  case root => exact ⟨_, rfl, rfl⟩
  case younger =>
    rintro parent number heading ⟨row, h, hmem⟩
    rw [(hrow h).2] at hmem
    contradiction
  case parent => exact fun hne h => absurd (hrow h).1 hne
  case keyed =>
    intro number row h
    rw [(hrow h).2]
    exact List.nodup_nil
  case leaf =>
    intro number row h _
    rw [(hrow h).2]
  case relation => exact fun h _ hne => absurd (hrow h).1 hne

/-- The table of any paths is a tree; no relation but the root is empty. -/
theorem isTree_ofPaths (paths : List Path) : (ofPaths paths).IsTree 0 :=
  List.foldlRecOn (motive := fun table => IsTree table 0) paths insert isTree_root
    fun _ h path _ => h.insert path

end NodeTable
end QueryCache
