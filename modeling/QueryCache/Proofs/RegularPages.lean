/-
QueryCache.Proofs.RegularPages — lists cut into pages, and put together
again.

Pages are regular when every page but the last is full and the last one is
not empty.  Rows have exactly one regular cut: cutting gives regular pages
(`isPagination_chunk`), and cutting the rows of regular pages gives these
pages again (`chunk_flatten`).  So putting its own rows back leaves a cached
list as it is exactly when the list is regular (`rechunk_regular`).
-/
import QueryCache.Proofs.PageFlags

namespace QueryCache
namespace CacheData

/-! ## 1. Pages of rows -/

/-- Pages of `size` rows each, at least one; the last one may hold fewer,
but is not empty. -/
structure IsPagination (size : Nat) (pages : List (List Json)) : Prop where
  full : ∀ page ∈ pages.dropLast, page.length = max size 1
  last : ∀ page ∈ pages.getLast?, 1 ≤ page.length ∧ page.length ≤ max size 1

theorem isPagination_nil (size : Nat) : IsPagination size [] :=
  ⟨by simp, by simp⟩

/-- The first page is full if another one follows. -/
theorem isPagination_cons {size : Nat} {page : List Json} {rest : List (List Json)} :
    IsPagination size (page :: rest) ↔
      1 ≤ page.length ∧ page.length ≤ max size 1 ∧ (rest ≠ [] → page.length = max size 1) ∧
        IsPagination size rest := by
  rcases rest with _ | ⟨next, rest⟩
  · constructor
    · intro h
      obtain ⟨hpos, hle⟩ := h.last page rfl
      exact ⟨hpos, hle, fun hne => absurd rfl hne, isPagination_nil size⟩
    · rintro ⟨hpos, hle, -, -⟩
      refine ⟨by simp, fun last hlast => ?_⟩
      rw [List.getLast?_singleton, Option.mem_some_iff] at hlast
      exact hlast ▸ ⟨hpos, hle⟩
  · have hdrop : (page :: next :: rest).dropLast = page :: (next :: rest).dropLast := rfl
    have hlast : (page :: next :: rest).getLast? = (next :: rest).getLast? :=
      List.getLast?_cons_cons
    constructor
    · rintro ⟨hfull, hend⟩
      rw [hdrop, List.forall_mem_cons] at hfull
      rw [hlast] at hend
      exact ⟨by omega, by omega, fun _ => hfull.1, hfull.2, hend⟩
    · rintro ⟨-, -, hpage, hfull, hend⟩
      refine ⟨?_, ?_⟩
      · rw [hdrop, List.forall_mem_cons]
        exact ⟨hpage (List.cons_ne_nil _ _), hfull⟩
      · rw [hlast]
        exact hend

theorem chunk_eq_nil_iff {size : Nat} {rows : List Json} : chunk size rows = [] ↔ rows = [] := by
  cases rows <;> simp [chunk]

/-- Rows are cut into full pages, and the last page holds what is left. -/
theorem isPagination_chunk (size : Nat) (rows : List Json) :
    IsPagination size (chunk size rows) := by
  induction rows using chunk.induct size with
  | case1 =>
    rw [chunk]
    exact isPagination_nil size
  | case2 row rest ih =>
    have hlength : (row :: rest.take (size - 1)).length = min (size - 1) rest.length + 1 := by simp
    rw [chunk, isPagination_cons, hlength]
    refine ⟨by omega, by omega, fun hne => ?_, ih⟩
    have hmore : ¬ rest.length ≤ size - 1 := by
      rwa [ne_eq, chunk_eq_nil_iff, List.drop_eq_nil_iff] at hne
    omega

/-- The rows of regular pages are cut into these pages. -/
theorem chunk_flatten {size : Nat} {pages : List (List Json)} (h : IsPagination size pages) :
    chunk size pages.flatten = pages := by
  induction pages with
  | nil => simp [chunk]
  | cons page rest ih =>
    obtain ⟨hpos, hle, hfull, hrest⟩ := isPagination_cons.1 h
    obtain ⟨row, others, rfl⟩ := List.exists_cons_of_length_pos hpos
    rw [List.length_cons] at hle hfull
    -- The page ends where the cut is, or nothing follows it.
    have hcut : (others ++ rest.flatten).take (size - 1) = others ∧
        (others ++ rest.flatten).drop (size - 1) = rest.flatten := by
      by_cases hne : rest = []
      · subst hne
        rw [List.flatten_nil, List.append_nil]
        exact ⟨List.take_of_length_le (by omega), List.drop_of_length_le (by omega)⟩
      · have hlength : others.length = size - 1 := by
          have := hfull hne
          omega
        exact ⟨List.take_left' hlength, List.drop_left' hlength⟩
    rw [List.flatten_cons, List.cons_append, chunk, hcut.1, hcut.2, ih hrest]

/-! ## 2. Flagged pages -/

/-- Flags that say of every page but the last that more follow are those
that flagging the pages sets. -/
theorem flagPages_map_data {pages : List HasMorePage}
    (h : ∀ page ∈ pages.dropLast, page.hasMore = true) :
    flagPages (lastHasMore pages) (pages.map (·.data)) = pages := by
  induction pages with
  | nil => rfl
  | cons page rest ih =>
    rcases rest with _ | ⟨next, rest⟩
    · rfl
    · have hdrop : (page :: next :: rest).dropLast = page :: (next :: rest).dropLast := rfl
      have hlast : lastHasMore (page :: next :: rest) = lastHasMore (next :: rest) := by
        rw [lastHasMore, List.getLast?_cons_cons, lastHasMore]
      rw [hdrop, List.forall_mem_cons] at h
      have hpage : HasMorePage.mk page.data true = page := by rw [← h.1]
      have hrest := ih h.2
      rw [List.map_cons] at hrest
      rw [hlast, List.map_cons, List.map_cons, flagPages, hrest, hpage]
      exact fun hnil => absurd hnil (List.cons_ne_nil _ _)

/-! ## 3. Cached lists -/

/-- Both are responses, or lists of pages of one kind. -/
def SameShape : CacheData → CacheData → Prop
  | response _ _, response _ _ => True
  | pages _, pages _ => True
  | hasMorePages _, hasMorePages _ => True
  | _, _ => False

/-- A list in the form in which rows are put into its shape: a response
counts its rows, pages are regular, and more follow every flagged page but
the last. -/
def IsRegular (limit : Nat) : CacheData → Prop
  | response (.arr rows) count => count = some (rows.length : Int)
  | response _ _ => False
  | pages found => IsPagination limit found
  | hasMorePages found => IsPagination limit (found.map (·.data)) ∧
      ∀ page ∈ found.dropLast, page.hasMore = true

theorem sameShape_rechunk (data : CacheData) (rows : List Json) (limit : Nat) :
    (data.rechunk rows limit).SameShape data := by
  cases data <;> trivial

theorem isRegular_rechunk (data : CacheData) (rows : List Json) (limit : Nat) :
    (data.rechunk rows limit).IsRegular limit := by
  cases data with
  | response single count => exact rfl
  | pages found => exact isPagination_chunk limit rows
  | hasMorePages found =>
    refine ⟨?_, hasMore_of_mem_dropLast_flagPages _ _⟩
    rw [map_data_flagPages]
    exact isPagination_chunk limit rows

/-- A regular list is left as it is when its own rows are put back. -/
theorem rechunk_of_isRegular {data : CacheData} {rows : List Json} {limit : Nat}
    (hrows : data.flatten = some rows) (h : data.IsRegular limit) :
    data.rechunk rows limit = data := by
  cases data with
  | response single count =>
    cases single with
    | arr items =>
      obtain rfl : items = rows := Option.some.inj hrows
      have hcount : count = some (items.length : Int) := h
      rw [rechunk, hcount]
    | _ => exact h.elim
  | pages found =>
    obtain rfl : found.flatten = rows := Option.some.inj hrows
    rw [rechunk, chunk_flatten h]
  | hasMorePages found =>
    obtain rfl : found.flatMap (·.data) = rows := Option.some.inj hrows
    obtain ⟨hpages, hflags⟩ := h
    have hflagged := flagPages_map_data hflags
    rw [rechunk, List.flatMap_def, chunk_flatten hpages]
    exact congrArg hasMorePages hflagged

end CacheData

/-! ## 4. Changes that find no row -/

/-- The change only concerns a row that is there. -/
def RowChange.NeedsRow (change : RowChange) : Prop :=
  ∀ merge, change ≠ .upsert merge

/-- Such a change leaves rows of which none has the keys of the input. -/
theorem RowChange.applyRows_of_forall {change : RowChange} (hneeds : change.NeedsRow)
    {ctx : PatchContext} {input : Json} {rows : List Json}
    (hnone : ∀ row ∈ rows, sharesKeys ctx.primaryKeys row input = false) :
    change.applyRows ctx input rows = rows := by
  cases change with
  | mutate f =>
    have hfind : rows.find? (fun row => sharesKeys ctx.primaryKeys row input) = none := by
      simpa using hnone
    simp only [applyRows, PatchContext.mutateRows, hfind]
  | upsert merge => exact absurd rfl (hneeds merge)
  | delete => exact List.filter_eq_self.2 fun row hmem => by rw [hnone row hmem, Bool.not_false]

/-- Rows put into any shape, with any number of rows to a page, come out of
it again, and make a regular list of the same shape.  A list is left as it
is when its own rows are put back exactly if it is regular; so a mutation or
a deletion that finds no row leaves a regular list as it is. -/
theorem CacheData.rechunk_regular (data : CacheData) (limit : Nat) :
    (∀ rows, (data.rechunk rows limit).SameShape data ∧
      (data.rechunk rows limit).flatten = some rows ∧
      (data.rechunk rows limit).IsRegular limit) ∧
    ∀ rows, data.flatten = some rows →
      (data.rechunk rows limit = data ↔ data.IsRegular limit) ∧
      (data.IsRegular limit → ∀ (change : RowChange) (ctx : PatchContext) (input : Json),
        change.NeedsRow → (∀ row ∈ rows, sharesKeys ctx.primaryKeys row input = false) →
        change.apply ctx input limit data = data) := by
  refine ⟨fun rows => ⟨sameShape_rechunk data rows limit, flatten_rechunk data rows limit,
    isRegular_rechunk data rows limit⟩, fun rows hrows => ⟨⟨fun hsame => ?_, ?_⟩, ?_⟩⟩
  · rw [← hsame]
    exact isRegular_rechunk data rows limit
  · exact rechunk_of_isRegular hrows
  · intro hregular change ctx input hneeds hnone
    rw [RowChange.apply_of_flatten hrows, RowChange.applyRows_of_forall hneeds hnone]
    exact rechunk_of_isRegular hrows hregular

/-- Three contacts on two flagged pages of two are regular, and the deletion
of a fourth contact leaves them; with a limit of 0 there is one contact to a
page. -/
theorem CacheData.rechunk_regular_contacts :
    let rows := [contact 1 ['a'], contact 2 ['b'], contact 3 ['c']]
    let data : CacheData :=
      .hasMorePages [⟨[contact 1 ['a'], contact 2 ['b']], true⟩, ⟨[contact 3 ['c']], true⟩]
    let ctx : PatchContext := { primaryKeys := ["id".toList], accepts := contactsFilter.accepts }
    data.flatten = some rows ∧ data.IsRegular 2 ∧
      RowChange.NeedsRow .delete ∧
      (∀ row ∈ rows, sharesKeys ctx.primaryKeys row (contact 4 ['d']) = false) ∧
      RowChange.delete.apply ctx (contact 4 ['d']) 2 data = data ∧
      data.rechunk rows 0 = .hasMorePages
        [⟨[contact 1 ['a']], true⟩, ⟨[contact 2 ['b']], true⟩, ⟨[contact 3 ['c']], true⟩] := by
  intro rows data ctx
  have hrows : data.flatten = some rows := rfl
  have hregular : data.IsRegular 2 :=
    ⟨⟨by simp, by simp⟩, by simp⟩
  have hneeds : RowChange.NeedsRow .delete := by
    intro merge hmerge
    contradiction
  have hnone : ∀ row ∈ rows, sharesKeys ctx.primaryKeys row (contact 4 ['d']) = false := by
    decide +kernel
  refine ⟨hrows, hregular, hneeds, hnone, ?_, by decide +kernel⟩
  exact ((rechunk_regular data 2).2 rows hrows).2 hregular .delete ctx (contact 4 ['d']) hneeds
    hnone

end QueryCache
