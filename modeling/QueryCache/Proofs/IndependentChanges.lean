/-
QueryCache.Proofs.IndependentChanges — changes of different rows in either
order.

Two inputs that do not share their keys mean different rows.  What a change
makes depends on the rows with the keys of its input alone (`made?_congr`),
and a change of another row leaves these (`filter_applyRows`).  So in either
order both changes enter the same rows beside the same others
(`perm_applyRows_applyRows`).  An order in which different rows tie only
when they share their keys leaves them one arrangement.
-/
import QueryCache.Proofs.ChangedRows
import QueryCache.Proofs.SortOrder

namespace QueryCache

/-! ## 1. Orders that tell rows apart -/

/-- Among the rows that satisfy `p`, different ones tie only when they share
their keys. -/
structure TellsRowsApart (primaryKeys : List Text) (orderBy : List SortKey) (p : Json → Prop) :
    Prop extends TotalPreorderOn (compareRows orderBy) p where
  ne_eq : ∀ a b, p a → p b → a ≠ b → sharesKeys primaryKeys a b = false →
    compareRows orderBy a b ≠ .eq

/-- A strict order has no ties. -/
theorem StrictOrderOn.tellsRowsApart {orderBy : List SortKey} {p : Json → Prop}
    (h : StrictOrderOn orderBy p) (primaryKeys : List Text) :
    TellsRowsApart primaryKeys orderBy p where
  toTotalPreorderOn := h.totalPreorderOn
  ne_eq a b ha hb hne _ := by
    rcases h.connected a b ha hb hne with hlt | hgt
    · simp [hlt]
    · rw [compareRows_swap, hgt]
      decide

/-- Rows with distinct keys stand in order in one way only. -/
theorem TellsRowsApart.eq_of_perm {primaryKeys : List Text} {orderBy : List SortKey}
    {p : Json → Prop} (h : TellsRowsApart primaryKeys orderBy p) {rows others : List Json}
    (hperm : rows.Perm others) (hp : ∀ row ∈ rows, p row)
    (hdistinct : DistinctKeys primaryKeys rows) (hrows : InOrder orderBy rows)
    (hothers : InOrder orderBy others) : rows = others := by
  refine hperm.eq_of_pairwise ?_ hrows hothers
  intro a b ha hb hab hba
  by_contra hne
  have hb := hperm.mem_iff.2 hb
  have htie := h.ne_eq a b (hp a ha) (hp b hb) hne (hdistinct.of_ne ha hb hne)
  rw [compareRows_swap] at hba
  cases hcompare : compareRows orderBy a b <;> simp_all

/-! ## 2. What a change leaves for another -/

namespace RowChange

/-- What a change makes is made of the rows with the keys of its input. -/
theorem made?_congr {change : RowChange} {primaryKeys : List Text} {input : Json}
    {rows others : List Json}
    (h : rows.filter (sharesKeys primaryKeys · input) =
      others.filter (sharesKeys primaryKeys · input)) :
    change.made? primaryKeys input rows = change.made? primaryKeys input others := by
  unfold made?
  rw [← List.head?_filter, ← List.head?_filter, h]

section

variable {first second : RowChange} {ctx : PatchContext} {a b : Json} {rows : List Json}
  (htransform : ctx.transform = id) (hother : sharesKeys ctx.primaryKeys a b = false)
include htransform hother

/-- A change leaves the rows with the keys of another input. -/
theorem filter_applyRows (hdistinct : DistinctKeys ctx.primaryKeys rows)
    (hfirst : first.IsKeyed ctx.primaryKeys a) :
    (first.applyRows ctx a rows).filter (sharesKeys ctx.primaryKeys · b) =
      rows.filter (sharesKeys ctx.primaryKeys · b) := by
  have hothers : (otherRows ctx.primaryKeys a rows).filter (sharesKeys ctx.primaryKeys · b) =
      rows.filter (sharesKeys ctx.primaryKeys · b) := by
    rw [otherRows, List.filter_filter]
    refine List.filter_congr fun row _ => ?_
    rcases hrow : sharesKeys ctx.primaryKeys row a with _ | _
    · simp
    · simp [sharesKeys_congr_of_shared hrow, hother]
  rw [applyRows_eq_entered htransform hdistinct]
  rcases hentered : first.entered? ctx a rows with _ | row
  · exact hothers
  · have hrow : sharesKeys ctx.primaryKeys row b = false := by
      rw [sharesKeys_congr_of_shared (sharesKeys_entered hfirst hentered), hother]
    rw [← hothers]
    exact @filter_insertIdx_of_neg _ (sharesKeys ctx.primaryKeys · b) row hrow _ _

/-- The rows that two changes enter, and the rows that neither means. -/
theorem perm_applyRows_applyRows (hdistinct : DistinctKeys ctx.primaryKeys rows)
    (hfirst : first.IsKeyed ctx.primaryKeys a) :
    (second.applyRows ctx b (first.applyRows ctx a rows)).Perm
      ((second.entered? ctx b rows).toList ++ ((first.entered? ctx a rows).toList ++
        otherRows ctx.primaryKeys b (otherRows ctx.primaryKeys a rows))) := by
  have hentered : second.entered? ctx b (first.applyRows ctx a rows) =
      second.entered? ctx b rows := by
    rw [entered?, made?_congr (filter_applyRows htransform hother hdistinct hfirst), ← entered?]
  have hkept : otherRows ctx.primaryKeys b (first.entered? ctx a rows).toList =
      (first.entered? ctx a rows).toList := by
    refine otherRows_eq_self fun row hrow => ?_
    rw [Option.mem_toList] at hrow
    rw [sharesKeys_congr_of_shared (sharesKeys_entered hfirst hrow), hother]
  have hothers : (otherRows ctx.primaryKeys b (first.applyRows ctx a rows)).Perm
      ((first.entered? ctx a rows).toList ++
        otherRows ctx.primaryKeys b (otherRows ctx.primaryKeys a rows)) := by
    have hperm := @perm_applyRows first ctx a rows htransform hdistinct
    rw [← hkept]
    refine (hperm.filter fun row => !sharesKeys ctx.primaryKeys row b).trans ?_
    rw [List.filter_append]
    exact List.Perm.refl _
  have hperm := @perm_applyRows second ctx b _ htransform
    (distinctKeys_applyRows hfirst htransform hdistinct)
  rw [hentered] at hperm
  exact hperm.trans (hothers.append_left _)

end

/-! ## 3. Either order -/

section

variable {first second : RowChange} {ctx : PatchContext} {a b : Json} {rows : List Json}
  (htransform : ctx.transform = id) (hother : sharesKeys ctx.primaryKeys a b = false)
  (hdistinct : DistinctKeys ctx.primaryKeys rows) (hsorted : InOrder ctx.orderBy rows)
  (hfirst : first.IsKeyed ctx.primaryKeys a) (hsecond : second.IsKeyed ctx.primaryKeys b)
  (horder : TellsRowsApart ctx.primaryKeys ctx.orderBy fun row => row ∈ rows ∨
    row ∈ first.applyRows ctx a rows ∨ row ∈ second.applyRows ctx b rows)
include htransform hother hdistinct hfirst

/-- A row that is there after both changes was there before them or after
one of them. -/
theorem mem_of_mem_applyRows_applyRows {row : Json}
    (h : row ∈ second.applyRows ctx b (first.applyRows ctx a rows)) :
    row ∈ rows ∨ row ∈ first.applyRows ctx a rows ∨ row ∈ second.applyRows ctx b rows := by
  have hmem := (perm_applyRows_applyRows htransform hother hdistinct hfirst).mem_iff.1 h
  rw [List.mem_append, List.mem_append, Option.mem_toList, Option.mem_toList] at hmem
  rcases hmem with hentered | hentered | hrow
  · exact Or.inr (Or.inr ((mem_applyRows htransform hdistinct).2 (Or.inl hentered)))
  · exact Or.inr (Or.inl ((mem_applyRows htransform hdistinct).2 (Or.inl hentered)))
  · exact Or.inl (mem_otherRows.1 (mem_otherRows.1 hrow).1).1

include hsorted horder

theorem inOrder_applyRows_applyRows :
    InOrder ctx.orderBy (second.applyRows ctx b (first.applyRows ctx a rows)) := by
  have htotal := horder.toTotalPreorderOn
  have hfirstSorted : InOrder ctx.orderBy (first.applyRows ctx a rows) :=
    inOrder_applyRows htransform hdistinct hsorted
      (htotal.mono fun row hrow => Or.inr (Or.inl hrow))
  exact inOrder_applyRows htransform (distinctKeys_applyRows hfirst htransform hdistinct)
    hfirstSorted (htotal.mono fun row hrow =>
      mem_of_mem_applyRows_applyRows htransform hother hdistinct hfirst hrow)

include hsecond

/-- Changes of different rows of a list, in either order. -/
theorem applyRows_comm :
    second.applyRows ctx b (first.applyRows ctx a rows) =
      first.applyRows ctx a (second.applyRows ctx b rows) := by
  have hother' : sharesKeys ctx.primaryKeys b a = false := by rwa [sharesKeys_comm]
  have horder' : TellsRowsApart ctx.primaryKeys ctx.orderBy fun row => row ∈ rows ∨
      row ∈ second.applyRows ctx b rows ∨ row ∈ first.applyRows ctx a rows := by
    simpa only [or_comm (a := _ ∈ second.applyRows ctx b rows)] using horder
  have hperm : (second.applyRows ctx b (first.applyRows ctx a rows)).Perm
      (first.applyRows ctx a (second.applyRows ctx b rows)) := by
    have hothers : otherRows ctx.primaryKeys b (otherRows ctx.primaryKeys a rows) =
        otherRows ctx.primaryKeys a (otherRows ctx.primaryKeys b rows) := by
      rw [otherRows, otherRows, List.filter_filter, otherRows, otherRows, List.filter_filter]
      exact List.filter_congr fun row _ => Bool.and_comm _ _
    refine (perm_applyRows_applyRows htransform hother hdistinct hfirst).trans ?_
    rw [hothers]
    exact (List.perm_append_comm_assoc _ _ _).trans
      (perm_applyRows_applyRows htransform hother' hdistinct hsecond).symm
  exact horder.eq_of_perm hperm
    (fun row hrow => mem_of_mem_applyRows_applyRows htransform hother hdistinct hfirst hrow)
    (distinctKeys_applyRows hsecond htransform (distinctKeys_applyRows hfirst htransform hdistinct))
    (inOrder_applyRows_applyRows htransform hother hdistinct hsorted hfirst horder)
    (inOrder_applyRows_applyRows htransform hother' hdistinct hsorted hsecond horder')

end

/-- Two changes of a cached list, one after the other. -/
theorem apply_apply {first second : RowChange} {ctx : PatchContext} {a b : Json}
    {data : CacheData} {rows : List Json} (hrows : data.flatten = some rows)
    (hplain : ∀ found, data ≠ .hasMorePages found) (limit : Nat) :
    second.apply ctx b limit (first.apply ctx a limit data) =
      data.rechunk (second.applyRows ctx b (first.applyRows ctx a rows)) limit := by
  rw [apply_of_flatten hrows, apply_of_flatten (CacheData.flatten_rechunk _ _ _)]
  exact CacheData.rechunk_rechunk (fun _ => Or.inr hplain) limit

/-- Changes of different rows of a cached list leave the same result in
either order, if the rows have distinct keys and stand in an order that
tells rows of different keys apart. -/
theorem apply_comm {first second : RowChange} {ctx : PatchContext} {a b : Json}
    {data : CacheData} {rows : List Json} (hrows : data.flatten = some rows)
    (hplain : ∀ found, data ≠ .hasMorePages found) (htransform : ctx.transform = id)
    (hdistinct : DistinctKeys ctx.primaryKeys rows) (hsorted : InOrder ctx.orderBy rows)
    (hfirst : first.IsKeyed ctx.primaryKeys a) (hsecond : second.IsKeyed ctx.primaryKeys b)
    (hother : sharesKeys ctx.primaryKeys a b = false)
    (horder : TellsRowsApart ctx.primaryKeys ctx.orderBy fun row => row ∈ rows ∨
      row ∈ first.applyRows ctx a rows ∨ row ∈ second.applyRows ctx b rows)
    (limit : Nat) :
    second.apply ctx b limit (first.apply ctx a limit data) =
      first.apply ctx a limit (second.apply ctx b limit data) := by
  rw [apply_apply hrows hplain, apply_apply hrows hplain,
    applyRows_comm htransform hother hdistinct hsorted hfirst hsecond horder]

end RowChange

/-- A list of contacts in the order of their names. -/
def contactsByName : PatchContext :=
  contactsFilter.context ["id".toList] [.asc "name".toList]

/-- The contacts that occur when one is renamed and one is entered. -/
def contactsByNameOccurring : List Json :=
  [contact 1 ['a'], contact 2 ['c'], contact 1 ['d'], contact 3 ['b']]

theorem strictOrderOn_contactsByName :
    StrictOrderOn [.asc "name".toList] (· ∈ contactsByNameOccurring) := by
  constructor
  · have hconnected : ∀ a ∈ contactsByNameOccurring, ∀ b ∈ contactsByNameOccurring, a ≠ b →
        compareRows [.asc "name".toList] a b = .lt ∨
          compareRows [.asc "name".toList] b a = .lt := by decide +kernel
    exact fun a b ha hb => hconnected a ha b hb
  · have htrans : ∀ a ∈ contactsByNameOccurring, ∀ b ∈ contactsByNameOccurring,
        ∀ c ∈ contactsByNameOccurring, compareRows [.asc "name".toList] a b = .lt →
        compareRows [.asc "name".toList] b c = .lt →
        compareRows [.asc "name".toList] a c = .lt := by decide +kernel
    exact fun a b c ha hb hc => htrans a ha b hb c hc

/-- A contact is renamed and goes behind the others, and one is entered
between them; the second page begins with the last of them either way. -/
theorem RowChange.apply_comm_contacts :
    let renamed := RowChange.mutate (rename ['d'])
    let data := CacheData.pages [[contact 1 ['a'], contact 2 ['c']]]
    sharesKeys contactsByName.primaryKeys (contact 1 ['a']) (contact 3 ['b']) = false ∧
      (RowChange.upsert none).apply contactsByName (contact 3 ['b']) 2
          (renamed.apply contactsByName (contact 1 ['a']) 2 data) =
        renamed.apply contactsByName (contact 1 ['a']) 2
          ((RowChange.upsert none).apply contactsByName (contact 3 ['b']) 2 data) ∧
      (RowChange.upsert none).apply contactsByName (contact 3 ['b']) 2
          (renamed.apply contactsByName (contact 1 ['a']) 2 data) =
        .pages [[contact 3 ['b'], contact 2 ['c']], [contact 1 ['d']]] := by
  intro renamed data
  have hrenamed : renamed.IsKeyed contactsByName.primaryKeys (contact 1 ['a']) :=
    ⟨keepsKeys_rename ['d'], by decide +kernel, ascending_contact⟩
  have hentered : (RowChange.upsert none).IsKeyed contactsByName.primaryKeys (contact 3 ['b']) :=
    ⟨trivial, by decide +kernel, ascending_contact⟩
  have hother : sharesKeys contactsByName.primaryKeys (contact 1 ['a']) (contact 3 ['b']) =
      false := by decide +kernel
  have hdistinct : DistinctKeys contactsByName.primaryKeys
      [contact 1 ['a'], contact 2 ['c']] := by
    unfold DistinctKeys
    decide +kernel
  have hsorted : InOrder contactsByName.orderBy [contact 1 ['a'], contact 2 ['c']] := by
    unfold InOrder
    decide +kernel
  have hoccurring : ∀ row, (row ∈ [contact 1 ['a'], contact 2 ['c']] ∨
      row ∈ renamed.applyRows contactsByName (contact 1 ['a'])
        [contact 1 ['a'], contact 2 ['c']] ∨
      row ∈ (RowChange.upsert none).applyRows contactsByName (contact 3 ['b'])
        [contact 1 ['a'], contact 2 ['c']]) → row ∈ contactsByNameOccurring := by
    have hrows : ∀ row ∈ [contact 1 ['a'], contact 2 ['c']] ++
        renamed.applyRows contactsByName (contact 1 ['a']) [contact 1 ['a'], contact 2 ['c']] ++
        (RowChange.upsert none).applyRows contactsByName (contact 3 ['b'])
          [contact 1 ['a'], contact 2 ['c']], row ∈ contactsByNameOccurring := by
      decide +kernel
    intro row hrow
    exact hrows row (by simpa [or_assoc] using hrow)
  refine ⟨hother, RowChange.apply_comm rfl (by simp [data]) rfl hdistinct hsorted hrenamed hentered
    hother ((strictOrderOn_contactsByName.mono hoccurring).tellsRowsApart _) 2, ?_⟩
  decide +kernel

end QueryCache
