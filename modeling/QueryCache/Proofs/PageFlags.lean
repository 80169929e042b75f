/-
QueryCache.Proofs.PageFlags — the flag of the last page in a run of
changes.

Whether more follow a list that is loaded piece by piece is written on its
last page and nowhere else.  A change builds the pages anew and takes the
flag over from the last page before it (`Patch.apply_hasMorePages`), so the
flag outlives every run in which the list keeps a page.  Without rows there
is no page to carry it: from then on the last page says that nothing
follows (`hasMore_patchAll`).
-/
import QueryCache.Proofs.RowFrame

namespace QueryCache

/-! ## 1. Flags of pages -/

/-- The flag of the last page; no more follow where there is no page. -/
def lastHasMore (pages : List HasMorePage) : Bool :=
  (pages.getLast?.map (·.hasMore)).getD false

theorem hasMore_of_mem_getLast? {pages : List HasMorePage} {page : HasMorePage}
    (h : page ∈ pages.getLast?) : page.hasMore = lastHasMore pages := by
  rw [lastHasMore, Option.mem_def.1 h]
  rfl

namespace CacheData

theorem hasMore_of_mem_dropLast_flagPages (lastHasMore : Bool) (found : List (List Json)) :
    ∀ page ∈ (flagPages lastHasMore found).dropLast, page.hasMore = true := by
  induction found using flagPages.induct with
  | case1 => simp [flagPages]
  | case2 rows => simp [flagPages]
  | case3 rows rest hrest ih =>
    have hne : flagPages lastHasMore rest ≠ [] := by
      intro hnil
      rw [← map_data_flagPages lastHasMore rest, hnil] at hrest
      exact hrest rfl
    intro page hpage
    simp only [flagPages, List.dropLast_cons_of_ne_nil hne, List.mem_cons] at hpage
    rcases hpage with rfl | hpage
    · rfl
    · exact ih page hpage

/-- Pages that there are take the flag over. -/
theorem lastHasMore_flagPages (flag : Bool) {found : List (List Json)}
    (hne : flagPages flag found ≠ []) : lastHasMore (flagPages flag found) = flag := by
  have hfound : found ≠ [] := by
    rintro rfl
    exact hne rfl
  rw [lastHasMore, hasMore_getLast?_flagPages flag hfound]
  rfl

end CacheData

/-! ## 2. One change -/

/-- A change of one row of a cached result, with what its query contributes
and the number of rows on a page. -/
structure Patch where
  change : RowChange
  ctx : PatchContext
  input : Json
  limit : Nat

/-- The result with the change carried into it. -/
def Patch.apply (patch : Patch) (data : CacheData) : CacheData :=
  patch.change.apply patch.ctx patch.input patch.limit data

/-- The pages after a change: more follow all but the last one, which takes
its flag over if there is one. -/
theorem Patch.apply_hasMorePages (patch : Patch) (pages : List HasMorePage) :
    ∃ found, patch.apply (.hasMorePages pages) = .hasMorePages found ∧
      (∀ page ∈ found.dropLast, page.hasMore = true) ∧
      (found ≠ [] → lastHasMore found = lastHasMore pages) :=
  ⟨_, RowChange.apply_of_flatten rfl, CacheData.hasMore_of_mem_dropLast_flagPages _ _,
    CacheData.lastHasMore_flagPages _⟩

/-! ## 3. Runs -/

/-- The result after changes carried into it one after the other. -/
def CacheData.patchAll (data : CacheData) (patches : List Patch) : CacheData :=
  patches.foldl (fun data patch => patch.apply data) data

/-- At the start of a run, or after one of its changes, the list has no
page. -/
def RunsEmpty (pages : List HasMorePage) (patches : List Patch) : Prop :=
  ∃ n, (CacheData.hasMorePages pages).patchAll (patches.take n) = .hasMorePages []

section

variable {pages found : List HasMorePage} {patch : Patch} {patches : List Patch}

theorem runsEmpty_nil : RunsEmpty pages [] ↔ pages = [] := by
  simp [RunsEmpty, CacheData.patchAll]

theorem runsEmpty_cons (hpatch : patch.apply (.hasMorePages pages) = .hasMorePages found) :
    RunsEmpty pages (patch :: patches) ↔ pages = [] ∨ RunsEmpty found patches := by
  constructor
  · rintro ⟨_ | n, hn⟩
    · exact Or.inl (CacheData.hasMorePages.inj hn)
    · refine Or.inr ⟨n, ?_⟩
      rwa [CacheData.patchAll, List.take_succ_cons, List.foldl_cons, hpatch] at hn
  · rintro (rfl | ⟨n, hn⟩)
    · exact ⟨0, rfl⟩
    · refine ⟨n + 1, ?_⟩
      rwa [CacheData.patchAll, List.take_succ_cons, List.foldl_cons, hpatch]

end

/-- The flag after a run is the one before it, unless the list ran empty:
then nothing follows. -/
theorem lastHasMore_patchAll (pages : List HasMorePage) (patches : List Patch) :
    ∃ found, (CacheData.hasMorePages pages).patchAll patches = .hasMorePages found ∧
      (patches ≠ [] → ∀ page ∈ found.dropLast, page.hasMore = true) ∧
      (¬ RunsEmpty pages patches → lastHasMore found = lastHasMore pages) ∧
      (RunsEmpty pages patches → lastHasMore found = false) := by
  induction patches generalizing pages with
  | nil =>
    refine ⟨pages, rfl, fun h => absurd rfl h, fun _ => rfl, fun hempty => ?_⟩
    rw [runsEmpty_nil.1 hempty]
    rfl
  | cons patch rest ih =>
    obtain ⟨next, hnext, hearlier, hflag⟩ := patch.apply_hasMorePages pages
    obtain ⟨found, hfound, hearlierRest, hkept, hlost⟩ := ih next
    rw [runsEmpty_cons hnext]
    refine ⟨found, ?_, ?_, ?_, ?_⟩
    · rw [CacheData.patchAll, List.foldl_cons, hnext]
      exact hfound
    · intro _
      rcases rest with _ | ⟨second, rest⟩
      · rw [← CacheData.hasMorePages.inj hfound]
        exact hearlier
      · exact hearlierRest (by simp)
    · intro hnever
      obtain ⟨-, hrest⟩ := not_or.1 hnever
      have hne : next ≠ [] := by
        rintro rfl
        exact hrest ⟨0, rfl⟩
      rw [hkept hrest, hflag hne]
    · intro hempty
      by_cases hrest : RunsEmpty next rest
      · exact hlost hrest
      · -- The run began without a page, and the pages since then took that over.
        obtain rfl := hempty.resolve_right hrest
        have hne : next ≠ [] := by
          rintro rfl
          exact hrest ⟨0, rfl⟩
        rw [hkept hrest, hflag hne]
        rfl

/-- After a run of changes, of any kinds and with any inputs, filters,
orders and page sizes, more follow every page but the last one.  The last
one says what the last page said before the run, if the list had a page all
the time, and that nothing follows if it had none at some point. -/
theorem hasMore_patchAll (pages : List HasMorePage) (patches : List Patch) :
    ∃ found, (CacheData.hasMorePages pages).patchAll patches = .hasMorePages found ∧
      (patches ≠ [] → ∀ page ∈ found.dropLast, page.hasMore = true) ∧
      ∀ page ∈ found.getLast?,
        (¬ RunsEmpty pages patches → page.hasMore = lastHasMore pages) ∧
        (RunsEmpty pages patches → page.hasMore = false) := by
  obtain ⟨found, hfound, hearlier, hkept, hlost⟩ := lastHasMore_patchAll pages patches
  refine ⟨found, hfound, hearlier, fun page hpage => ?_⟩
  rw [hasMore_of_mem_getLast? hpage]
  exact ⟨hkept, hlost⟩

/-- A change of the contacts, two of them on a page. -/
def contactsPatch (change : RowChange) (input : Json) : Patch where
  change
  ctx := { primaryKeys := ["id".toList], accepts := contactsFilter.accepts }
  input
  limit := 2

/-- Of three contacts two are deleted and another two are entered: more
follow the second page, as before. -/
theorem hasMore_patchAll_contacts :
    let pages : List HasMorePage :=
      [⟨[contact 1 ['a'], contact 2 ['b']], true⟩, ⟨[contact 3 ['c']], true⟩]
    let patches := [contactsPatch .delete (contact 1 ['a']),
      contactsPatch .delete (contact 3 ['c']), contactsPatch (.upsert none) (contact 4 ['d']),
      contactsPatch (.upsert none) (contact 5 ['e'])]
    ¬ RunsEmpty pages patches ∧ ∃ found,
      (CacheData.hasMorePages pages).patchAll patches = .hasMorePages found ∧
      found.map (·.data) = [[contact 5 ['e'], contact 4 ['d']], [contact 2 ['b']]] ∧
      (∀ page ∈ found.dropLast, page.hasMore = true) ∧
      ∀ page ∈ found.getLast?, page.hasMore = true := by
  intro pages patches
  have hnever : ¬ RunsEmpty pages patches := by
    have hshort : ∀ n < 5, (CacheData.hasMorePages pages).patchAll (patches.take n) ≠
        .hasMorePages [] := by decide +kernel
    rintro ⟨n, hn⟩
    by_cases hlt : n < 5
    · exact hshort n hlt hn
    · have hall : patches.take n = patches.take 4 := by
        rw [List.take_of_length_le (show patches.length ≤ n by simp [patches]; omega),
          List.take_of_length_le (show patches.length ≤ 4 by simp [patches])]
      rw [hall] at hn
      exact hshort 4 (by decide) hn
  obtain ⟨found, hfound, hearlier, hlast⟩ := hasMore_patchAll pages patches
  refine ⟨hnever, found, hfound, ?_, hearlier (by simp [patches]), fun page hpage => ?_⟩
  · have hrows : (CacheData.hasMorePages pages).patchAll patches =
        .hasMorePages [⟨[contact 5 ['e'], contact 4 ['d']], true⟩, ⟨[contact 2 ['b']], true⟩] := by
      decide +kernel
    rw [hfound] at hrows
    rw [CacheData.hasMorePages.inj hrows]
    rfl
  · exact (hlast page hpage).1 hnever

/-- When the only contact is deleted and another one is entered, the page
of that one says that nothing follows, although more followed before. -/
theorem flag_lost_with_last_row :
    lastHasMore [⟨[contact 1 ['a']], true⟩] = true ∧
      (CacheData.hasMorePages [⟨[contact 1 ['a']], true⟩]).patchAll
          [contactsPatch .delete (contact 1 ['a']),
            contactsPatch (.upsert none) (contact 2 ['b'])] =
        .hasMorePages [⟨[contact 2 ['b']], false⟩] := by
  decide +kernel

end QueryCache
