/-
QueryCache.Proofs.Reshape.Reordered — the order of the paths of a row.

Paths that differ in their order alone have the same routes, so each level
has the same slots, in another order (`mem_ofRoutes_iff`).  When columns
that share a key are one column, and relations that share a key are one
relation, the rows and the columns that a level answers do not depend on
the order.  A wildcard does: it is not read behind a relation with its key
that has rows.  So the order never shows exactly when every level with
wildcards has one whose key no relation has (`denormalize_perm_iff`).  One
direction goes by induction on the length of the routes; for the other one
a row is built in which every relation is null and one column belongs to
nobody.
-/
import Mathlib
import QueryCache.Proofs.Reshape.Columns

namespace QueryCache

namespace Slot

/-! ## 1. Levels of routes -/

/-- At the level behind the keys `above`, a route ends in these two. -/
def HasColumn (routes : List (List (Text × Text))) (above : List (Text × Text))
    (segment key : Text) : Prop :=
  above ++ [(segment, key)] ∈ routes

/-- There a route goes on through these two. -/
def HasRelation (routes : List (List (Text × Text))) (above : List (Text × Text))
    (segment key : Text) : Prop :=
  ∃ next rest, above ++ (segment, key) :: next :: rest ∈ routes

/-- At every level columns that share a key are one, and so are relations that
share a key. -/
structure AreApart (routes : List (List (Text × Text))) : Prop where
  columns : ∀ above key segment other, HasColumn routes above segment key →
    HasColumn routes above other key → segment = other
  relations : ∀ above key segment other, HasRelation routes above segment key →
    HasRelation routes above other key → segment = other

/-- Every level with a wildcard has one whose key is that of no relation but
its own. -/
def HaveFreeWildcards (routes : List (List (Text × Text))) : Prop :=
  ∀ above key, HasColumn routes above ['*'] key → ∃ free, HasColumn routes above ['*'] free ∧
    ∀ segment, HasRelation routes above segment free → segment = ['*']

/-! ## 2. Levels can be searched -/

/-- The places of a route: the keys above, the two keys there, and what is
left. -/
def places : List (Text × Text) → List (List (Text × Text) × (Text × Text) × List (Text × Text))
  | [] => []
  | first :: rest =>
    ([], first, rest) :: (places rest).map fun place => (first :: place.1, place.2)

theorem mem_places {route above rest : List (Text × Text)} {first : Text × Text} :
    (above, first, rest) ∈ places route ↔ route = above ++ first :: rest := by
  induction route generalizing above with
  | nil => simp [places]
  | cons head others ih =>
    rw [places, List.mem_cons, List.mem_map]
    constructor
    · rintro (heq | ⟨place, hplace, heq⟩)
      · simp only [Prod.mk.injEq] at heq
        obtain ⟨rfl, rfl, rfl⟩ := heq
        rfl
      · obtain ⟨before, step, left⟩ := place
        simp only [Prod.mk.injEq] at heq
        obtain ⟨rfl, rfl, rfl⟩ := heq
        rw [ih.1 hplace]
        rfl
    · intro heq
      rcases above with _ | ⟨second, above⟩
      · obtain ⟨rfl, rfl⟩ := List.cons.inj heq
        exact Or.inl rfl
      · obtain ⟨rfl, hothers⟩ := List.cons.inj heq
        exact Or.inr ⟨_, ih.2 hothers, rfl⟩

theorem hasColumn_iff {routes : List (List (Text × Text))} {above : List (Text × Text)}
    {segment key : Text} :
    HasColumn routes above segment key ↔
      (above, (segment, key), []) ∈ routes.flatMap places := by
  simp only [HasColumn, List.mem_flatMap, mem_places, exists_eq_right]

theorem hasRelation_iff {routes : List (List (Text × Text))} {above : List (Text × Text)}
    {segment key : Text} :
    HasRelation routes above segment key ↔
      ∃ rest, rest ≠ [] ∧ (above, (segment, key), rest) ∈ routes.flatMap places := by
  simp only [HasRelation, List.mem_flatMap, mem_places, exists_eq_right]
  constructor
  · rintro ⟨next, rest, hmem⟩
    exact ⟨next :: rest, List.cons_ne_nil _ _, hmem⟩
  · rintro ⟨rest, hne, hmem⟩
    obtain ⟨next, others, rfl⟩ := List.exists_cons_of_ne_nil hne
    exact ⟨next, others, hmem⟩

instance (routes : List (List (Text × Text))) : Decidable (AreApart routes) :=
  decidable_of_iff (∀ a ∈ routes.flatMap places, ∀ b ∈ routes.flatMap places, a.1 = b.1 →
    a.2.1.2 = b.2.1.2 → a.2.2.isEmpty = b.2.2.isEmpty → a.2.1.1 = b.2.1.1) <| by
    constructor
    · intro h
      refine ⟨fun above key segment other hsegment hother => ?_,
        fun above key segment other hsegment hother => ?_⟩
      · exact h _ (hasColumn_iff.1 hsegment) _ (hasColumn_iff.1 hother) rfl rfl rfl
      · obtain ⟨rest, hrest, hmem⟩ := hasRelation_iff.1 hsegment
        obtain ⟨others, hothers, hotherMem⟩ := hasRelation_iff.1 hother
        exact h _ hmem _ hotherMem rfl rfl <| by
          rw [List.isEmpty_eq_false_iff.2 hrest, List.isEmpty_eq_false_iff.2 hothers]
    · rintro h ⟨above, ⟨segment, key⟩, rest⟩ ha ⟨_, ⟨other, _⟩, others⟩ hb rfl rfl hempty
      rcases rest with _ | ⟨next, rest⟩
      · obtain rfl : others = [] := by simpa using hempty
        exact h.columns _ _ _ _ (hasColumn_iff.2 ha) (hasColumn_iff.2 hb)
      · have hothers : others ≠ [] := by rintro rfl; simp at hempty
        exact h.relations _ _ _ _ (hasRelation_iff.2 ⟨_, List.cons_ne_nil _ _, ha⟩)
          (hasRelation_iff.2 ⟨_, hothers, hb⟩)

instance (routes : List (List (Text × Text))) : Decidable (HaveFreeWildcards routes) :=
  decidable_of_iff (∀ a ∈ routes.flatMap places, a.2.2 = [] → a.2.1.1 = ['*'] →
    ∃ b ∈ routes.flatMap places, b.1 = a.1 ∧ b.2.2 = [] ∧ b.2.1.1 = ['*'] ∧
      ∀ c ∈ routes.flatMap places, c.1 = a.1 → c.2.1.2 = b.2.1.2 → c.2.2 ≠ [] →
        c.2.1.1 = ['*']) <| by
    constructor
    · intro h above key hkey
      obtain ⟨⟨_, ⟨_, free⟩, _⟩, hmem, rfl, rfl, rfl, hfree⟩ := h _ (hasColumn_iff.1 hkey) rfl rfl
      refine ⟨free, hasColumn_iff.2 hmem, fun segment hrelation => ?_⟩
      obtain ⟨rest, hrest, hplace⟩ := hasRelation_iff.1 hrelation
      exact hfree _ hplace rfl rfl hrest
    · rintro h ⟨above, ⟨_, key⟩, _⟩ hmem rfl rfl
      obtain ⟨free, hfree, halone⟩ := h above key (hasColumn_iff.2 hmem)
      refine ⟨_, hasColumn_iff.1 hfree, rfl, rfl, rfl, ?_⟩
      rintro ⟨_, ⟨segment, _⟩, rest⟩ hplace rfl rfl hrest
      exact halone segment (hasRelation_iff.2 ⟨rest, hrest, hplace⟩)

section

variable {routes others : List (List (Text × Text))}

theorem hasColumn_behind {first : Text × Text} {above : List (Text × Text)}
    {segment key : Text} :
    HasColumn (behind first routes) above segment key ↔
      HasColumn routes (first :: above) segment key := by
  rw [HasColumn, mem_behind, HasColumn, List.cons_append]
  exact and_iff_right (by simp)

theorem hasRelation_behind {first : Text × Text} {above : List (Text × Text)}
    {segment key : Text} :
    HasRelation (behind first routes) above segment key ↔
      HasRelation routes (first :: above) segment key := by
  simp only [HasRelation, mem_behind, List.cons_append]
  exact exists_congr fun next => exists_congr fun rest => and_iff_right (by simp)

theorem AreApart.behind (h : AreApart routes) (first : Text × Text) :
    AreApart (behind first routes) where
  columns above key segment other hsegment hother :=
    h.columns (first :: above) key segment other (hasColumn_behind.1 hsegment)
      (hasColumn_behind.1 hother)
  relations above key segment other hsegment hother :=
    h.relations (first :: above) key segment other (hasRelation_behind.1 hsegment)
      (hasRelation_behind.1 hother)

theorem HaveFreeWildcards.behind (h : HaveFreeWildcards routes) (first : Text × Text) :
    HaveFreeWildcards (behind first routes) := by
  intro above key hwildcard
  obtain ⟨free, hfree, halone⟩ := h (first :: above) key (hasColumn_behind.1 hwildcard)
  exact ⟨free, hasColumn_behind.2 hfree, fun segment hrelation =>
    halone segment (hasRelation_behind.1 hrelation)⟩

/-! ## 3. The slots of a level -/

theorem isLeaf_ofStep_iff {first : Text × Text} :
    (ofStep first routes).isLeaf = true ↔ HasColumn routes [] first.1 first.2 :=
  decide_eq_true_iff

theorem inner_ofStep_ne_nil_iff {first : Text × Text} :
    (ofStep first routes).inner ≠ [] ↔ HasRelation routes [] first.1 first.2 := by
  rw [ofStep, inner, Ne, ofRoutes_eq_nil_iff]
  simp only [mem_behind, not_forall]
  constructor
  · rintro ⟨rest, ⟨hne, hmem⟩, -⟩
    obtain ⟨next, others, rfl⟩ := List.exists_cons_of_ne_nil hne
    exact ⟨next, others, hmem⟩
  · rintro ⟨next, rest, hmem⟩
    exact ⟨next :: rest, ⟨List.cons_ne_nil _ _, hmem⟩, List.cons_ne_nil _ _⟩

theorem inner_ne_nil_of_below? {source : Fields Json} {segment : Text} {inner : List Slot}
    {value : Json} (h : below? source segment inner = some value) : inner ≠ [] := by
  rintro rfl
  simp [below?] at h

/-- Where relations are apart, one at most has rows under a name. -/
theorem rows?_unique (h : AreApart routes) {source : Fields Json} {name : Text}
    {slot other : Slot} (hslot : slot ∈ ofRoutes routes) (hother : other ∈ ofRoutes routes)
    {value found : Json} (hvalue : rows? source name slot = some value)
    (hfound : rows? source name other = some found) : found = value := by
  obtain ⟨first, -, rfl⟩ := mem_ofRoutes_iff.1 hslot
  obtain ⟨second, -, rfl⟩ := mem_ofRoutes_iff.1 hother
  obtain ⟨hkey, hbelow⟩ := Option.ite_none_right_eq_some.1 hvalue
  obtain ⟨hotherKey, hotherBelow⟩ := Option.ite_none_right_eq_some.1 hfound
  have hrelation := inner_ofStep_ne_nil_iff.1 (inner_ne_nil_of_below? hbelow)
  have hotherRelation := inner_ofStep_ne_nil_iff.1 (inner_ne_nil_of_below? hotherBelow)
  have hkeys : first.2 = second.2 := hkey.trans hotherKey.symm
  rw [← hkeys] at hotherRelation
  obtain rfl : first = second :=
    Prod.ext (h.relations [] first.2 first.1 second.1 hrelation hotherRelation) hkeys
  exact Option.some.inj (hfound.symm.trans hvalue)

/-- Where columns are apart, one at most is selected under a name. -/
theorem column?_unique (h : AreApart routes) {source : Fields Json} {name : Text}
    {slot other : Slot} (hslot : slot ∈ ofRoutes routes) (hother : other ∈ ofRoutes routes)
    {value found : Json} (hvalue : column? source name slot = some value)
    (hfound : column? source name other = some found) : found = value := by
  obtain ⟨first, -, rfl⟩ := mem_ofRoutes_iff.1 hslot
  obtain ⟨second, -, rfl⟩ := mem_ofRoutes_iff.1 hother
  obtain ⟨⟨hleaf, -, hkey⟩, -⟩ := Option.ite_none_right_eq_some.1 hvalue
  obtain ⟨⟨hotherLeaf, -, hotherKey⟩, -⟩ := Option.ite_none_right_eq_some.1 hfound
  have hcolumn := isLeaf_ofStep_iff.1 hleaf
  have hotherColumn := isLeaf_ofStep_iff.1 hotherLeaf
  have hkeys : first.2 = second.2 := hkey.trans hotherKey.symm
  rw [← hkeys] at hotherColumn
  obtain rfl : first = second :=
    Prod.ext (h.columns [] first.2 first.1 second.1 hcolumn hotherColumn) hkeys
  exact Option.some.inj (hfound.symm.trans hvalue)

/-- With a free wildcard at the level, a wildcard is read if there is one. -/
theorem readsAll_ofRoutes_iff (h : HaveFreeWildcards routes) (source : Fields Json) :
    readsAll source (ofRoutes routes).reverse = true ↔ ∃ key, HasColumn routes [] ['*'] key := by
  rw [readsAll_iff]
  constructor
  · rintro ⟨front, star, back, hslots, hwildcard, -⟩
    have hmem : star ∈ ofRoutes routes := by simp [hslots]
    obtain ⟨first, -, rfl⟩ := mem_ofRoutes_iff.1 hmem
    obtain ⟨hleaf, hsegment⟩ := isWildcard_iff.1 hwildcard
    have hcolumn := isLeaf_ofStep_iff.1 hleaf
    rw [show first.1 = ['*'] from hsegment] at hcolumn
    exact ⟨first.2, hcolumn⟩
  · rintro ⟨key, hkey⟩
    obtain ⟨free, hfree, halone⟩ := h [] key hkey
    have hmem : ofStep (['*'], free) routes ∈ ofRoutes routes :=
      mem_ofRoutes_iff.2 ⟨_, begins_iff.2 ⟨[], hfree⟩, rfl⟩
    obtain ⟨front, back, hslots⟩ := List.append_of_mem hmem
    refine ⟨front, _, back, hslots, isWildcard_iff.2 ⟨isLeaf_ofStep_iff.2 hfree, rfl⟩, ?_⟩
    intro slot hslot
    rw [rows?]
    split
    · rename_i hslotKey
      rcases hbelow : below? source slot.segment slot.inner with _ | value
      · rfl
      · -- The slot would be that of the wildcard itself.
        exfalso
        obtain ⟨first, -, rfl⟩ := mem_ofRoutes_iff.1
          (hslots ▸ List.mem_append_left _ hslot : slot ∈ ofRoutes routes)
        have hrelation := inner_ofStep_ne_nil_iff.1 (inner_ne_nil_of_below? hbelow)
        have hfirst : first = (['*'], free) := by
          have hkey : first.2 = free := hslotKey
          rw [hkey] at hrelation
          exact Prod.ext (halone first.1 hrelation) hkey
        have hnodup := nodup_steps routes
        rw [hslots, List.map_append, List.map_cons, List.nodup_middle, List.nodup_cons] at hnodup
        refine hnodup.1 (List.mem_append_left _ (List.mem_map.2 ⟨_, hslot, ?_⟩))
        rw [step_ofStep, step_ofStep, hfirst]
    · rfl

/-! ## 4. The same routes -/

section

variable (h : ∀ route, route ∈ routes ↔ route ∈ others)
include h

theorem begins_congr (first : Text × Text) : begins first routes = begins first others := by
  rw [Bool.eq_iff_iff, begins_iff, begins_iff]
  exact exists_congr fun rest => h _

theorem mem_behind_congr (first : Text × Text) (rest : List (Text × Text)) :
    rest ∈ behind first routes ↔ rest ∈ behind first others := by
  rw [mem_behind, mem_behind, h]

theorem AreApart.congr (happart : AreApart routes) : AreApart others := by
  have hcolumn : ∀ above segment key, HasColumn others above segment key →
      HasColumn routes above segment key := fun _ _ _ => (h _).2
  have hrelation : ∀ above segment key, HasRelation others above segment key →
      HasRelation routes above segment key :=
    fun _ _ _ ⟨next, rest, hmem⟩ => ⟨next, rest, (h _).2 hmem⟩
  exact ⟨fun above key segment other hsegment hother => happart.columns above key segment other
      (hcolumn _ _ _ hsegment) (hcolumn _ _ _ hother),
    fun above key segment other hsegment hother => happart.relations above key segment other
      (hrelation _ _ _ hsegment) (hrelation _ _ _ hother)⟩

theorem HaveFreeWildcards.congr (hfree : HaveFreeWildcards routes) : HaveFreeWildcards others := by
  intro above key hwildcard
  obtain ⟨free, hmem, halone⟩ := hfree above key ((h _).2 hwildcard)
  exact ⟨free, (h _).1 hmem, fun segment ⟨next, rest, hrelation⟩ =>
    halone segment ⟨next, rest, (h _).2 hrelation⟩⟩

theorem claimed_congr (name : Text) :
    (claimed (ofRoutes routes)).contains name = (claimed (ofRoutes others)).contains name := by
  have hclaims : ∀ routes, (claimed (ofRoutes routes)).contains name = true ↔
      ∃ first, begins first routes = true ∧ Segment.bareName first.1 = name := by
    intro routes
    simp only [claimed, List.contains_iff_mem, List.mem_map, mem_ofRoutes_iff]
    constructor
    · rintro ⟨_, ⟨first, hbegins, rfl⟩, hname⟩
      exact ⟨first, hbegins, hname⟩
    · rintro ⟨first, hbegins, hname⟩
      exact ⟨_, ⟨first, hbegins, rfl⟩, hname⟩
  rw [Bool.eq_iff_iff, hclaims, hclaims]
  simp only [begins_congr h]

/-- What one slot at most holds is held in any order of the routes. -/
theorem last?_congr {read : Slot → Option Json}
    (hread : ∀ first, read (ofStep first routes) = read (ofStep first others))
    (hunique : ∀ slot ∈ ofRoutes routes, ∀ other ∈ ofRoutes routes, ∀ value found,
      read slot = some value → read other = some found → found = value) :
    last? read (ofRoutes routes) = last? read (ofRoutes others) := by
  rcases hlast : last? read (ofRoutes others) with _ | value
  · refine last?_eq_none_iff.2 fun slot hslot => ?_
    obtain ⟨first, hbegins, rfl⟩ := mem_ofRoutes_iff.1 hslot
    rw [begins_congr h] at hbegins
    rw [hread]
    exact last?_eq_none_iff.1 hlast _ (mem_ofRoutes_iff.2 ⟨first, hbegins, rfl⟩)
  · obtain ⟨slot, hslot, hvalue⟩ := List.exists_of_findSome?_eq_some hlast
    obtain ⟨first, hbegins, rfl⟩ := mem_ofRoutes_iff.1 (List.mem_reverse.1 hslot)
    rw [← begins_congr h] at hbegins
    rw [← hread] at hvalue
    have hmem := mem_ofRoutes_iff.2 ⟨first, hbegins, rfl⟩
    exact last?_eq_some hmem hvalue fun other hother found => hunique _ hmem other hother _ _ hvalue

end

end

/-- The same routes in any order shape rows alike. -/
theorem reshapeFields_ofRoutes_congr (size : Nat) : ∀ {routes others : List (List (Text × Text))},
    (∀ route ∈ routes, route.length < size) → (∀ route, route ∈ routes ↔ route ∈ others) →
    AreApart routes → HaveFreeWildcards routes → ∀ source,
    reshapeFields (ofRoutes routes) source = reshapeFields (ofRoutes others) source := by
  induction size with
  | zero =>
    intro routes others hsize h _ _ source
    have hroutes : routes = [] := List.eq_nil_iff_forall_not_mem.2 fun route hmem =>
      Nat.not_lt_zero _ (hsize route hmem)
    have hothers : others = [] := List.eq_nil_iff_forall_not_mem.2 fun route hmem => by
      rw [← h, hroutes] at hmem
      contradiction
    rw [hroutes, hothers]
  | succ size ih =>
    intro routes others hsize h hapart hfree source
    -- Below every slot there are the same routes again.
    have hinner : ∀ first, reshapeFields (ofStep first routes).inner =
        reshapeFields (ofStep first others).inner := fun first => funext fun source =>
      ih (fun rest hrest => Nat.lt_of_succ_lt_succ (hsize _ (mem_behind.1 hrest).2))
        (mem_behind_congr h first) (hapart.behind first) (hfree.behind first) source
    have hempty : ∀ first, (ofStep first routes).inner.isEmpty =
        (ofStep first others).inner.isEmpty := by
      intro first
      rw [Bool.eq_iff_iff, List.isEmpty_iff, List.isEmpty_iff, ← not_iff_not]
      rw [← Ne, ← Ne, inner_ofStep_ne_nil_iff, inner_ofStep_ne_nil_iff]
      exact exists_congr fun next => exists_congr fun rest => h _
    have hrows : ∀ name first, rows? source name (ofStep first routes) =
        rows? source name (ofStep first others) := by
      intro name first
      simp only [rows?, below?, hempty first, hinner first]
      rfl
    have hcolumn : ∀ name first, column? source name (ofStep first routes) =
        column? source name (ofStep first others) := by
      intro name first
      have hleaf : (ofStep first routes).isLeaf = (ofStep first others).isLeaf :=
        decide_eq_decide.2 (h _)
      simp only [column?, hleaf]
      rfl
    have hreads : readsAll source (ofRoutes routes).reverse =
        readsAll source (ofRoutes others).reverse := by
      rw [Bool.eq_iff_iff, readsAll_ofRoutes_iff hfree, readsAll_ofRoutes_iff (hfree.congr h)]
      exact exists_congr fun key => h _
    refine Fields.ext_of_ascending (ascending_reshapeFields _ _) (ascending_reshapeFields _ _)
      fun name => ?_
    rw [get?_reshapeFields, get?_reshapeFields,
      last?_congr h (hrows name) fun _ hslot _ hother _ _ => rows?_unique hapart hslot hother,
      last?_congr h (hcolumn name) fun _ hslot _ hother _ _ => column?_unique hapart hslot hother,
      takenOver?, takenOver?, hreads, claimed_congr h]

/-! ## 5. A row that shows the order -/

/-- The routes of the level behind the keys. -/
def levelOf (above : List (Text × Text)) (routes : List (List (Text × Text))) :
    List (List (Text × Text)) :=
  above.foldl (fun routes first => behind first routes) routes

theorem levelOf_append (above : List (Text × Text)) (front back : List (List (Text × Text))) :
    levelOf above (front ++ back) = levelOf above front ++ levelOf above back := by
  induction above generalizing front back with
  | nil => rfl
  | cons first above ih => exact (congrArg _ (behind_append first front back)).trans (ih _ _)

theorem mem_levelOf {above route : List (Text × Text)} {routes : List (List (Text × Text))}
    (hne : route ≠ []) : route ∈ levelOf above routes ↔ above ++ route ∈ routes := by
  induction above generalizing routes with
  | nil => rfl
  | cons first above ih =>
    rw [levelOf, List.foldl_cons, ← levelOf, ih, mem_behind]
    exact and_iff_right (List.append_ne_nil_of_right_ne_nil _ hne)

/-- An object that leads to a source of the level behind the keys. -/
def nest : List (Text × Text) → Fields Json → Fields Json
  | [], source => source
  | (segment, _) :: above, source => [(segment, .obj (nest above source))]

/-- Where the routes lead to a level, the row shows what the level makes of
its source. -/
theorem get?_nest {routes : List (List (Text × Text))} (h : AreApart routes)
    {first : Text × Text} {above : List (Text × Text)} (hbehind : behind first routes ≠ [])
    (source : Fields Json) :
    Fields.get? first.2 (reshapeFields (ofRoutes routes) (nest (first :: above) source)) =
      some (.obj (reshapeFields (ofRoutes (behind first routes)) (nest above source))) := by
  obtain ⟨rest, hrest⟩ := List.exists_mem_of_ne_nil _ hbehind
  obtain ⟨hne, hmem⟩ := mem_behind.1 hrest
  have hslot : ofStep first routes ∈ ofRoutes routes :=
    mem_ofRoutes_iff.2 ⟨first, begins_iff.2 ⟨rest, hmem⟩, rfl⟩
  have hinner : (ofStep first routes).inner ≠ [] := by
    obtain ⟨next, others, rfl⟩ := List.exists_cons_of_ne_nil hne
    exact inner_ofStep_ne_nil_iff.2 ⟨next, others, hmem⟩
  have hlookup : lookup? (nest (first :: above) source) (ofStep first routes).segment =
      some (.obj (nest above source)) := by
    rw [lookup?, nest, ofStep, segment, Fields.get?_cons, if_pos rfl]
    rfl
  have hrows : rows? (nest (first :: above) source) first.2 (ofStep first routes) =
      some (.obj (reshapeFields (ofRoutes (behind first routes)) (nest above source))) := by
    rw [rows?, if_pos (by rfl), below?, if_neg (by simpa using hinner), related?, hlookup]
    rfl
  rw [get?_reshapeFields, last?_eq_some hslot hrows fun other hother found =>
    rows?_unique h hslot hother hrows]
  rfl

/-- So rows that are alike are alike at every level. -/
theorem reshapeFields_levelOf {above : List (Text × Text)} {source : Fields Json} :
    ∀ {routes others : List (List (Text × Text))}, AreApart routes → AreApart others →
    levelOf above routes ≠ [] → levelOf above others ≠ [] →
    reshapeFields (ofRoutes routes) (nest above source) =
      reshapeFields (ofRoutes others) (nest above source) →
    reshapeFields (ofRoutes (levelOf above routes)) source =
      reshapeFields (ofRoutes (levelOf above others)) source := by
  induction above with
  | nil => exact fun _ _ _ _ heq => heq
  | cons first above ih =>
    intro routes others hroutes hothers hlevel hotherLevel heq
    have hnil : levelOf above [] = [] := by
      clear ih hlevel hotherLevel heq
      induction above with
      | nil => rfl
      | cons second above ih => exact ih
    have hbehind : ∀ routes, levelOf (first :: above) routes ≠ [] → behind first routes ≠ [] := by
      intro routes hne hempty
      rw [levelOf, List.foldl_cons, ← levelOf, hempty] at hne
      exact hne hnil
    have hvalues := congrArg (Fields.get? first.2) heq
    rw [get?_nest hroutes (hbehind _ hlevel), get?_nest hothers (hbehind _ hotherLevel),
      Option.some.injEq, Json.obj.injEq] at hvalues
    exact ih (hroutes.behind first) (hothers.behind first) hlevel hotherLevel hvalues

/-- A name that is not among given ones, and is nothing but a name. -/
theorem exists_fresh (names : List Text) :
    ∃ fresh, fresh ∉ names ∧ Segment.bareName (Text.upTo '.' fresh) = fresh := by
  have hmarks : ∀ c : Char, c ≠ 'x' → c ∉ List.replicate (names.flatten.length + 1) 'x' :=
    fun c hne hmem => hne (List.eq_of_mem_replicate hmem)
  refine ⟨List.replicate (names.flatten.length + 1) 'x', fun hmem => ?_, ?_⟩
  · have hlength := (List.sublist_flatten_of_mem hmem).length_le
    rw [List.length_replicate] at hlength
    omega
  · rw [Text.upTo_of_not_mem (hmarks '.' (by decide)), Segment.bareName, Segment.stripHints,
      Text.upTo_of_not_mem (hmarks '!' (by decide)),
      Text.upToCast_of_not_mem (hmarks ':' (by decide))]

/-- A wildcard behind a relation with its key that has rows is not read. -/
theorem readsAll_append_eq_false {source : Fields Json} {front back : List Slot}
    (hfront : ∀ slot ∈ front, slot.isWildcard = false)
    (hback : ∀ star ∈ back, ∃ slot ∈ front, rows? source star.key slot ≠ none) :
    readsAll source (front ++ back).reverse = false := by
  induction back using List.reverseRecOn with
  | nil =>
    rw [List.append_nil, ← Bool.not_eq_true, readsAll_iff]
    rintro ⟨before, star, after, rfl, hstar, -⟩
    rw [hfront star (by simp)] at hstar
    contradiction
  | append_singleton back star ih =>
    obtain ⟨slot, hslot, hrows⟩ := hback star (by simp)
    have hlast : last? (rows? source star.key) (front ++ back) ≠ none := fun hnone =>
      hrows (last?_eq_none_iff.1 hnone slot (List.mem_append_left _ hslot))
    obtain ⟨found, hfound⟩ := Option.ne_none_iff_exists'.1 hlast
    rw [← List.append_assoc, readsAll_concat,
      ih fun other hother => hback other (List.mem_append_left _ hother), hfound,
      Option.isNone_some, Bool.and_false, Bool.or_false]

theorem get?_map_const {names : List Text} {name : Text} (h : name ∈ names) (value : Json) :
    Fields.get? name (names.map fun name => (name, value)) = some value := by
  induction names with
  | nil => contradiction
  | cons first rest ih =>
    rw [List.map_cons, Fields.get?_cons]
    split
    · rfl
    · rename_i hne
      exact ih ((List.mem_cons.1 h).resolve_left hne)

section

variable {stars rest : List (List (Text × Text))}
  (hstars : ∀ route ∈ stars, route ≠ [] → ∃ key, route = [(['*'], key)])
include hstars

theorem eq_of_begins_stars {first : Text × Text} (h : begins first stars = true) :
    first = (['*'], first.2) ∧ HasColumn stars [] ['*'] first.2 := by
  obtain ⟨others, hmem⟩ := begins_iff.1 h
  obtain ⟨key, hroute⟩ := hstars _ hmem (List.cons_ne_nil _ _)
  obtain ⟨rfl, rfl⟩ := List.cons.inj hroute
  exact ⟨rfl, hmem⟩

theorem inner_of_mem_stars {slot : Slot} (hslot : slot ∈ ofRoutes stars) : slot.inner = [] := by
  obtain ⟨first, -, rfl⟩ := mem_ofRoutes_iff.1 hslot
  by_contra hinner
  obtain ⟨next, others, hmem⟩ := inner_ofStep_ne_nil_iff.1 hinner
  obtain ⟨key, hroute⟩ := hstars _ hmem (List.cons_ne_nil _ _)
  simp at hroute

/-- Wildcards are read in front of everything else. -/
theorem readsAll_stars (hne : ∃ key, HasColumn stars [] ['*'] key) (source : Fields Json)
    (back : List Slot) : readsAll source (ofRoutes stars ++ back).reverse = true := by
  obtain ⟨key, hkey⟩ := hne
  have hmem : ofStep (['*'], key) stars ∈ ofRoutes stars :=
    mem_ofRoutes_iff.2 ⟨_, begins_iff.2 ⟨[], hkey⟩, rfl⟩
  obtain ⟨front, others, hslots⟩ := List.append_of_mem hmem
  refine readsAll_iff.2 ⟨front, ofStep (['*'], key) stars, others ++ back, by simp [hslots],
    isWildcard_iff.2 ⟨isLeaf_ofStep_iff.2 hkey, rfl⟩, ?_⟩
  refine last?_eq_none_iff.1 (last?_rows?_eq_none fun slot hslot _ => ?_)
  exact inner_of_mem_stars hstars (hslots ▸ List.mem_append_left _ hslot)

variable (hrest : ∀ key, ¬ HasColumn rest [] ['*'] key)
include hrest

/-- They are not read behind relations with their keys, if those are null. -/
theorem readsAll_rest_stars
    (htaken : ∀ key, HasColumn stars [] ['*'] key → ∃ segment, HasRelation rest [] segment key)
    {source : Fields Json}
    (hnull : ∀ slot ∈ ofRoutes rest, lookup? source slot.segment = some .null) :
    readsAll source (ofRoutes rest ++ ofRoutes stars).reverse = false := by
  refine readsAll_append_eq_false (fun slot hslot => ?_) fun star hstar => ?_
  · rw [← Bool.not_eq_true, isWildcard_iff]
    rintro ⟨hleaf, hsegment⟩
    obtain ⟨first, -, rfl⟩ := mem_ofRoutes_iff.1 hslot
    have hcolumn := isLeaf_ofStep_iff.1 hleaf
    rw [show first.1 = ['*'] from hsegment] at hcolumn
    exact hrest first.2 hcolumn
  · obtain ⟨first, hfirst, rfl⟩ := mem_ofRoutes_iff.1 hstar
    obtain ⟨segment, hrelation⟩ := htaken first.2 (eq_of_begins_stars hstars hfirst).2
    have hinner : (ofStep (segment, first.2) rest).inner ≠ [] :=
      inner_ofStep_ne_nil_iff.2 hrelation
    obtain ⟨next, others, hmem⟩ := hrelation
    have hslot : ofStep (segment, first.2) rest ∈ ofRoutes rest :=
      mem_ofRoutes_iff.2 ⟨_, begins_iff.2 ⟨_, hmem⟩, rfl⟩
    refine ⟨_, hslot, ?_⟩
    rw [rows?, if_pos (by rfl), below?, if_neg (by simpa using hinner), related?,
      hnull _ hslot]
    exact Option.some_ne_none _

/-- Wildcards whose keys are those of other relations show where they stand:
a column that no slot claims is there when they are the first slots, and is
not there when they are the last ones. -/
theorem exists_reshapeFields_ne (hne : ∃ key, HasColumn stars [] ['*'] key)
    (htaken : ∀ key, HasColumn stars [] ['*'] key →
      (∃ segment, HasRelation rest [] segment key) ∧ ¬ HasRelation rest [] ['*'] key) :
    ∃ source, reshapeFields (ofRoutes (stars ++ rest)) source ≠
      reshapeFields (ofRoutes (rest ++ stars)) source := by
  have hbegins : ∀ first, begins first stars = true → begins first rest = false := by
    intro first hfirst
    obtain ⟨heq, hcolumn⟩ := eq_of_begins_stars hstars hfirst
    rw [← Bool.not_eq_true, begins_iff]
    rintro ⟨_ | ⟨next, others⟩, hmem⟩
    · exact hrest first.2 (by rwa [heq] at hmem)
    · exact (htaken first.2 hcolumn).2 ⟨next, others, by rwa [heq] at hmem⟩
  have hback : ∀ first, begins first rest = true → begins first stars = false := by
    intro first hfirst
    by_contra hstar
    rw [hbegins first (by simpa using hstar)] at hfirst
    contradiction
  rw [ofRoutes_append hbegins, ofRoutes_append hback]
  obtain ⟨fresh, hfresh, hbare⟩ := exists_fresh ((ofRoutes stars ++ ofRoutes rest).map key ++
    (ofRoutes rest).map segment ++ claimed (ofRoutes stars ++ ofRoutes rest))
  simp only [List.mem_append, not_or] at hfresh
  obtain ⟨⟨hkeys, hsegments⟩, hclaims⟩ := hfresh
  -- Every relation is null, and one column belongs to nobody.
  let source : Fields Json :=
    (fresh, .bool true) :: ((ofRoutes rest).map segment).map fun name => (name, .null)
  refine ⟨source, fun heq => ?_⟩
  have hown : Fields.get? fresh source = some (.bool true) := by
    rw [Fields.get?_cons, if_pos rfl]
  have hnull : ∀ slot ∈ ofRoutes rest, lookup? source slot.segment = some .null := by
    intro slot hslot
    have hmem : slot.segment ∈ (ofRoutes rest).map segment := List.mem_map_of_mem hslot
    have hne : slot.segment ≠ fresh := fun h => hsegments (h ▸ hmem)
    rw [lookup?, Fields.get?_cons, if_neg hne, get?_map_const hmem]
    rfl
  have hfront : ∀ slot ∈ ofRoutes stars ++ ofRoutes rest, slot.key ≠ fresh :=
    fun slot hslot h => hkeys (h ▸ List.mem_map_of_mem hslot)
  have hvalues := congrArg (Fields.get? fresh) heq
  rw [get?_of_not_key hfront, get?_of_not_key fun slot hslot =>
      hfront slot (by simpa [or_comm] using hslot), takenOver?, takenOver?,
    readsAll_stars hstars hne, readsAll_rest_stars hstars hrest (fun key h => (htaken key h).1)
      hnull, hbare, if_pos ⟨rfl, by simpa using hclaims⟩, if_neg (by simp), hown] at hvalues
  contradiction

end

/-- So it is at every level: the routes of its wildcards are read first, or
last. -/
theorem exists_nest_ne {routes : List (List (Text × Text))} (h : AreApart routes)
    {above : List (Text × Text)} {isStar : List (Text × Text) → Bool}
    (hisStar : ∀ route, isStar route = true ↔ ∃ key, route = above ++ [(['*'], key)])
    (hne : ∃ key, HasColumn routes above ['*'] key)
    (htaken : ∀ key, HasColumn routes above ['*'] key →
      ∃ segment, HasRelation routes above segment key ∧ segment ≠ ['*']) :
    ∃ source,
      reshapeFields (ofRoutes (routes.filter isStar ++ routes.filter (!isStar ·))) source ≠
        reshapeFields (ofRoutes (routes.filter (!isStar ·) ++ routes.filter isStar)) source := by
  have hfilter : ∀ route, route ∈ routes ↔
      route ∈ routes.filter isStar ++ routes.filter (!isStar ·) := fun route =>
    (List.filter_append_perm isStar routes).mem_iff.symm
  have hswapped : ∀ route, route ∈ routes ↔
      route ∈ routes.filter (!isStar ·) ++ routes.filter isStar := fun route =>
    (hfilter route).trans List.perm_append_comm.mem_iff
  -- At the level stand its wildcards and all the rest.
  have hstars : ∀ route, route ≠ [] → (route ∈ levelOf above (routes.filter isStar) ↔
      above ++ route ∈ routes ∧ ∃ key, route = [(['*'], key)]) := by
    intro route hne
    rw [mem_levelOf hne, List.mem_filter, hisStar]
    simp only [List.append_cancel_left_eq]
  have hrest : ∀ route, route ≠ [] → (route ∈ levelOf above (routes.filter (!isStar ·)) ↔
      above ++ route ∈ routes ∧ ¬ ∃ key, route = [(['*'], key)]) := by
    intro route hne
    rw [mem_levelOf hne, List.mem_filter, Bool.not_eq_true', ← Bool.not_eq_true, hisStar]
    simp only [List.append_cancel_left_eq]
  have hcolumn : ∀ key, HasColumn (levelOf above (routes.filter isStar)) [] ['*'] key ↔
      HasColumn routes above ['*'] key := fun key =>
    (hstars _ (List.cons_ne_nil _ _)).trans (and_iff_left ⟨key, rfl⟩)
  have hrelation : ∀ segment key,
      HasRelation (levelOf above (routes.filter (!isStar ·))) [] segment key ↔
        HasRelation routes above segment key := fun segment key =>
    exists_congr fun next => exists_congr fun others =>
      (hrest _ (List.cons_ne_nil _ _)).trans (and_iff_left (by simp))
  obtain ⟨source, hsource⟩ := exists_reshapeFields_ne
    (fun route hmem hne => ((hstars route hne).1 hmem).2)
    (fun key hmem => ((hrest _ (List.cons_ne_nil _ _)).1 hmem).2 ⟨key, rfl⟩)
    (hne.imp fun key hkey => (hcolumn key).2 hkey) fun key hstar => by
      obtain ⟨segment, hmem, hsegment⟩ := htaken key ((hcolumn key).1 hstar)
      refine ⟨⟨segment, (hrelation segment key).2 hmem⟩, fun hown => hsegment ?_⟩
      exact h.relations above key segment ['*'] hmem ((hrelation ['*'] key).1 hown)
  obtain ⟨key, hkey⟩ := hne
  have hstar : [(['*'], key)] ∈ levelOf above (routes.filter isStar) := (hcolumn key).2 hkey
  refine ⟨nest above source, fun heq => hsource ?_⟩
  rw [← levelOf_append, ← levelOf_append]
  refine reshapeFields_levelOf (h.congr hfilter) (h.congr hswapped) ?_ ?_ heq
  · rw [levelOf_append]
    exact List.ne_nil_of_mem (List.mem_append_left _ hstar)
  · rw [levelOf_append]
    exact List.ne_nil_of_mem (List.mem_append_right _ hstar)

end Slot

/-! ## 6. Permutations -/

theorem denormalize_congr {paths other : List Path}
    (h : Slot.reshapeFields (Slot.ofPaths paths) = Slot.reshapeFields (Slot.ofPaths other))
    (response : Json) : denormalize paths response = denormalize other response := by
  rw [denormalize, denormalize, Slot.reshape, Slot.reshape, h]

/-- Paths in another order shape rows alike, if every level has a free
wildcard. -/
theorem denormalize_of_perm {paths other : List Path}
    (hapart : Slot.AreApart (paths.map Slot.route))
    (hfree : Slot.HaveFreeWildcards (paths.map Slot.route)) (h : paths.Perm other)
    (response : Json) : denormalize other response = denormalize paths response := by
  have hsize : ∀ route ∈ paths.map Slot.route,
      route.length < (paths.map Slot.route).flatten.length + 1 := fun route hmem =>
    Nat.lt_succ_of_le (List.sublist_flatten_of_mem hmem).length_le
  refine (denormalize_congr (funext fun source => ?_) response).symm
  rw [Slot.ofPaths_eq_ofRoutes, Slot.ofPaths_eq_ofRoutes]
  exact Slot.reshapeFields_ofRoutes_congr _ hsize (fun route => (h.map Slot.route).mem_iff) hapart
    hfree source

/-- A level whose wildcards all share their keys with other relations shows
the order of the paths. -/
theorem exists_denormalize_ne {paths : List Path} (h : Slot.AreApart (paths.map Slot.route))
    {above : List (Text × Text)}
    (hne : ∃ key, Slot.HasColumn (paths.map Slot.route) above ['*'] key)
    (htaken : ∀ key, Slot.HasColumn (paths.map Slot.route) above ['*'] key →
      ∃ segment, Slot.HasRelation (paths.map Slot.route) above segment key ∧ segment ≠ ['*']) :
    ∃ first last : List Path, paths.Perm (first ++ last) ∧ paths.Perm (last ++ first) ∧
      ∃ response, denormalize (first ++ last) response ≠ denormalize (last ++ first) response := by
  classical
  let isStar : List (Text × Text) → Bool := fun route =>
    decide (∃ key, route = above ++ [(['*'], key)])
  obtain ⟨source, hsource⟩ := @Slot.exists_nest_ne _ h above isStar
    (fun _ => decide_eq_true_iff) hne htaken
  have hperm : paths.Perm (paths.filter (isStar ∘ Slot.route) ++
      paths.filter ((!isStar ·) ∘ Slot.route)) := (List.filter_append_perm _ paths).symm
  refine ⟨_, _, hperm, hperm.trans List.perm_append_comm, .obj source, fun heq => hsource ?_⟩
  rw [denormalize, denormalize, Slot.reshape_obj, Slot.reshape_obj, Json.obj.injEq,
    Slot.ofPaths_eq_ofRoutes, Slot.ofPaths_eq_ofRoutes] at heq
  rwa [List.map_append, List.map_append, ← List.filter_map, ← List.filter_map] at heq

/-- The order of paths whose columns and relations are apart never shows in a
row exactly if every level with wildcards has a free one. -/
theorem denormalize_perm_iff {paths : List Path} (h : Slot.AreApart (paths.map Slot.route)) :
    (∀ other, paths.Perm other → ∀ response,
        denormalize other response = denormalize paths response) ↔
      Slot.HaveFreeWildcards (paths.map Slot.route) := by
  constructor
  · intro hsame
    by_contra hfree
    simp only [Slot.HaveFreeWildcards, not_forall, not_exists, not_and] at hfree
    obtain ⟨above, key, hkey, htaken⟩ := hfree
    obtain ⟨first, last, hfirst, hlast, response, hne⟩ :=
      exists_denormalize_ne h ⟨key, hkey⟩ fun key hstar => by
        obtain ⟨segment, hrelation, hsegment⟩ := htaken key hstar
        exact ⟨segment, hrelation, hsegment⟩
    exact hne ((hsame _ hfirst response).trans (hsame _ hlast response).symm)
  · exact fun hfree other hperm response => denormalize_of_perm h hfree hperm response

/-- Every column of a message, and the name of its inbox. -/
def messagePaths : List Path :=
  [⟨"*".toList, "*".toList, none⟩,
    ⟨"inbox:inbox_id.name".toList, "inbox_id.name".toList, some "inbox.name".toList⟩]

/-- Messages look alike in whatever order their paths are named. -/
theorem denormalize_messages_perm :
    Slot.AreApart (messagePaths.map Slot.route) ∧
      ∀ other, messagePaths.Perm other → ∀ response,
        denormalize other response = denormalize messagePaths response := by
  have hapart : Slot.AreApart (messagePaths.map Slot.route) := by decide +kernel
  exact ⟨hapart, (denormalize_perm_iff hapart).2 (by decide +kernel)⟩

/-- A relation and all columns, both under the key `a`. -/
def sharedPaths : List Path :=
  [⟨"a:rel.id".toList, "rel.id".toList, some "a.id".toList⟩,
    ⟨"a:*".toList, "*".toList, some "a".toList⟩]

/-- What they are read from. -/
def sharedResponse : Json :=
  .obj [("rel".toList, .obj [("id".toList, .ofNat 2)]), ("x".toList, .ofNat 1)]

/-- A relation with the key of the wildcard hides all other columns when it
comes first. -/
theorem denormalize_shared_ne :
    Slot.AreApart (sharedPaths.map Slot.route) ∧ sharedPaths.Perm sharedPaths.reverse ∧
      denormalize sharedPaths sharedResponse =
        .obj [("a".toList, .obj [("id".toList, .ofNat 2)])] ∧
      denormalize sharedPaths.reverse sharedResponse =
        .obj [("a".toList, .obj [("id".toList, .ofNat 2)]), ("x".toList, .ofNat 1)] :=
  ⟨by decide +kernel, (List.reverse_perm _).symm, by cbv, by cbv⟩

end QueryCache
