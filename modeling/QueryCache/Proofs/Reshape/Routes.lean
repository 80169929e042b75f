/-
QueryCache.Proofs.Reshape.Routes — the slots of routes.

A selection adds its routes one after the other, but what comes out can be
said of the routes alone: a slot is there for two keys when a route begins
with them, it is a leaf when a route ends there, and below it are the
slots of what is left of the routes that go on (`find?_ofRoutes`, by
induction on the routes, one more at the end).  A level has one slot for
two keys (`nodup_steps`), so its slots are exactly these
(`mem_ofRoutes_iff`).
-/
import Mathlib.Data.List.Induction
import Mathlib.Data.List.Nodup
import QueryCache.Reshape.Shape

namespace QueryCache

namespace Slot

/-! ## 1. One slot in the place of another -/

theorem find?_put (segment key : Text) (new : Slot) (slots : List Slot) :
    find? segment key (put new slots) =
      if new.segment = segment ∧ new.key = key then some new else find? segment key slots := by
  induction slots with
  | nil => by_cases h : new.segment = segment ∧ new.key = key <;> simp [put, find?, h]
  | cons first rest ih =>
    unfold find? at ih ⊢
    rw [put]
    split
    · rename_i hsame
      rw [List.find?_cons, List.find?_cons, hsame.1, hsame.2]
      by_cases h : new.segment = segment ∧ new.key = key
      · simp [h]
      · have hfalse : (new.segment == segment && new.key == key) = false := by simpa using h
        simp [hfalse, h]
    · rename_i hother
      rw [List.find?_cons, List.find?_cons, ih]
      by_cases h : new.segment = segment ∧ new.key = key
      · have hfalse : (first.segment == segment && first.key == key) = false := by
          rw [← h.1, ← h.2]
          simpa using hother
        simp [hfalse, h]
      · simp [h]

theorem segment_key_of_find? {segment key : Text} {slots : List Slot} {slot : Slot}
    (h : find? segment key slots = some slot) : slot.segment = segment ∧ slot.key = key := by
  simpa using List.find?_some h

/-- The two keys of a slot. -/
def step (slot : Slot) : Text × Text :=
  (slot.segment, slot.key)

/-- A slot for keys that are there already takes the place of the old one. -/
theorem map_step_put (new : Slot) (slots : List Slot) :
    (put new slots).map step =
      if new.step ∈ slots.map step then slots.map step else slots.map step ++ [new.step] := by
  induction slots with
  | nil => rfl
  | cons first rest ih =>
    have hsame : first.segment = new.segment ∧ first.key = new.key ↔ first.step = new.step := by
      rw [step, step, Prod.mk.injEq]
    rw [put]
    by_cases hstep : first.step = new.step
    · rw [if_pos (hsame.2 hstep), List.map_cons, List.map_cons, hstep,
        if_pos List.mem_cons_self]
    · rw [if_neg (mt hsame.1 hstep), List.map_cons, List.map_cons, ih]
      simp only [List.mem_cons, Ne.symm hstep, false_or]
      split <;> rfl

theorem nodup_put {new : Slot} {slots : List Slot} (h : (slots.map step).Nodup) :
    ((put new slots).map step).Nodup := by
  rw [map_step_put]
  split
  · exact h
  · rename_i hnew
    exact List.nodup_append.2 ⟨h, List.nodup_singleton _, fun old hold step hstep heq =>
      hnew (by rwa [← List.mem_singleton.1 hstep, ← heq])⟩

/-- Keys that are not among the first slots are looked for behind them. -/
theorem put_append {new : Slot} {front : List Slot} (h : new.step ∉ front.map step)
    (back : List Slot) : put new (front ++ back) = front ++ put new back := by
  induction front with
  | nil => rfl
  | cons first rest ih =>
    rw [List.map_cons, List.mem_cons, not_or] at h
    have hother : ¬ (first.segment = new.segment ∧ first.key = new.key) := by
      intro heq
      exact h.1 (Prod.ext heq.1.symm heq.2.symm)
    rw [List.cons_append, put, if_neg hother, ih h.2, List.cons_append]

theorem find?_append {segment key : Text} {front : List Slot}
    (h : (segment, key) ∉ front.map step) (back : List Slot) :
    find? segment key (front ++ back) = find? segment key back := by
  have hnone : front.find? (fun slot => slot.segment == segment && slot.key == key) = none := by
    rw [List.find?_eq_none]
    intro slot hslot heq
    simp only [Bool.and_eq_true, beq_iff_eq] at heq
    exact h (List.mem_map.2 ⟨slot, hslot, Prod.ext heq.1 heq.2⟩)
  rw [find?, List.find?_append, hnone]
  rfl

/-! ## 2. Routes -/

/-- The slots of routes, in the order of their first use. -/
def ofRoutes (routes : List (List (Text × Text))) : List Slot :=
  routes.foldl (fun slots route => addRoute route slots) []

theorem ofPaths_eq_ofRoutes (paths : List Path) : ofPaths paths = ofRoutes (paths.map route) := by
  rw [ofPaths, ofRoutes, List.foldl_map]

theorem ofRoutes_concat (routes : List (List (Text × Text))) (added : List (Text × Text)) :
    ofRoutes (routes ++ [added]) = addRoute added (ofRoutes routes) := by
  rw [ofRoutes, List.foldl_append]
  rfl

/-- Some route begins with the two keys. -/
def begins (first : Text × Text) (routes : List (List (Text × Text))) : Bool :=
  routes.any fun route => route.head? == some first

theorem begins_iff {first : Text × Text} {routes : List (List (Text × Text))} :
    begins first routes = true ↔ ∃ rest, first :: rest ∈ routes := by
  rw [begins, List.any_eq_true]
  constructor
  · rintro ⟨route, hmem, hhead⟩
    rw [beq_iff_eq, List.head?_eq_some_iff] at hhead
    obtain ⟨rest, rfl⟩ := hhead
    exact ⟨rest, hmem⟩
  · rintro ⟨rest, hmem⟩
    exact ⟨_, hmem, by simp⟩

/-- What is left, behind the two keys, of the routes that go on there. -/
def behind (first : Text × Text) (routes : List (List (Text × Text))) :
    List (List (Text × Text)) :=
  routes.filterMap fun
    | [] => none
    | [_] => none
    | head :: next :: rest => if head = first then some (next :: rest) else none

theorem behind_append (first : Text × Text) (front back : List (List (Text × Text))) :
    behind first (front ++ back) = behind first front ++ behind first back :=
  List.filterMap_append

theorem mem_behind {first : Text × Text} {routes : List (List (Text × Text))}
    {rest : List (Text × Text)} :
    rest ∈ behind first routes ↔ rest ≠ [] ∧ first :: rest ∈ routes := by
  rw [behind, List.mem_filterMap]
  constructor
  · rintro ⟨route, hmem, hroute⟩
    match route, hmem, hroute with
    | head :: next :: others, hmem, hroute =>
      obtain ⟨rfl, hrest⟩ := Option.ite_none_right_eq_some.1 hroute
      obtain rfl := Option.some.inj hrest
      exact ⟨List.cons_ne_nil _ _, hmem⟩
  · rintro ⟨hne, hmem⟩
    obtain ⟨next, others, rfl⟩ := List.exists_cons_of_ne_nil hne
    exact ⟨_, hmem, if_pos rfl⟩

/-- The slot that routes ask for under two keys. -/
def ofStep (first : Text × Text) (routes : List (List (Text × Text))) : Slot :=
  mk first.1 first.2 (decide ([first] ∈ routes)) (ofRoutes (behind first routes))

theorem step_ofStep (first : Text × Text) (routes : List (List (Text × Text))) :
    (ofStep first routes).step = first := rfl

/-- Routes that none begins with the two keys ask for an empty slot there. -/
theorem ofStep_of_not_begins {first : Text × Text} {routes : List (List (Text × Text))}
    (h : begins first routes = false) : ofStep first routes = mk first.1 first.2 false [] := by
  have hnone : ∀ rest, first :: rest ∉ routes := fun rest hmem => by
    rw [begins_iff.2 ⟨rest, hmem⟩] at h
    contradiction
  have hbehind : behind first routes = [] :=
    List.eq_nil_iff_forall_not_mem.2 fun rest hmem => hnone rest (mem_behind.1 hmem).2
  rw [ofStep, hbehind, decide_eq_false (hnone [])]
  rfl

/-- Each slot is known by the routes. -/
theorem find?_ofRoutes (routes : List (List (Text × Text))) : ∀ segment key,
    find? segment key (ofRoutes routes) =
      if begins (segment, key) routes then some (ofStep (segment, key) routes) else none := by
  induction routes using List.reverseRecOn with
  | nil => exact fun _ _ => rfl
  | append_singleton routes added ih =>
    intro segment key
    rw [ofRoutes_concat]
    rcases added with _ | ⟨⟨first, firstKey⟩, rest⟩
    · -- A route without keys leads nowhere.
      rw [addRoute, ih]
      simp [begins, ofStep, behind]
    · have hold : (find? first firstKey (ofRoutes routes)).getD (mk first firstKey false []) =
          ofStep (first, firstKey) routes := by
        rw [ih]
        split
        · rfl
        · rename_i hbegins
          exact (ofStep_of_not_begins (by simpa using hbegins)).symm
      rw [addRoute, hold, find?_put]
      by_cases hsame : (first, firstKey) = (segment, key)
      · obtain ⟨rfl, rfl⟩ := Prod.mk.inj hsame
        have hbegins : begins (first, firstKey) (routes ++ [(first, firstKey) :: rest]) = true :=
          begins_iff.2 ⟨rest, by simp⟩
        rw [if_pos hbegins]
        rcases rest with _ | ⟨next, rest⟩
        · simp [ofStep, segment, key, inner, behind]
        · simp [ofStep, segment, key, isLeaf, inner, behind, ofRoutes_concat]
      · have hother : ¬ (first = segment ∧ firstKey = key) := fun heq =>
          hsame (Prod.ext heq.1 heq.2)
        have hbegins : begins (segment, key) (routes ++ [(first, firstKey) :: rest]) =
            begins (segment, key) routes := by
          simp [begins, hother]
        have hstep : ofStep (segment, key) (routes ++ [(first, firstKey) :: rest]) =
            ofStep (segment, key) routes := by
          rcases rest with _ | ⟨next, rest⟩
          · simp [ofStep, behind, Ne.symm hsame]
          · simp [ofStep, behind, hother]
        rw [hbegins, hstep, ← ih]
        refine if_neg fun heq => hother ?_
        split at heq <;> exact heq

/-- A level has one slot for two keys. -/
theorem nodup_steps (routes : List (List (Text × Text))) :
    ((ofRoutes routes).map step).Nodup := by
  induction routes using List.reverseRecOn with
  | nil => exact List.nodup_nil
  | append_singleton routes added ih =>
    rw [ofRoutes_concat]
    rcases added with _ | ⟨first, rest⟩
    · exact ih
    · exact nodup_put ih

/-- The slot that is found for two keys of a level. -/
theorem find?_of_mem {slots : List Slot} (h : (slots.map step).Nodup) {slot : Slot}
    (hmem : slot ∈ slots) : find? slot.segment slot.key slots = some slot := by
  rcases hfind : find? slot.segment slot.key slots with _ | found
  · rw [find?, List.find?_eq_none] at hfind
    exact absurd (by simp) (hfind slot hmem)
  · obtain ⟨hsegment, hkey⟩ := segment_key_of_find? hfind
    have hfound : found ∈ slots := List.mem_of_find?_eq_some hfind
    rw [List.inj_on_of_nodup_map h hfound hmem (Prod.ext hsegment hkey)]

/-- The slots of routes are those that they ask for. -/
theorem mem_ofRoutes_iff {routes : List (List (Text × Text))} {slot : Slot} :
    slot ∈ ofRoutes routes ↔ ∃ first, begins first routes = true ∧ slot = ofStep first routes := by
  constructor
  · intro hmem
    have hfind := find?_of_mem (nodup_steps routes) hmem
    rw [find?_ofRoutes] at hfind
    obtain ⟨hbegins, heq⟩ := Option.ite_none_right_eq_some.1 hfind
    exact ⟨slot.step, hbegins, (Option.some.inj heq).symm⟩
  · rintro ⟨first, hbegins, rfl⟩
    have hfind := find?_ofRoutes routes first.1 first.2
    rw [if_pos hbegins] at hfind
    exact List.mem_of_find?_eq_some hfind

theorem ofRoutes_eq_nil_iff {routes : List (List (Text × Text))} :
    ofRoutes routes = [] ↔ ∀ route ∈ routes, route = [] := by
  constructor
  · intro hnil route hmem
    by_contra hne
    obtain ⟨first, rest, rfl⟩ := List.exists_cons_of_ne_nil hne
    have hslot : ofStep first routes ∈ ofRoutes routes :=
      mem_ofRoutes_iff.2 ⟨first, begins_iff.2 ⟨rest, hmem⟩, rfl⟩
    rw [hnil] at hslot
    contradiction
  · intro hempty
    refine List.eq_nil_iff_forall_not_mem.2 fun slot hslot => ?_
    obtain ⟨first, hbegins, -⟩ := mem_ofRoutes_iff.1 hslot
    obtain ⟨rest, hmem⟩ := begins_iff.1 hbegins
    exact List.cons_ne_nil _ _ (hempty _ hmem)

/-- Routes that begin otherwise than all before them get slots behind theirs. -/
theorem ofRoutes_append {front back : List (List (Text × Text))}
    (h : ∀ first, begins first front = true → begins first back = false) :
    ofRoutes (front ++ back) = ofRoutes front ++ ofRoutes back := by
  induction back using List.reverseRecOn with
  | nil => rw [List.append_nil, ofRoutes.eq_def [], List.foldl_nil, List.append_nil]
  | append_singleton back added ih =>
    have hback : ∀ first, begins first front = true → begins first back = false := by
      intro first hfirst
      have hnot := h first hfirst
      simp only [begins, List.any_append, Bool.or_eq_false_iff] at hnot
      exact hnot.1
    rw [← List.append_assoc, ofRoutes_concat, ofRoutes_concat, ih hback]
    rcases added with _ | ⟨first, rest⟩
    · rfl
    · have hnew : first ∉ (ofRoutes front).map step := by
        intro hmem
        obtain ⟨slot, hslot, rfl⟩ := List.mem_map.1 hmem
        obtain ⟨step, hbegins, rfl⟩ := mem_ofRoutes_iff.1 hslot
        have hnot := h step hbegins
        rw [step_ofStep, begins_iff.2 ⟨rest, by simp⟩] at hnot
        contradiction
      rw [addRoute, addRoute, find?_append hnew]
      refine put_append ?_ _
      split <;> exact hnew

/-! ## 3. Selections -/

/-- The slot is there because of some of the routes: it is a leaf if one of
them ends in it, and has slots below it only if one goes on. -/
structure ComesFrom (routes : List (List (Text × Text))) (slot : Slot) : Prop where
  begins : ∃ rest, (slot.segment, slot.key) :: rest ∈ routes
  ends : slot.isLeaf = true → [(slot.segment, slot.key)] ∈ routes
  goesOn : slot.inner ≠ [] → ∃ next rest, (slot.segment, slot.key) :: next :: rest ∈ routes

theorem comesFrom_ofPaths {paths : List Path} :
    ∀ slot ∈ ofPaths paths, slot.ComesFrom (paths.map route) := by
  intro slot hslot
  rw [ofPaths_eq_ofRoutes] at hslot
  obtain ⟨first, hbegins, rfl⟩ := mem_ofRoutes_iff.1 hslot
  refine ⟨begins_iff.1 hbegins, fun hleaf => of_decide_eq_true hleaf, fun hinner => ?_⟩
  obtain ⟨rest, hrest⟩ := List.exists_mem_of_ne_nil _
    (fun hnil : behind first (paths.map route) = [] => hinner (by rw [ofStep, inner, hnil]; rfl))
  obtain ⟨hne, hmem⟩ := mem_behind.1 hrest
  obtain ⟨next, others, rfl⟩ := List.exists_cons_of_ne_nil hne
  exact ⟨next, others, hmem⟩

/-- A path of one segment has a leaf. -/
theorem exists_isLeaf_of_route {paths : List Path} {path : Path} {segment key : Text}
    (hmem : path ∈ paths) (hroute : route path = [(segment, key)]) :
    ∃ slot ∈ ofPaths paths, slot.segment = segment ∧ slot.key = key ∧ slot.isLeaf = true := by
  have hends : [(segment, key)] ∈ paths.map route := List.mem_map.2 ⟨path, hmem, hroute⟩
  rw [ofPaths_eq_ofRoutes]
  exact ⟨ofStep (segment, key) (paths.map route),
    mem_ofRoutes_iff.2 ⟨_, begins_iff.2 ⟨[], hends⟩, rfl⟩, rfl, rfl, decide_eq_true hends⟩

end Slot
end QueryCache
