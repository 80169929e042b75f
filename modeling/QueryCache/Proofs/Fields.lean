/-
QueryCache.Proofs.Fields — objects are determined by what they answer.

The names of an object ascend (`Fields.Ascending`), and every operation
that builds one keeps that so.  Two ascending objects with the same value
under every name are the same list (`ext_of_ascending`), so a statement
about a built object is proved name by name.
-/
import QueryCache.Json.Basic

namespace QueryCache.Fields

variable {α : Type}

/-! ## 1. Names ascend -/

theorem ascending_nil : Ascending ([] : Fields α) := List.Pairwise.nil

theorem mem_insert {name : Text} {value : α} {fields : Fields α} {field : Text × α}
    (h : field ∈ insert name value fields) : field = (name, value) ∨ field ∈ fields := by
  induction fields with
  | nil => simpa [insert] using h
  | cons head rest ih =>
    obtain ⟨n, v⟩ := head
    simp only [insert] at h
    split at h
    · simpa using h
    · rcases List.mem_cons.1 h with h | h
      · exact Or.inl h
      · exact Or.inr (List.mem_cons_of_mem _ h)
    · rcases List.mem_cons.1 h with h | h
      · exact Or.inr (h ▸ List.mem_cons_self)
      · rcases ih h with h | h
        · exact Or.inl h
        · exact Or.inr (List.mem_cons_of_mem _ h)

theorem ascending_insert {name : Text} {value : α} {fields : Fields α}
    (h : Ascending fields) : Ascending (insert name value fields) := by
  induction fields with
  | nil => simp [insert, Ascending]
  | cons head rest ih =>
    obtain ⟨n, v⟩ := head
    obtain ⟨hhead, hrest⟩ := List.pairwise_cons.1 h
    simp only [insert]
    split
    · rename_i hlt
      refine List.pairwise_cons.2 ⟨?_, h⟩
      intro field hf
      rcases List.mem_cons.1 hf with rfl | hf
      · exact hlt
      · exact Std.TransCmp.lt_trans hlt (hhead field hf)
    · rename_i heq
      have heq : name = n := Std.LawfulEqOrd.eq_of_compare heq
      subst heq
      exact List.pairwise_cons.2 ⟨hhead, hrest⟩
    · rename_i hgt
      refine List.pairwise_cons.2 ⟨?_, ih hrest⟩
      intro field hf
      rcases mem_insert hf with rfl | hf
      · exact Std.OrientedCmp.lt_of_gt hgt
      · exact hhead field hf

theorem ascending_overlay {fields upper : Fields α} (h : Ascending fields) :
    Ascending (overlay fields upper) := by
  unfold overlay
  induction upper generalizing fields with
  | nil => exact h
  | cons entry rest ih => exact ih (ascending_insert h)

theorem ascending_ofList (entries : List (Text × α)) : Ascending (ofList entries) :=
  @ascending_overlay _ [] entries ascending_nil

/-! ## 2. What a name answers -/

theorem get?_nil (name : Text) : get? name ([] : Fields α) = none := rfl

theorem get?_cons (name n : Text) (v : α) (rest : Fields α) :
    get? name ((n, v) :: rest) = if name = n then some v else get? name rest := by
  by_cases h : name = n
  · subst h; simp [get?]
  · simp [get?, List.lookup_cons, beq_false_of_ne h, h]

theorem get?_insert (name other : Text) (value : α) (fields : Fields α) :
    get? other (insert name value fields) =
      if other = name then some value else get? other fields := by
  split
  · rename_i h; subst h; exact get?_insert_self other value fields
  · rename_i h; exact get?_insert_of_ne h value fields

theorem mem_of_get? {name : Text} {value : α} {fields : Fields α}
    (h : get? name fields = some value) : (name, value) ∈ fields := by
  induction fields with
  | nil => simp [get?] at h
  | cons head rest ih =>
    obtain ⟨n, v⟩ := head
    rw [get?_cons] at h
    split at h
    · rename_i hn
      simp only [Option.some.injEq] at h
      subst hn h
      exact List.mem_cons_self
    · exact List.mem_cons_of_mem _ (ih h)

theorem isSome_get?_iff {name : Text} {fields : Fields α} :
    (get? name fields).isSome = true ↔ name ∈ fields.map Prod.fst := by
  induction fields with
  | nil => simp [get?_nil]
  | cons field rest ih =>
    rw [get?_cons, List.map_cons, List.mem_cons, ← ih]
    split
    · rename_i heq
      simp [heq]
    · rename_i hne
      simp [hne]

/-- Of the fields whose names have a property each answers as before. -/
theorem get?_filter (p : Text → Bool) (name : Text) (fields : Fields α) :
    get? name (fields.filter fun field => p field.1) =
      if p name then get? name fields else none := by
  induction fields with
  | nil => simp [get?_nil]
  | cons field rest ih =>
    obtain ⟨other, value⟩ := field
    rw [get?_cons, List.filter_cons]
    by_cases hname : name = other
    · subst hname
      cases hp : p name
      · simpa [hp] using ih
      · simp [get?_cons]
    · cases hp : p other
      · simpa [hp, hname] using ih
      · simpa [hp, hname, get?_cons] using ih

/-- A name below all the others answers nothing. -/
theorem get?_eq_none_of_lt {name : Text} {fields : Fields α}
    (h : ∀ field ∈ fields, compare name field.1 = .lt) : get? name fields = none := by
  rcases hv : get? name fields with _ | value
  · rfl
  · have hlt := h _ (mem_of_get? hv)
    simp [Std.ReflOrd.compare_self] at hlt

theorem get?_of_mem {name : Text} {value : α} {fields : Fields α} (h : Ascending fields)
    (hmem : (name, value) ∈ fields) : get? name fields = some value := by
  induction fields with
  | nil => simp at hmem
  | cons head rest ih =>
    obtain ⟨n, v⟩ := head
    obtain ⟨hhead, hrest⟩ := List.pairwise_cons.1 h
    rw [get?_cons]
    rcases List.mem_cons.1 hmem with heq | hmem
    · simp only [Prod.mk.injEq] at heq
      simp [heq.1, heq.2]
    · have hlt := hhead _ hmem
      have hne : name ≠ n := by
        intro heq
        subst heq
        simp [Std.ReflOrd.compare_self] at hlt
      rw [if_neg hne]
      exact ih hrest hmem

/-- Ascending objects that answer alike are the same. -/
theorem ext_of_ascending {a b : Fields α} (ha : Ascending a) (hb : Ascending b)
    (h : ∀ name, get? name a = get? name b) : a = b := by
  have hirr : ∀ x : Text × α, compare x.1 x.1 ≠ .lt := by
    intro x
    simp [Std.ReflOrd.compare_self]
  have nodup : ∀ {l : Fields α}, Ascending l → l.Nodup := fun hl =>
    List.Pairwise.imp (fun hlt heq => by subst heq; exact hirr _ hlt) hl
  have ha' : a.Pairwise fun x y : Text × α => compare x.1 y.1 = .lt := ha
  refine List.Perm.eq_of_pairwise ?_ ha' hb ?_
  · intro x y _ _ hxy hyx
    exact absurd (Std.TransCmp.lt_trans hxy hyx) (hirr x)
  · refine (List.perm_ext_iff_of_nodup (nodup ha) (nodup hb)).2 ?_
    rintro ⟨name, value⟩
    constructor
    · intro hmem
      exact mem_of_get? ((h name).symm.trans (get?_of_mem ha hmem))
    · intro hmem
      exact mem_of_get? ((h name).trans (get?_of_mem hb hmem))

/-- The upper object answers first. -/
theorem get?_overlay {fields upper : Fields α} (h : Ascending upper) (name : Text) :
    get? name (overlay fields upper) = (get? name upper).orElse fun _ => get? name fields := by
  unfold overlay
  induction upper generalizing fields with
  | nil => simp [get?_nil]
  | cons entry rest ih =>
    obtain ⟨n, v⟩ := entry
    obtain ⟨hhead, hrest⟩ := List.pairwise_cons.1 h
    rw [List.foldl_cons, ih hrest, get?_insert, get?_cons]
    by_cases hn : name = n
    · subst hn
      simp [get?_eq_none_of_lt hhead]
    · simp [hn]

/-! ## 3. Objects written field by field -/

theorem get?_foldl_insert {entries : List (Text × α)} {name : Text} :
    (h : ∀ entry ∈ entries, entry.1 ≠ name) → (fields : Fields α) →
    get? name (entries.foldl (fun fields entry => insert entry.1 entry.2 fields) fields) =
      get? name fields := by
  induction entries with
  | nil => exact fun _ _ => rfl
  | cons entry rest ih =>
    intro h fields
    rw [List.foldl_cons, ih fun other hmem => h other (List.mem_cons_of_mem _ hmem), get?_insert,
      if_neg fun heq => h entry List.mem_cons_self heq.symm]

/-- A name that was not written answers nothing. -/
theorem get?_ofList_eq_none {entries : List (Text × α)} {name : Text}
    (h : ∀ entry ∈ entries, entry.1 ≠ name) : get? name (ofList entries) = none :=
  get?_foldl_insert h []

/-- A name that was written once answers what was written. -/
theorem get?_ofList {entries : List (Text × α)} {name : Text} {value : α}
    (h : entries.Pairwise fun a b => a.1 ≠ b.1) (hmem : (name, value) ∈ entries) :
    get? name (ofList entries) = some value := by
  suffices ∀ fields : Fields α,
      get? name (entries.foldl (fun fields entry => insert entry.1 entry.2 fields) fields) =
        some value from this []
  induction entries with
  | nil => simp at hmem
  | cons entry rest ih =>
    intro fields
    obtain ⟨hentry, hrest⟩ := List.pairwise_cons.1 h
    rw [List.foldl_cons]
    rcases List.mem_cons.1 hmem with rfl | hmem
    · rw [get?_foldl_insert fun other hother => (hentry other hother).symm]
      exact get?_insert_self name value fields
    · exact ih hrest hmem _

/-- A name that is always written with one value answers it. -/
theorem get?_foldl_insert_same {name : Text} {value : α} {entries : List (Text × α)}
    (h : ∀ entry ∈ entries, entry.1 = name → entry.2 = value) {fields : Fields α}
    (hwritten : (name, value) ∈ entries ∨ get? name fields = some value) :
    get? name (entries.foldl (fun fields entry => insert entry.1 entry.2 fields) fields) =
      some value := by
  induction entries generalizing fields with
  | nil => simpa using hwritten
  | cons entry rest ih =>
    rw [List.foldl_cons]
    refine ih (fun other hother => h other (List.mem_cons_of_mem _ hother)) ?_
    rw [get?_insert]
    by_cases hname : name = entry.1
    · rw [if_pos hname]
      exact Or.inr (congrArg some (h entry List.mem_cons_self hname.symm))
    · rw [if_neg hname]
      refine hwritten.imp_left fun hmem => (List.mem_cons.1 hmem).resolve_left ?_
      rintro rfl
      exact hname rfl

/-- One value written under many names. -/
theorem get?_foldl_insert_const {names : List Text} {name : Text} (value : α)
    (hmem : name ∈ names) (fields : Fields α) :
    get? name (names.foldl (fun fields other => insert other value fields) fields) =
      some value := by
  have hsame : ∀ entry ∈ names.map fun other => (other, value),
      entry.1 = name → entry.2 = value := by
    intro entry hentry _
    obtain ⟨other, -, rfl⟩ := List.mem_map.1 hentry
    rfl
  have hwritten : get? name ((names.map fun other => (other, value)).foldl
      (fun fields entry => insert entry.1 entry.2 fields) fields) = some value :=
    get?_foldl_insert_same hsame (Or.inl (List.mem_map_of_mem hmem))
  rwa [List.foldl_map] at hwritten

/-- An object written from all fields of another, and from nothing else,
answers like it. -/
theorem get?_ofList_same {fields : Fields α} {entries : List (Text × α)}
    (hsound : ∀ entry ∈ entries, get? entry.1 fields = some entry.2)
    (hcomplete : ∀ entry ∈ fields, entry ∈ entries) (name : Text) :
    get? name (ofList entries) = get? name fields := by
  rcases hvalue : get? name fields with _ | value
  · refine get?_ofList_eq_none fun entry hentry hname => ?_
    rw [← hname, hsound entry hentry] at hvalue
    contradiction
  · refine get?_foldl_insert_same (fun entry hentry hname => ?_)
      (Or.inl (hcomplete _ (mem_of_get? hvalue)))
    rw [← hname, hsound entry hentry] at hvalue
    exact Option.some.inj hvalue

end QueryCache.Fields
