/-
QueryCache.Proofs.Reshape.Columns — what a reshaped row answers under one
name.

What a level answers under a name is said slot by slot
(`get?_reshapeFields`).  Where one slot alone has something to say, it
answers the column that a leaf selects (`get?_of_leaf`), the column itself
where the wildcard takes it over (`get?_of_star`), and null at most where
the slot expands a relation of which the source holds nothing
(`get?_of_relation`).
-/
import QueryCache.Proofs.Reshape.Level

namespace QueryCache

namespace Slot

section

variable {slots : List Slot} {source : Fields Json} {name : Text} {value : Json}

/-- Slots without slots below them have no rows under their key. -/
theorem last?_rows?_eq_none (h : ∀ slot ∈ slots, slot.key = name → slot.inner = []) :
    last? (rows? source name) slots = none := by
  refine last?_eq_none_iff.2 fun slot hslot => ?_
  rw [rows?]
  split
  · rename_i hkey
    rw [h slot hslot hkey]
    rfl
  · rfl

/-- A name that is the key of no slot answers what a wildcard takes over. -/
theorem get?_of_not_key (h : ∀ slot ∈ slots, slot.key ≠ name) :
    Fields.get? name (reshapeFields slots source) =
      takenOver? (claimed slots) source name slots := by
  have hrows : last? (rows? source name) slots = none :=
    last?_eq_none_iff.2 fun slot hslot => if_neg (h slot hslot)
  have hcolumn : last? (column? source name) slots = none :=
    last?_eq_none_iff.2 fun slot hslot => if_neg fun hkey => h slot hslot hkey.2.2
  rw [get?_reshapeFields, hrows, hcolumn]
  rfl

/-- A name that one leaf writes answers what the leaf reads. -/
theorem get?_of_leaf {segment : Text} (hstar : segment ≠ ['*'])
    (hleaf : ∃ slot ∈ slots, slot.segment = segment ∧ slot.key = name ∧ slot.isLeaf = true)
    (halone : ∀ slot ∈ slots, slot.key = name → slot.segment = segment ∧ slot.inner = [])
    (hvalue : lookup? source segment = some value) :
    Fields.get? name (reshapeFields slots source) = some value := by
  obtain ⟨leaf, hmem, rfl, rfl, hleaf⟩ := hleaf
  have hcolumn : last? (column? source leaf.key) slots = some value := by
    refine last?_eq_some hmem ((if_pos ⟨hleaf, hstar, rfl⟩).trans hvalue) ?_
    intro other hother found hfound
    obtain ⟨⟨-, -, hkey⟩, hfound⟩ := Option.ite_none_right_eq_some.1 hfound
    rw [(halone other hother hkey).1, hvalue] at hfound
    exact (Option.some.inj hfound).symm
  rw [get?_reshapeFields, last?_rows?_eq_none fun slot hslot hkey => (halone slot hslot hkey).2,
    hcolumn]
  rfl

/-- A column that no slot claims is taken over by the wildcard. -/
theorem get?_of_star
    (hleaf : ∃ slot ∈ slots, slot.segment = ['*'] ∧ slot.key = ['*'] ∧ slot.isLeaf = true)
    (halone : ∀ slot ∈ slots, slot.key = name ∨ slot.key = ['*'] →
      slot.segment = ['*'] ∧ slot.inner = [])
    (hclaimed : (claimed slots).contains (Segment.bareName (Text.upTo '.' name)) = false)
    (hvalue : Fields.get? name source = some value) :
    Fields.get? name (reshapeFields slots source) = some value := by
  obtain ⟨star, hmem, hsegment, hkey, hleaf⟩ := hleaf
  obtain ⟨front, back, hslots⟩ := List.append_of_mem hmem
  have hreads : readsAll source slots.reverse = true := by
    refine readsAll_iff.2 ⟨front, star, back, hslots, isWildcard_iff.2 ⟨hleaf, hsegment⟩, ?_⟩
    refine last?_eq_none_iff.1 (last?_rows?_eq_none fun slot hslot hname => ?_)
    exact (halone slot (hslots ▸ List.mem_append_left _ hslot) (Or.inr (hname.trans hkey))).2
  have hcolumn : last? (column? source name) slots = none :=
    last?_eq_none_iff.2 fun slot hslot =>
      if_neg fun h => h.2.1 (halone slot hslot (Or.inl h.2.2)).1
  rw [get?_reshapeFields,
    last?_rows?_eq_none fun slot hslot hname => (halone slot hslot (Or.inl hname)).2, hcolumn,
    takenOver?, if_pos ⟨hreads, hclaimed⟩, hvalue]
  rfl

/-- Where a name is that of relations, it answers at most null if the source
holds no rows for them. -/
theorem get?_of_relation (hstar : ∀ slot ∈ slots, slot.isLeaf = true → slot.segment ≠ ['*'])
    (hrelation : ∀ slot ∈ slots, slot.key = name → slot.isLeaf = false ∧
      ∀ below, below? source slot.segment slot.inner = some below → below = .null)
    (hvalue : Fields.get? name (reshapeFields slots source) = some value) : value = .null := by
  have hcolumn : last? (column? source name) slots = none :=
    last?_eq_none_iff.2 fun slot hslot =>
      if_neg fun h => by simp [(hrelation slot hslot h.2.2).1] at h
  rw [get?_reshapeFields, hcolumn, takenOver?_eq_none hstar, Option.or_none,
    Option.or_none] at hvalue
  obtain ⟨slot, hslot, hrows⟩ := List.exists_of_findSome?_eq_some hvalue
  obtain ⟨hkey, hbelow⟩ := Option.ite_none_right_eq_some.1 hrows
  exact (hrelation slot (List.mem_reverse.1 hslot) hkey).2 value hbelow

/-- A source without dotted names holds nothing flat. -/
theorem flatFields?_eq_none {source : Fields Json} (h : ∀ field ∈ source, '.' ∉ field.1)
    (segment : Text) : flatFields? source segment = none := by
  have hnil : source.filterMap (fun field =>
      (Text.stripStart (segment ++ ['.']) field.1).map fun rest => (rest, field.2)) = [] := by
    rw [List.filterMap_eq_nil_iff]
    intro field hfield
    rcases hstrip : Text.stripStart (segment ++ ['.']) field.1 with _ | rest
    · rfl
    · rw [Text.stripStart_eq_some_iff] at hstrip
      exact absurd (by simp [hstrip]) (h field hfield)
  unfold flatFields?
  rw [hnil]
  rfl

/-- A source without dotted names that holds neither an object nor an array
for a relation holds at most null below it. -/
theorem below?_eq_null {segment : Text} {inner : List Slot} {below : Json}
    (hflat : ∀ field ∈ source, '.' ∉ field.1)
    (hvalue : ∀ value, lookup? source segment = some value →
      value.isObject = false ∧ value.isArray = false)
    (hbelow : below? source segment inner = some below) : below = .null := by
  rw [below?] at hbelow
  split at hbelow
  · contradiction
  · rw [related?, flatFields?_eq_none hflat] at hbelow
    rcases hlookup : lookup? source segment with _ | value
    · simp [hlookup] at hbelow
    · obtain ⟨hobject, harray⟩ := hvalue value hlookup
      cases value <;> simp_all [Json.isObject, Json.isArray]

end

end Slot
end QueryCache
