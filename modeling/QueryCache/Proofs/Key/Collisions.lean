/-
QueryCache.Proofs.Key.Collisions — queries under one written key.

The fields of a key are written between dollars as they are, and what is
absent is written as a word.  So two queries can share an entry: a dollar
can end a name in one key and stand in it in the other, and the word can
be given where the other key has nothing (`sharesEntry_of_encode_eq`).
`eq_iff_isCutLike` says that there is no third way: of two keys that are
cut alike the fields are found one after the other, the query string too,
because it holds the dollars that are left.
-/
import QueryCache.Cache.Store
import QueryCache.Proofs.Key.ReadBack

namespace QueryCache
namespace CacheKey

/-! ## 1. The written key, from the front -/

/-- What follows the query string and its dollar. -/
def tail (key : CacheKey) : Text :=
  key.bodyKey.getD absent ++ '$' ::
    ("count=".toList ++ key.count.getD absent ++ '$' ::
      ("head=".toList ++ (if key.isHead then "true".toList else "false".toList) ++ '$' ::
        key.orderByKey.getD absent))

/-- The fields of a written key, one after the other. -/
theorem encode_eq_append (key : CacheKey) :
    key.encode {} = (if key.isInfinite then "page$".toList else []) ++
      ("postgrest$".toList ++ (key.schema ++ '$' :: (key.table ++ '$' ::
        (key.queryKey ++ '$' :: key.tail)))) := by
  rw [encode, segments, show ({} : CacheConfig).keySeparator = ['$'] from rfl,
    Text.joinText_singleton]
  split <;> rfl

theorem count_isHead (isHead : Bool) : List.count '$' ("head=".toList ++
    (if isHead then "true".toList else "false".toList)) = 0 := by
  cases isHead <;> decide

/-- The dollars behind the query string. -/
theorem count_tail {key : CacheKey} (hbody : key.bodyKey = none) :
    key.tail.count '$' =
      (key.count.getD absent).count '$' + (key.orderByKey.getD absent).count '$' + 3 := by
  have hhead := count_isHead key.isHead
  have hwords : List.count '$' absent = 0 ∧ List.count '$' "count=".toList = 0 := by decide
  rw [List.count_append] at hhead
  rw [tail, hbody, Option.getD_none]
  simp only [List.count_append, List.count_cons_self]
  omega

theorem isInfinite_eq_of_encode {a b : CacheKey} (h : a.encode {} = b.encode {}) :
    a.isInfinite = b.isInfinite := by
  have hsecond : ∀ key : CacheKey,
      (key.encode {})[1]? = if key.isInfinite then some 'a' else some 'o' := by
    intro key
    rw [encode_eq_append]
    split <;> rfl
  have hab := hsecond a
  rw [h, hsecond b] at hab
  cases ha : a.isInfinite <;> cases hb : b.isInfinite <;> simp [ha, hb] at hab ⊢

/-! ## 2. Keys that are cut alike -/

/-- As many dollars stand in each field but the query string, and neither
key gives the word for what the other one lacks. -/
structure IsCutLike (a b : CacheKey) : Prop where
  schema : a.schema.count '$' = b.schema.count '$'
  table : a.table.count '$' = b.table.count '$'
  count : (a.count.getD absent).count '$' = (b.count.getD absent).count '$'
  orderByKey : (a.orderByKey.getD absent).count '$' = (b.orderByKey.getD absent).count '$'
  count_given : a.count.getD absent = b.count.getD absent → a.count = b.count
  orderByKey_given :
    a.orderByKey.getD absent = b.orderByKey.getD absent → a.orderByKey = b.orderByKey

theorem IsCutLike.refl (key : CacheKey) : IsCutLike key key :=
  ⟨rfl, rfl, rfl, rfl, fun _ => rfl, fun _ => rfl⟩

/-- No name, count or order holds a dollar, and none is the word for
something absent. -/
structure IsPlain (key : CacheKey) : Prop where
  schema : '$' ∉ key.schema
  table : '$' ∉ key.table
  count : ∀ count ∈ key.count, '$' ∉ count ∧ count ≠ absent
  orderByKey : ∀ order ∈ key.orderByKey, '$' ∉ order ∧ order ≠ absent

theorem count_getD_of_isPlain {field : Option Text}
    (h : ∀ text ∈ field, '$' ∉ text ∧ text ≠ absent) : (field.getD absent).count '$' = 0 := by
  rcases field with _ | text
  · decide
  · exact List.count_eq_zero.2 (h text rfl).1

theorem eq_of_getD_eq {field other : Option Text} (hfield : ∀ text ∈ field, text ≠ absent)
    (hother : ∀ text ∈ other, text ≠ absent) (h : field.getD absent = other.getD absent) :
    field = other := by
  rcases field with _ | text <;> rcases other with _ | word
  · rfl
  · exact absurd h.symm (hother word rfl)
  · exact absurd h (hfield text rfl)
  · exact congrArg some h

/-- Plain keys are cut alike, whatever their query strings are. -/
theorem IsPlain.isCutLike {a b : CacheKey} (ha : a.IsPlain) (hb : b.IsPlain) : IsCutLike a b where
  schema := by rw [List.count_eq_zero.2 ha.schema, List.count_eq_zero.2 hb.schema]
  table := by rw [List.count_eq_zero.2 ha.table, List.count_eq_zero.2 hb.table]
  count := by rw [count_getD_of_isPlain ha.count, count_getD_of_isPlain hb.count]
  orderByKey := by rw [count_getD_of_isPlain ha.orderByKey, count_getD_of_isPlain hb.orderByKey]
  count_given := eq_of_getD_eq (fun _ hmem => (ha.count _ hmem).2) fun _ hmem =>
    (hb.count _ hmem).2
  orderByKey_given := eq_of_getD_eq (fun _ hmem => (ha.orderByKey _ hmem).2) fun _ hmem =>
    (hb.orderByKey _ hmem).2

/-- What follows the query strings is made of the same fields. -/
theorem eq_of_tail_eq {a b : CacheKey} (h : a.tail = b.tail) (hcut : IsCutLike a b)
    (hbody : a.bodyKey = b.bodyKey) :
    a.count = b.count ∧ a.isHead = b.isHead ∧ a.orderByKey = b.orderByKey := by
  rw [tail, tail, hbody] at h
  obtain ⟨-, h⟩ := Text.append_sep_inj h rfl
  obtain ⟨hcount, h⟩ := Text.append_sep_inj h (by
    rw [List.count_append, List.count_append, hcut.count])
  obtain ⟨hflag, horder⟩ := Text.append_sep_inj h
    ((count_isHead a.isHead).trans (count_isHead b.isHead).symm)
  refine ⟨hcut.count_given (List.append_cancel_left hcount), ?_, hcut.orderByKey_given horder⟩
  cases ha : a.isHead <;> cases hb : b.isHead <;> simp [ha, hb] at hflag ⊢

/-- A query is known by the fields of its key. -/
theorem IsOfQuery.ext {a b : CacheKey} (ha : a.IsOfQuery) (hb : b.IsOfQuery)
    (schema : a.schema = b.schema) (table : a.table = b.table) (queryKey : a.queryKey = b.queryKey)
    (bodyKey : a.bodyKey = b.bodyKey) (count : a.count = b.count) (isHead : a.isHead = b.isHead)
    (orderByKey : a.orderByKey = b.orderByKey) (isInfinite : a.isInfinite = b.isInfinite) :
    a = b := by
  rw [IsOfQuery] at ha hb
  rw [ha, hb, schema, table, queryKey, bodyKey, count, isHead, orderByKey, isInfinite]

/-- Built keys that are cut alike are written apart. -/
theorem eq_of_encode_eq {a b : CacheKey} (ha : a.IsBuilt) (hb : b.IsBuilt) (hcut : IsCutLike a b)
    (h : a.encode {} = b.encode {}) : a = b := by
  have hinfinite := isInfinite_eq_of_encode h
  have hbody : a.bodyKey = b.bodyKey := ha.bodyKey_eq_none.trans hb.bodyKey_eq_none.symm
  rw [encode_eq_append, encode_eq_append, hinfinite] at h
  have hfields := List.append_cancel_left (List.append_cancel_left h)
  obtain ⟨hschema, hfields⟩ := Text.append_sep_inj hfields hcut.schema
  obtain ⟨htable, hfields⟩ := Text.append_sep_inj hfields hcut.table
  -- the query strings hold the dollars that stand in no other field
  have hquery : a.queryKey.count '$' = b.queryKey.count '$' := by
    have htotal := congrArg (List.count '$') hfields
    rw [List.count_append, List.count_append, List.count_cons_self, List.count_cons_self,
      count_tail ha.bodyKey_eq_none, count_tail hb.bodyKey_eq_none, hcut.count,
      hcut.orderByKey] at htotal
    omega
  obtain ⟨hquery, htail⟩ := Text.append_sep_inj hfields hquery
  obtain ⟨hcount, hhead, horder⟩ := eq_of_tail_eq htail hcut hbody
  exact ha.isOfQuery.ext hb.isOfQuery hschema htable hquery hbody hcount hhead horder hinfinite

/-! ## 3. Entries -/

/-- Built keys that are written alike are equal exactly if they are cut
alike; so the entry of a query outlives what is stored for any other one
that is cut like it.  Plain keys are. -/
theorem eq_iff_isCutLike {a b : CacheKey} (ha : a.IsBuilt) (hb : b.IsBuilt) :
    (a.encode {} = b.encode {} → (a = b ↔ IsCutLike a b)) ∧
      (IsCutLike a b → a ≠ b → ∀ (store : Store) (data : CacheData),
        (store.insertQuery {} b data).get? (a.encode {}) = store.get? (a.encode {})) ∧
      (a.IsPlain → b.IsPlain → IsCutLike a b) := by
  refine ⟨fun h => ?_, fun hcut hne store data => ?_, IsPlain.isCutLike⟩
  · constructor
    · rintro rfl
      exact IsCutLike.refl a
    · intro hcut
      exact eq_of_encode_eq ha hb hcut h
  · exact Store.get?_insert_of_ne (fun h => hne (eq_of_encode_eq ha hb hcut h)) store data

/-- Two built keys share an entry: they differ, and what is stored for
`b` is found under `a`. -/
structure SharesEntry (a b : CacheKey) : Prop where
  isBuilt_left : a.IsBuilt
  isBuilt_right : b.IsBuilt
  ne : a ≠ b
  encode_eq : a.encode {} = b.encode {}
  overwritten : ∀ (store : Store) (data : CacheData),
    (store.insertQuery {} b data).get? (a.encode {}) = some data

theorem sharesEntry_of_encode_eq {a b : CacheKey} (ha : a.IsBuilt) (hb : b.IsBuilt) (hne : a ≠ b)
    (h : a.encode {} = b.encode {}) : SharesEntry a b where
  isBuilt_left := ha
  isBuilt_right := hb
  ne := hne
  encode_eq := h
  overwritten := fun store data => h ▸ Store.get?_insert_self store (b.encode {}) data

/-- A query whose order is named by the word for no order, and the tables
`price$list` of one schema and `list` of another. -/
theorem sharesEntry_contacts_prices :
    SharesEntry (ofQuery "public" "contact" "select=id")
        ((ofQuery "public" "contact" "select=id").withOrderByKey "null") ∧
      SharesEntry (ofQuery "public" "price$list" "select=id")
        (ofQuery "public$price" "list" "select=id") := by
  constructor
  · exact sharesEntry_of_encode_eq (.ofQuery _ _ _) ((IsBuilt.ofQuery _ _ _).withOrderByKey _)
      (by decide) (by decide)
  · exact sharesEntry_of_encode_eq (.ofQuery _ _ _) (.ofQuery _ _ _) (by decide) (by decide)

/-- What is stored for a query with more dollars leaves the entry of
another query on the table; keys that share an entry are not cut alike. -/
theorem eq_iff_isCutLike_prices :
    let prices := ofQuery "public" "price" "label=eq.$5"
    let counted := (ofQuery "public" "price" "label=eq.$5$null").withCount "exact"
    let store := Store.insertQuery {} {} prices (.pages [[.null]])
    let contacts := ofQuery "public" "contact" "select=id"
    (store.insertQuery {} counted (.pages [])).get? (prices.encode {}) = some (.pages [[.null]]) ∧
      ¬ IsCutLike contacts (contacts.withOrderByKey "null") := by
  intro prices counted store contacts
  have hprices : prices.IsPlain :=
    ⟨by decide, by decide, by simp [prices, ofQuery], by simp [prices, ofQuery]⟩
  have hcounted : counted.IsPlain := by
    refine ⟨by decide, by decide, ?_, by simp [counted, ofQuery, withCount]⟩
    rintro _ ⟨⟩
    decide
  constructor
  · obtain ⟨-, hkept, hplain⟩ := eq_iff_isCutLike (.ofQuery _ _ _ : prices.IsBuilt)
      ((IsBuilt.ofQuery _ _ _).withCount _ : counted.IsBuilt)
    rw [hkept (hplain hprices hcounted) (by decide) store (.pages [])]
    exact Store.get?_insert_self {} (prices.encode {}) _
  · have hbuilt : contacts.IsBuilt := .ofQuery _ _ _
    have hiff := (eq_iff_isCutLike hbuilt (hbuilt.withOrderByKey "null")).1 (by decide)
    exact fun hcut => absurd (hiff.2 hcut) (by decide)

end CacheKey
end QueryCache
