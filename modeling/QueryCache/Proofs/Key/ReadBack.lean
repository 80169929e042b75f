/-
QueryCache.Proofs.Key.ReadBack — written keys are read back.

A written key is cut at its separator.  The query string may hold it too
and falls into parts; the segments around the query string do not, and
there are always the same number of them.  So the key is found again by
counting segments from both ends (`ofSegments?_parts`), and the parts
between them are joined to the query string that they were cut from.
`decode_encode` says so of the keys that are built from legible fields,
and of every key that was read from a text.
-/
import Mathlib.Data.Option.Basic
import QueryCache.Cache.Key
import QueryCache.Proofs.Text

namespace QueryCache

/-- Keys are cut at one character, which stands neither in the mark of the
cache nor in the words of a written key. -/
structure CacheConfig.CutsAt (config : CacheConfig) (sep : Char) : Prop where
  separator_eq : config.keySeparator = [sep]
  not_letter : sep.isAlpha = false
  ne_equals : sep ≠ '='
  not_in_prefix : sep ∉ config.keyPrefix
  ne_page : config.keyPrefix ≠ CacheKey.pageMarker

namespace CacheKey

/-! ## 1. Fields of a key -/

/-- The key is made by `ofQuery` and changed by `withOrderByKey`,
`withCount`, `head` and `infinite`. -/
inductive IsBuilt : CacheKey → Prop
  | ofQuery (schema table queryKey : Text) : IsBuilt (.ofQuery schema table queryKey)
  | withOrderByKey {key : CacheKey} (h : IsBuilt key) (orderByKey : Text) :
      IsBuilt (key.withOrderByKey orderByKey)
  | withCount {key : CacheKey} (h : IsBuilt key) (count : Text) : IsBuilt (key.withCount count)
  | head {key : CacheKey} (h : IsBuilt key) : IsBuilt key.head
  | infinite {key : CacheKey} (h : IsBuilt key) : IsBuilt key.infinite

/-- The selection and the window of the key are those of its query string. -/
def IsOfQuery (key : CacheKey) : Prop :=
  key = { ofQuery key.schema key.table key.queryKey with
    bodyKey := key.bodyKey
    count := key.count
    isHead := key.isHead
    orderByKey := key.orderByKey
    isInfinite := key.isInfinite }

theorem IsBuilt.isOfQuery {key : CacheKey} (h : key.IsBuilt) : key.IsOfQuery := by
  induction h with
  | ofQuery schema table queryKey => rfl
  | withOrderByKey _ orderByKey ih => exact congrArg (·.withOrderByKey orderByKey) ih
  | withCount _ count ih => exact congrArg (·.withCount count) ih
  | head _ ih => exact congrArg CacheKey.head ih
  | infinite _ ih => exact congrArg CacheKey.infinite ih

/-- A body changes nothing in the query. -/
theorem IsOfQuery.withBody {key : CacheKey} (h : key.IsOfQuery) (body : Option Text) :
    IsOfQuery { key with bodyKey := body } := by
  rw [IsOfQuery] at h
  rw [h]
  rfl

/-- No function but the one that sets it gives a key a body. -/
theorem IsBuilt.bodyKey_eq_none {key : CacheKey} (h : key.IsBuilt) : key.bodyKey = none := by
  induction h with
  | ofQuery schema table queryKey => rfl
  | _ => assumption

/-- The text stands in one segment, and does not stand for something
absent there. -/
structure IsGiven (sep : Char) (text : Text) : Prop where
  not_cut : sep ∉ text
  ne_nil : text ≠ []
  ne_absent : text ≠ absent

/-- Every field but the query string stands in a segment of its own. -/
structure IsLegible (sep : Char) (key : CacheKey) : Prop where
  schema : sep ∉ key.schema
  table : sep ∉ key.table
  bodyKey : ∀ body ∈ key.bodyKey, IsGiven sep body
  count : ∀ count ∈ key.count, IsGiven sep count
  orderByKey : ∀ order ∈ key.orderByKey, IsGiven sep order

theorem present?_getD {sep : Char} {field : Option Text}
    (h : ∀ text ∈ field, IsGiven sep text) : present? (field.getD absent) = field := by
  rcases field with _ | text
  · decide
  · have hgiven := h text rfl
    rw [Option.getD_some, present?, if_neg]
    simp [hgiven.ne_nil, hgiven.ne_absent]

theorem isGiven_of_present? {sep : Char} {segment : Text} (hsep : sep ∉ segment) :
    ∀ text ∈ present? segment, IsGiven sep text := by
  intro text htext
  rw [present?, Option.mem_def] at htext
  split at htext
  · contradiction
  · rename_i h
    rw [not_or, List.isEmpty_iff] at h
    rw [← Option.some.inj htext]
    exact ⟨hsep, h.2, h.1⟩

/-! ## 2. Segments -/

section

variable {config : CacheConfig} {sep : Char} (h : config.CutsAt sep)
include h

/-- The separator is no letter of a word. -/
theorem not_mem_word {word : Text} (hword : word.all Char.isAlpha = true) : sep ∉ word := by
  intro hmem
  have hletter := List.all_eq_true.1 hword sep hmem
  rw [h.not_letter] at hletter
  contradiction

theorem not_mem_getD {field : Option Text} (hfield : ∀ text ∈ field, IsGiven sep text) :
    sep ∉ field.getD absent := by
  rcases field with _ | text
  · exact not_mem_word h (by decide)
  · exact (hfield text rfl).not_cut

theorem not_mem_labelled {label text : Text} (hlabel : label.all Char.isAlpha = true)
    (htext : sep ∉ text) : sep ∉ label ++ '=' :: text := by
  simp [not_mem_word h hlabel, h.ne_equals, htext]

/-- The segments that a written key is cut into: those around the query
string as they are, and the parts of the query string. -/
theorem splitOnText_encode {key : CacheKey} (hlegible : key.IsLegible sep) :
    Text.splitOnText config.keySeparator (key.encode config) =
      (if key.isInfinite then [pageMarker] else []) ++
        config.keyPrefix :: key.schema :: key.table :: (Text.splitOn sep key.queryKey ++
          [key.bodyKey.getD absent, "count=".toList ++ key.count.getD absent,
            "head=".toList ++ (if key.isHead then "true".toList else "false".toList),
            key.orderByKey.getD absent]) := by
  have hpage : sep ∉ pageMarker := not_mem_word h (by decide)
  have hbody := not_mem_getD h hlegible.bodyKey
  have hcount : sep ∉ "count=".toList ++ key.count.getD absent :=
    @not_mem_labelled _ _ h "count".toList _ (by decide) (not_mem_getD h hlegible.count)
  have hhead : sep ∉ "head=".toList ++ (if key.isHead then "true".toList else "false".toList) := by
    refine @not_mem_labelled _ _ h "head".toList _ (by decide) ?_
    split <;> exact not_mem_word h (by decide)
  have horder := not_mem_getD h hlegible.orderByKey
  rw [encode, segments, h.separator_eq, Text.joinText_singleton, Text.splitOnText_singleton,
    Text.splitOn_join_eq_flatMap (List.append_ne_nil_of_right_ne_nil _ (List.cons_ne_nil _ _)),
    List.flatMap_append]
  simp only [List.flatMap_cons, List.flatMap_nil, Text.splitOn_of_not_mem h.not_in_prefix,
    Text.splitOn_of_not_mem hlegible.schema, Text.splitOn_of_not_mem hlegible.table,
    Text.splitOn_of_not_mem hbody, Text.splitOn_of_not_mem hcount, Text.splitOn_of_not_mem hhead,
    Text.splitOn_of_not_mem horder, List.singleton_append]
  split
  · rw [List.flatMap_singleton, Text.splitOn_of_not_mem hpage]
  · rfl

end

/-- The key is found by counting segments from both ends. -/
theorem ofSegments?_parts (config : CacheConfig) (isInfinite isHead : Bool)
    (schema table body count order : Text) {parts : List Text} (hparts : parts ≠ []) :
    ofSegments? config isInfinite (config.keyPrefix :: schema :: table :: (parts ++
        [body, "count=".toList ++ count,
          "head=".toList ++ (if isHead then "true".toList else "false".toList), order])) =
      some { ofQuery schema table (Text.joinText config.keySeparator parts) with
        bodyKey := present? body
        count := present? count
        isHead
        orderByKey := present? order
        isInfinite } := by
  have hpos := List.length_pos_iff.2 hparts
  have hlast : ∀ a b c d : Text,
      (config.keyPrefix :: schema :: table :: (parts ++ [a, b, c, d])).drop
        ((config.keyPrefix :: schema :: table :: (parts ++ [a, b, c, d])).length - 4) =
          [a, b, c, d] := by
    intro a b c d
    have hlength : (config.keyPrefix :: schema :: table :: (parts ++ [a, b, c, d])).length - 4 =
        parts.length + 3 := by
      simp only [List.length_cons, List.length_append, List.length_nil]
      omega
    rw [hlength]
    simp
  have hfirst : ∀ a b c d : Text,
      (parts ++ [a, b, c, d]).take ((parts ++ [a, b, c, d]).length - 4) = parts := by
    simp
  rw [ofSegments?.eq_def, if_neg (by simp only [List.length_cons, List.length_append]; omega)]
  simp only [hlast, hfirst, beq_self_eq_true, Text.stripStart_append]
  cases isHead <;> rfl

/-- A key read from segments is that of its query string, and legible. -/
theorem isLegible_of_ofSegments? {config : CacheConfig} {isInfinite : Bool} {segments : List Text}
    {sep : Char} (hsegments : ∀ segment ∈ segments, sep ∉ segment) {key : CacheKey}
    (h : ofSegments? config isInfinite segments = some key) :
    key.IsOfQuery ∧ key.IsLegible sep := by
  rw [ofSegments?.eq_def] at h
  split at h
  · contradiction
  · split at h
    · rename_i mark schema table rest body count head order _ hlast
      have hend : ∀ segment ∈ [body, count, head, order], sep ∉ segment := fun segment hmem =>
        hsegments segment (List.mem_of_mem_drop (hlast ▸ hmem))
      simp only [Option.bind_eq_bind, Option.bind_eq_some_iff, Option.guard_eq_some',
        Text.stripStart_eq_some_iff] at h
      obtain ⟨_, -, given, rfl, value, -, hkey⟩ := h
      have hgiven : sep ∉ given := fun hmem =>
        hend _ (by simp) (List.mem_append_right "count=".toList hmem)
      have hread : ∀ isHead, key = { ofQuery schema table
          (Text.joinText config.keySeparator (rest.take (rest.length - 4))) with
            bodyKey := present? body, count := present? given, isHead,
            orderByKey := present? order, isInfinite } → key.IsOfQuery ∧ key.IsLegible sep := by
        rintro isHead rfl
        exact ⟨rfl, {
          schema := hsegments schema (by simp)
          table := hsegments table (by simp)
          bodyKey := isGiven_of_present? (hend body (by simp))
          count := isGiven_of_present? hgiven
          orderByKey := isGiven_of_present? (hend order (by simp)) }⟩
      split at hkey
      · exact hread true (Option.some.inj hkey).symm
      · split at hkey
        · exact hread false (Option.some.inj hkey).symm
        · contradiction
    · contradiction

/-! ## 3. Reading back -/

section

variable {config : CacheConfig} {sep : Char} (h : config.CutsAt sep)
include h

/-- A legible key is read back. -/
theorem decode_encode_of_isLegible {key : CacheKey} (hquery : key.IsOfQuery)
    (hlegible : key.IsLegible sep) : decode config (encode config key) = some key := by
  have hparts : ofSegments? config key.isInfinite (config.keyPrefix :: key.schema :: key.table ::
      (Text.splitOn sep key.queryKey ++ [key.bodyKey.getD absent,
        "count=".toList ++ key.count.getD absent,
        "head=".toList ++ (if key.isHead then "true".toList else "false".toList),
        key.orderByKey.getD absent])) = some key := by
    rw [ofSegments?_parts config key.isInfinite key.isHead _ _ _ _ _ (Text.splitOn_ne_nil _ _),
      h.separator_eq, Text.joinText_singleton, Text.join_splitOn, present?_getD hlegible.bodyKey,
      present?_getD hlegible.count, present?_getD hlegible.orderByKey]
    exact congrArg some hquery.symm
  rw [decode, splitOnText_encode h hlegible]
  cases hinfinite : key.isInfinite with
  | true =>
    rw [hinfinite] at hparts
    exact (if_pos rfl).trans hparts
  | false =>
    rw [hinfinite] at hparts
    exact (if_neg h.ne_page).trans hparts

/-- Whatever text a key was read from, the key is legible. -/
theorem isLegible_of_decode {key : CacheKey} {text : Text}
    (hdecode : decode config text = some key) : key.IsOfQuery ∧ key.IsLegible sep := by
  have hsegments : ∀ segment ∈ Text.splitOn sep text, sep ∉ segment := fun segment =>
    Text.not_mem_of_mem_splitOn
  obtain ⟨first, rest, hsplit⟩ := List.exists_cons_of_ne_nil (Text.splitOn_ne_nil sep text)
  rw [decode, h.separator_eq, Text.splitOnText_singleton] at hdecode
  rw [hsplit] at hdecode hsegments
  dsimp only at hdecode
  split at hdecode
  · exact isLegible_of_ofSegments? (fun segment hmem =>
      hsegments segment (List.mem_cons_of_mem _ hmem)) hdecode
  · exact isLegible_of_ofSegments? hsegments hdecode

end

/-- A key that is built from legible fields is read back from what is
written for it, and so is every key that was read before. -/
theorem decode_encode {config : CacheConfig} {sep : Char} (h : config.CutsAt sep) :
    (∀ (key : CacheKey) (body : Option Text), key.IsBuilt →
      IsLegible sep { key with bodyKey := body } →
        decode config (encode config { key with bodyKey := body }) =
          some { key with bodyKey := body }) ∧
      ∀ (text : Text) (key : CacheKey), decode config text = some key →
        decode config (encode config key) = some key := by
  constructor
  · intro key body hbuilt hlegible
    exact decode_encode_of_isLegible h (hbuilt.isOfQuery.withBody body) hlegible
  · intro text key hdecode
    obtain ⟨hquery, hlegible⟩ := isLegible_of_decode h hdecode
    exact decode_encode_of_isLegible h hquery hlegible

/-- The query for the prices with a dollar on their label. -/
def dollarPrices : CacheKey :=
  ofQuery "public" "price" "select=id&label=eq.$5&limit=10"

/-- The dollar in the query string does not cut it, and a text that leaves
out what is absent is read like one that says so. -/
theorem decode_encode_dollarPrices :
    let key := { ((dollarPrices.withOrderByKey "id:asc.nullsLast").withCount "exact").infinite with
      bodyKey := some "id".toList }
    let terse := "postgrest$public$price$select=id&label=eq.$5&limit=10$$count=$head=false$".toList
    decode {} (encode {} key) = some key ∧
      encode {} dollarPrices ≠ terse ∧ decode {} terse = some dollarPrices ∧
        decode {} (encode {} dollarPrices) = some dollarPrices := by
  intro key terse
  have hcuts : CacheConfig.CutsAt {} '$' :=
    ⟨rfl, by decide, by decide, by decide, by decide⟩
  have hterse : decode {} terse = some dollarPrices := by decide +kernel
  refine ⟨(decode_encode hcuts).1 _ (some "id".toList) ?_ ?_, by decide +kernel, hterse,
    (decode_encode hcuts).2 _ _ hterse⟩
  · exact (((IsBuilt.ofQuery _ _ _).withOrderByKey _).withCount _).infinite
  · constructor
    · decide
    · decide
    all_goals
      rintro _ ⟨⟩
      constructor <;> decide

end CacheKey
end QueryCache
