/-
QueryCache.Proofs.Filter.Entries — query strings as lists of keys and values.

The positions that a reader is given stand in its errors and nowhere else.  So
what a query string asks for is a fold over the keys and values of its
parameters (`toOption_parseQueryKey`), and every parameter adds to the filters
that are there already, whatever those are (`foldlM_addEntry_prepend`).
-/
import QueryCache.Proofs.Filter.Resolved

namespace QueryCache

/-! ## 1. Results without their errors -/

section

variable {ε α β : Type}

theorem toOption_map (f : α → β) (result : Except ε α) :
    (result.map f).toOption = result.toOption.map f := by
  cases result <;> rfl

theorem toOption_bind (result : Except ε α) (f : α → Except ε β) :
    (result >>= f).toOption = result.toOption.bind fun a => (f a).toOption := by
  cases result <;> rfl

theorem toOption_eq_some_iff {result : Except ε α} {a : α} :
    result.toOption = some a ↔ result = .ok a := by
  cases result <;> simp [Except.toOption]

theorem toOption_mapM_congr {f g : β → Except ε α} (h : ∀ b, (f b).toOption = (g b).toOption)
    (list : List β) : (list.mapM f).toOption = (list.mapM g).toOption := by
  induction list with
  | nil => rfl
  | cons b rest ih => simp only [List.mapM_cons, toOption_bind, h, ih]

theorem toOption_foldlM (f : α → β → Except ε α) (list : List β) (start : α) :
    (list.foldlM f start).toOption = list.foldlM (fun a b => (f a b).toOption) start := by
  induction list generalizing start with
  | nil => rfl
  | cons b rest ih =>
    rw [List.foldlM_cons, List.foldlM_cons, toOption_bind]
    exact congrArg _ (funext ih)

end

/-! ## 2. Positions in errors alone -/

theorem toOption_split (text : Text) (offset : Nat) :
    (TopLevel.split text offset).toOption = (TopLevel.cut {} 0 0 [] text).toOption := by
  rw [TopLevel.split]
  cases TopLevel.cut {} 0 0 [] text <;> rfl

theorem toOption_parseItems (inner : Text) (offset other : Nat) :
    (parseItems inner offset).toOption = (parseItems inner other).toOption := by
  rw [parseItems, parseItems, toOption_bind, toOption_bind, toOption_split, toOption_split]

theorem toOption_parseOperand (operator : FilterOperator) (operand : Text) (offset other : Nat) :
    (parseOperand operator operand offset).toOption =
      (parseOperand operator operand other).toOption := by
  have hitems := fun inner => toOption_parseItems inner offset other
  unfold parseOperand
  split
  · split
    · rw [toOption_map, toOption_map, hitems]
    · rfl
  iterate 2
    · split
      · rfl
      · split
        · rw [toOption_map, toOption_map, hitems]
        · rfl
  · extract_lets word
    split
    · rfl
    split
    · rfl
    split <;> rfl
  all_goals rfl

theorem toOption_parseCondition (column expression : Text) (relation : Option Text)
    (offset other : Nat) :
    (parseCondition column expression relation offset).toOption =
      (parseCondition column expression relation other).toOption := by
  unfold parseCondition
  split
  split
  · rfl
  · split
    · rfl
    · rename_i operator _
      rw [toOption_bind, toOption_bind, toOption_parseOperand operator _ offset other]

theorem toOption_parseMember (item : Text) (relation : Option Text) (offset other : Nat) :
    (parseMember item relation offset).toOption = (parseMember item relation other).toOption := by
  unfold parseMember
  split
  · rfl
  · rw [toOption_map, toOption_map, toOption_parseCondition _ _ relation offset other]

theorem toOption_parseGroupWithin (relation : Option Text) (nesting : Nat) (logic : Logic)
    (body : Text) (offset other : Nat) :
    (parseGroupWithin relation nesting logic body offset).toOption =
      (parseGroupWithin relation nesting logic body other).toOption := by
  induction nesting generalizing logic body offset other with
  | zero => rfl
  | succ nesting ih =>
    rw [parseGroupWithin, parseGroupWithin]
    split
    · rfl
    · rw [toOption_bind, toOption_bind, toOption_split, toOption_split]
      refine congrArg _ (funext fun items => ?_)
      rw [toOption_bind, toOption_bind, toOption_mapM_congr fun item => ?_]
      -- An item is a group or a condition, at whatever place it stands.
      obtain ⟨position, text⟩ := item
      dsimp only
      split
      · rfl
      · split
        · rw [toOption_map, toOption_map]
          exact congrArg _ (ih _ _ _ _)
        · exact toOption_parseMember _ _ _ _

namespace ParsedQuery

theorem toOption_parseFilter (param : QueryParam) (offset : Nat) :
    (parseFilter param).toOption = (parseFilter { param with offset }).toOption := by
  unfold parseFilter
  dsimp only
  split
  · rw [toOption_map, toOption_map]
    exact congrArg _ (toOption_parseGroupWithin _ _ _ _ _ _)
  · rw [toOption_map, toOption_map]
    exact congrArg _ (toOption_parseCondition _ _ _ _ _)

theorem toOption_count (param : QueryParam) (offset : Nat) :
    param.count.toOption = ({ param with offset }).count.toOption := by
  unfold QueryParam.count
  dsimp only
  split <;> rfl

/-! ## 3. Keys and values -/

/-- The query with one more key and value read. -/
def addEntry (query : ParsedQuery) (entry : Text × Text) : Option ParsedQuery :=
  (query.addParam ⟨entry.1, entry.2, 0⟩).toOption

theorem toOption_addParam (query : ParsedQuery) (param : QueryParam) :
    (query.addParam param).toOption = query.addEntry (param.key, param.value) := by
  unfold addEntry addParam
  dsimp only
  split
  · rfl
  split
  · rfl
  split
  · rw [toOption_map, toOption_map, toOption_count param 0]
  split
  · rw [toOption_map, toOption_map, toOption_count param 0]
  split
  · rfl
  · rw [toOption_map, toOption_map, toOption_parseFilter param 0]

/-- The query with filters in front of its own. -/
def prepend (front : List FilterTree) (query : ParsedQuery) : ParsedQuery :=
  { query with filters := front ++ query.filters }

/-- An entry adds the same, whatever filters are there. -/
theorem addEntry_prepend (front : List FilterTree) (query : ParsedQuery) (entry : Text × Text) :
    (query.prepend front).addEntry entry = (query.addEntry entry).map (prepend front) := by
  unfold addEntry addParam
  dsimp only [prepend]
  split
  · rfl
  split
  · rw [toOption_map, toOption_map, Option.map_map]
    rfl
  split
  · rw [toOption_map, toOption_map, Option.map_map]
    rfl
  split
  · rw [toOption_map, toOption_map, Option.map_map]
    rfl
  split
  · rfl
  · rw [toOption_map, toOption_map, Option.map_map]
    refine congrArg (Option.map · _) (funext fun filter => ?_)
    rw [Function.comp_apply, List.append_assoc]
    rfl

theorem foldlM_addEntry_prepend (front : List FilterTree) (entries : List (Text × Text))
    (query : ParsedQuery) :
    entries.foldlM addEntry (query.prepend front) =
      (entries.foldlM addEntry query).map (prepend front) := by
  induction entries generalizing query with
  | nil => rfl
  | cons entry rest ih =>
    rw [List.foldlM_cons, List.foldlM_cons, addEntry_prepend]
    cases query.addEntry entry with
    | none => rfl
    | some next => exact ih next

end ParsedQuery

/-- The keys and values of the parameters of a query string. -/
def QueryParam.entries (text : Text) : Option (List (Text × Text)) :=
  (QueryParam.ofText text).toOption.map (List.map fun param => (param.key, param.value))

/-- The value of the first selection, or every column. -/
def selectionOf (entries : List (Text × Text)) : Text :=
  ((entries.find? fun entry => entry.1 == "select".toList).map Prod.snd).getD ['*']

/-- What a query string asks for depends on its keys and values alone. -/
theorem toOption_parseQueryKey (text : Text) :
    (parseQueryKey text).toOption =
      (QueryParam.entries text).bind fun entries =>
        (parseSelect (selectionOf entries)).toOption.bind fun paths =>
          entries.foldlM ParsedQuery.addEntry { select := selectionOf entries, paths } := by
  rw [parseQueryKey, toOption_bind, QueryParam.entries, Option.bind_map]
  refine congrArg _ (funext fun params => ?_)
  dsimp only [Function.comp_apply]
  have hread : ∀ select, (parseSelect select >>= fun paths =>
        params.foldlM ParsedQuery.addParam { select, paths }).toOption =
      (parseSelect select).toOption.bind fun paths =>
        (params.map fun param => (param.key, param.value)).foldlM ParsedQuery.addEntry
          { select, paths } := by
    intro select
    rw [toOption_bind]
    refine congrArg _ (funext fun paths => ?_)
    rw [toOption_foldlM, List.foldlM_map]
    simp only [ParsedQuery.toOption_addParam]
  rw [selectionOf, List.find?_map, Function.comp_def]
  cases params.find? fun param => param.key == "select".toList with
  | none => exact hread _
  | some param => exact hread _

end QueryCache
