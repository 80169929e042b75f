/-
QueryCache.Json.Basic — JSON values.

An object is the list of its fields in ascending order of their names,
each name once; every operation that builds an object keeps that order,
so equal objects are equal lists.  `Json.sameAs` is the equality the
cache uses: structural, with both zeros alike.  `Json.mapRows` and
`Json.rows` look through arrays, however deeply nested, at the values
they hold.
-/
import QueryCache.Json.Number
import QueryCache.Text.Basic

namespace QueryCache

/-! ## 1. Fields -/

/-- Named values in ascending order of the names, each name once. -/
abbrev Fields (α : Type) := List (Text × α)

namespace Fields

variable {α : Type}

/-- The value under a name. -/
def get? (name : Text) (fields : Fields α) : Option α :=
  fields.lookup name

/-- The field with this name is there. -/
def has (name : Text) (fields : Fields α) : Bool :=
  (get? name fields).isSome

/-- The fields with the value under `name` set. -/
def insert (name : Text) (value : α) : Fields α → Fields α
  | [] => [(name, value)]
  | (n, v) :: rest =>
    match compare name n with
    | .lt => (name, value) :: (n, v) :: rest
    | .eq => (name, value) :: rest
    | .gt => (n, v) :: insert name value rest

/-- The fields without the one under `name`. -/
def erase (name : Text) (fields : Fields α) : Fields α :=
  fields.filter fun field => field.1 != name

/-- Fields written one after the other; of two with one name the later
one stays. -/
def ofList (entries : List (Text × α)) : Fields α :=
  entries.foldl (fun fields entry => insert entry.1 entry.2 fields) []

/-- `fields` with those of `upper` laid over them. -/
def overlay (fields upper : Fields α) : Fields α :=
  upper.foldl (fun fields entry => insert entry.1 entry.2 fields) fields

/-- The names ascend, each once. -/
def Ascending (fields : Fields α) : Prop :=
  fields.Pairwise fun a b => compare a.1 b.1 = .lt

@[simp] theorem get?_insert_self (name : Text) (value : α) (fields : Fields α) :
    get? name (insert name value fields) = some value := by
  induction fields with
  | nil => simp [insert, get?]
  | cons field rest ih =>
    obtain ⟨n, v⟩ := field
    simp only [insert]
    split
    · simp [get?]
    · simp [get?]
    · rename_i h
      have hne : (name == n) = false := by
        apply beq_false_of_ne
        intro heq
        rw [heq] at h
        simp [Std.ReflOrd.compare_self] at h
      simpa [get?, List.lookup_cons, hne] using ih

theorem get?_insert_of_ne {name other : Text} (h : other ≠ name) (value : α) (fields : Fields α) :
    get? other (insert name value fields) = get? other fields := by
  induction fields with
  | nil => simp [insert, get?, List.lookup_cons, beq_false_of_ne h]
  | cons field rest ih =>
    obtain ⟨n, v⟩ := field
    simp only [insert]
    split
    · simp [get?, List.lookup_cons, beq_false_of_ne h]
    · rename_i hc
      have hn : name = n := Std.LawfulEqOrd.eq_of_compare hc
      subst hn
      simp [get?, List.lookup_cons, beq_false_of_ne h]
    · by_cases ho : other = n
      · subst ho; simp [get?]
      · simpa [get?, List.lookup_cons, beq_false_of_ne ho] using ih

end Fields

/-! ## 2. Values -/

/-- A JSON value. -/
inductive Json where
  | null
  | bool (value : Bool)
  | num (value : Number)
  | str (value : Text)
  | arr (items : List Json)
  | obj (fields : List (Text × Json))

namespace Json

instance : Inhabited Json := ⟨.null⟩

mutual

/-- Two values are one and the same, decided by walking both. -/
def decEq : (a b : Json) → Decidable (a = b)
  | null, null => isTrue rfl
  | bool a, bool b => decidable_of_iff (a = b) (by simp)
  | num a, num b => decidable_of_iff (a = b) (by simp)
  | str a, str b => decidable_of_iff (a = b) (by simp)
  | arr a, arr b => @decidable_of_iff _ (a = b) (by simp) (decEqItems a b)
  | obj a, obj b => @decidable_of_iff _ (a = b) (by simp) (decEqFields a b)
  | null, bool _ | null, num _ | null, str _ | null, arr _ | null, obj _
  | bool _, null | bool _, num _ | bool _, str _ | bool _, arr _ | bool _, obj _
  | num _, null | num _, bool _ | num _, str _ | num _, arr _ | num _, obj _
  | str _, null | str _, bool _ | str _, num _ | str _, arr _ | str _, obj _
  | arr _, null | arr _, bool _ | arr _, num _ | arr _, str _ | arr _, obj _
  | obj _, null | obj _, bool _ | obj _, num _ | obj _, str _ | obj _, arr _ =>
    isFalse (by simp)

def decEqItems : (a b : List Json) → Decidable (a = b)
  | [], [] => isTrue rfl
  | [], _ :: _ => isFalse (by simp)
  | _ :: _, [] => isFalse (by simp)
  | a :: as, b :: bs =>
    @decidable_of_iff _ (a = b ∧ as = bs) (by simp)
      (@instDecidableAnd _ _ (decEq a b) (decEqItems as bs))

def decEqFields : (a b : List (Text × Json)) → Decidable (a = b)
  | [], [] => isTrue rfl
  | [], _ :: _ => isFalse (by simp)
  | _ :: _, [] => isFalse (by simp)
  | (k, a) :: as, (l, b) :: bs =>
    @decidable_of_iff _ ((k = l ∧ a = b) ∧ as = bs) (by simp)
      (@instDecidableAnd _ _ (@instDecidableAnd _ _ inferInstance (decEq a b)) (decEqFields as bs))

end

instance : DecidableEq Json := decEq

/-! ## 3. The equality of the cache -/

mutual

/-- The same JSON value: structural equality with both zeros alike. -/
def sameAs : Json → Json → Bool
  | null, null => true
  | bool a, bool b => a == b
  | num a, num b => a.sameAs b
  | str a, str b => a == b
  | arr a, arr b => sameItems a b
  | obj a, obj b => sameFields a b
  | _, _ => false

/-- The same values, place by place. -/
def sameItems : List Json → List Json → Bool
  | [], [] => true
  | a :: as, b :: bs => sameAs a b && sameItems as bs
  | _, _ => false

/-- The same names with the same values, place by place. -/
def sameFields : List (Text × Json) → List (Text × Json) → Bool
  | [], [] => true
  | (k, a) :: as, (l, b) :: bs => k == l && sameAs a b && sameFields as bs
  | _, _ => false

end

mutual

@[simp] theorem sameAs_refl : (a : Json) → a.sameAs a = true
  | null => rfl
  | bool _ => by simp [sameAs]
  | num _ => by simp [sameAs]
  | str _ => by simp [sameAs]
  | arr items => by simp [sameAs, sameItems_refl items]
  | obj fields => by simp [sameAs, sameFields_refl fields]

theorem sameItems_refl : (a : List Json) → sameItems a a = true
  | [] => rfl
  | a :: as => by simp [sameItems, sameAs_refl a, sameItems_refl as]

theorem sameFields_refl : (a : List (Text × Json)) → sameFields a a = true
  | [] => rfl
  | (_, a) :: as => by simp [sameFields, sameAs_refl a, sameFields_refl as]

end

/-! ## 4. Reading a value -/

def isNull : Json → Bool
  | null => true
  | _ => false

def isArray : Json → Bool
  | arr _ => true
  | _ => false

def isObject : Json → Bool
  | obj _ => true
  | _ => false

/-- The field of an object; no other value has fields. -/
def get? (name : Text) : Json → Option Json
  | obj fields => Fields.get? name fields
  | _ => none

/-- An object from named values; of two with one name the later stays. -/
def ofEntries (entries : List (Text × Json)) : Json :=
  obj (Fields.ofList entries)

/-- A natural number as a JSON number. -/
def ofNat (n : Nat) : Json :=
  num (.int n)

/-- The value or null. -/
def ofOption {α : Type} (encode : α → Json) : Option α → Json
  | some a => encode a
  | none => null

/-! ## 5. Looking through arrays -/

mutual

/-- Applies `f` to every value that is not an array, through arrays of
any depth. -/
def mapRows (f : Json → Json) : Json → Json
  | arr items => arr (mapRowsList f items)
  | null => f null
  | bool b => f (bool b)
  | num n => f (num n)
  | str s => f (str s)
  | obj fields => f (obj fields)

def mapRowsList (f : Json → Json) : List Json → List Json
  | [] => []
  | item :: rest => mapRows f item :: mapRowsList f rest

end

mutual

/-- The values that are not arrays, through arrays of any depth, in
order. -/
def rows : Json → List Json
  | arr items => rowsOfList items
  | null => [null]
  | bool b => [bool b]
  | num n => [num n]
  | str s => [str s]
  | obj fields => [obj fields]

def rowsOfList : List Json → List Json
  | [] => []
  | item :: rest => rows item ++ rowsOfList rest

end

theorem mapRowsList_eq_map (f : Json → Json) (items : List Json) :
    mapRowsList f items = items.map (mapRows f) := by
  induction items with
  | nil => rfl
  | cons item rest ih => simp [mapRowsList, ih]

theorem rowsOfList_eq_flatMap (items : List Json) : rowsOfList items = items.flatMap rows := by
  induction items with
  | nil => rfl
  | cons item rest ih => simp [rowsOfList, ih]

@[simp] theorem mapRows_arr (f : Json → Json) (items : List Json) :
    (arr items).mapRows f = arr (items.map (mapRows f)) := by
  simp [mapRows, mapRowsList_eq_map]

@[simp] theorem rows_arr (items : List Json) : (arr items).rows = items.flatMap rows := by
  simp [rows, rowsOfList_eq_flatMap]

end Json
end QueryCache
