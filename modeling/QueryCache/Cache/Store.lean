/-
QueryCache.Cache.Store — the cache of query results.

A store holds entries in the order of their first insertion, each key
once, and a log of the keys that were revalidated.  Writing and
revalidating may fail; a failing operation changes nothing.
-/
import QueryCache.Cache.Data
import QueryCache.Cache.Key

namespace QueryCache

/-! ## 1. Entries -/

/-- The entries with the one under `key` set, in its old place or at the
end. -/
def setEntry (key : Text) (data : CacheData) :
    List (Text × CacheData) → List (Text × CacheData)
  | [] => [(key, data)]
  | entry :: rest =>
    if entry.1 = key then (key, data) :: rest else entry :: setEntry key data rest

theorem map_fst_setEntry (key : Text) (data : CacheData) (entries : List (Text × CacheData)) :
    (setEntry key data entries).map (·.1) =
      if key ∈ entries.map (·.1) then entries.map (·.1) else entries.map (·.1) ++ [key] := by
  induction entries with
  | nil => simp [setEntry]
  | cons entry rest ih =>
    simp only [setEntry]
    split
    · rename_i h
      simp [← h]
    · rename_i h
      have h' : key ≠ entry.1 := fun e => h e.symm
      simp only [List.map_cons, ih, List.mem_cons, h', false_or]
      split <;> simp

theorem lookup_setEntry_self (key : Text) (data : CacheData)
    (entries : List (Text × CacheData)) :
    (setEntry key data entries).lookup key = some data := by
  induction entries with
  | nil => simp [setEntry]
  | cons entry rest ih =>
    obtain ⟨name, old⟩ := entry
    simp only [setEntry]
    split
    · simp
    · rename_i h
      have h' : (key == name) = false := beq_false_of_ne fun e => h e.symm
      simpa [List.lookup_cons, h'] using ih

theorem lookup_setEntry_of_ne {key other : Text} (h : other ≠ key) (data : CacheData)
    (entries : List (Text × CacheData)) :
    (setEntry key data entries).lookup other = entries.lookup other := by
  induction entries with
  | nil => simp [setEntry, List.lookup_cons, beq_false_of_ne h]
  | cons entry rest ih =>
    obtain ⟨name, old⟩ := entry
    simp only [setEntry]
    split
    · rename_i hk
      have hk : name = key := hk
      subst hk
      simp [List.lookup_cons, beq_false_of_ne h]
    · simp only [List.lookup_cons, ih]

/-- The cached results by key, and the keys revalidated so far, in the
order of the calls. -/
structure Store where
  entries : List (Text × CacheData) := []
  revalidated : List Text := []
  keys_nodup : (entries.map (·.1)).Nodup := by simp

namespace Store

instance : Inhabited Store := ⟨{}⟩

/-- The keys in store order. -/
def keys (store : Store) : List Text :=
  store.entries.map (·.1)

/-- The result under a key. -/
def get? (store : Store) (key : Text) : Option CacheData :=
  store.entries.lookup key

/-- The number of entries. -/
def size (store : Store) : Nat :=
  store.entries.length

/-- There are no entries. -/
def isEmpty (store : Store) : Bool :=
  store.entries.isEmpty

/-- The store with the entry under a key set. -/
def insert (store : Store) (key : Text) (data : CacheData) : Store :=
  { store with
    entries := setEntry key data store.entries
    keys_nodup := by
      rw [map_fst_setEntry]
      split
      · exact store.keys_nodup
      · rename_i h
        rw [List.nodup_append]
        refine ⟨store.keys_nodup, by simp, ?_⟩
        intro a ha b hb hab
        rw [List.mem_singleton] at hb
        exact h (hb ▸ hab ▸ ha) }

/-- The store with the result of the query under a key set. -/
def insertQuery (config : CacheConfig) (store : Store) (key : CacheKey) (data : CacheData) :
    Store :=
  store.insert (key.encode config) data

/-- The store without the entry under a key. -/
def erase (store : Store) (key : Text) : Store :=
  { store with
    entries := store.entries.filter fun entry => entry.1 != key
    keys_nodup := store.keys_nodup.sublist (List.filter_sublist.map _) }

/-- The store with the entry under a key replaced by what `f` makes of it;
none removes it. -/
def alter (store : Store) (key : Text) (f : Option CacheData → Option CacheData) : Store :=
  match f (store.get? key) with
  | some data => store.insert key data
  | none => store.erase key

/-- The store with a revalidation of a key in its log. -/
def logRevalidation (store : Store) (key : Text) : Store :=
  { store with revalidated := store.revalidated ++ [key] }

/-! ## 2. What an operation does to the entries -/

@[simp] theorem get?_insert_self (store : Store) (key : Text) (data : CacheData) :
    (store.insert key data).get? key = some data :=
  lookup_setEntry_self key data store.entries

theorem get?_insert_of_ne {key other : Text} (h : other ≠ key) (store : Store)
    (data : CacheData) : (store.insert key data).get? other = store.get? other :=
  lookup_setEntry_of_ne h data store.entries

theorem get?_erase (store : Store) (key other : Text) :
    (store.erase key).get? other = if other = key then none else store.get? other := by
  show (store.entries.filter fun entry => entry.1 != key).lookup other = _
  rw [get?]
  induction store.entries with
  | nil => simp
  | cons entry rest ih =>
    obtain ⟨name, data⟩ := entry
    by_cases hn : name = key
    · subst hn
      by_cases ho : other = name
      · simpa [ho] using ih
      · simpa [List.lookup_cons, beq_false_of_ne ho, ho] using ih
    · by_cases ho : other = name
      · subst ho
        simp [hn]
      · simpa [List.filter_cons, hn, List.lookup_cons, beq_false_of_ne ho] using ih

@[simp] theorem get?_logRevalidation (store : Store) (key other : Text) :
    (store.logRevalidation key).get? other = store.get? other := rfl

theorem get?_alter_self (store : Store) (key : Text)
    (f : Option CacheData → Option CacheData) :
    (store.alter key f).get? key = f (store.get? key) := by
  unfold alter
  split
  · rename_i h
    simp [h]
  · rename_i h
    simp [get?_erase, h]

theorem get?_alter_of_ne {key other : Text} (h : other ≠ key) (store : Store)
    (f : Option CacheData → Option CacheData) :
    (store.alter key f).get? other = store.get? other := by
  unfold alter
  split
  · exact get?_insert_of_ne h store _
  · simp [get?_erase, h]

end Store

/-! ## 3. Operations that may fail -/

/-- Why an operation of a store failed. -/
inductive CacheError where
  | write (key message : Text)
  | revalidate (key message : Text)
deriving DecidableEq, Repr

/-- The wording of an error. -/
def CacheError.message : CacheError → Text
  | write key message => "Cache write failed for ".toList ++ key ++ ": ".toList ++ message
  | revalidate key message => "Revalidation failed for ".toList ++ key ++ ": ".toList ++ message

/-- The keys on which a store fails, and what it says then. -/
structure Faults where
  write : Text → Option Text := fun _ => none
  revalidate : Text → Option Text := fun _ => none

namespace Store

/-- Replaces the entry under a key. -/
def write (faults : Faults) (store : Store) (key : Text)
    (f : Option CacheData → Option CacheData) : Except CacheError Store :=
  match faults.write key with
  | some message => .error (.write key message)
  | none => .ok (store.alter key f)

/-- Revalidates a key; the entry itself stays. -/
def revalidate (faults : Faults) (store : Store) (key : Text) : Except CacheError Store :=
  match faults.revalidate key with
  | some message => .error (.revalidate key message)
  | none => .ok (store.logRevalidation key)

end Store

/-! ## 4. Loading -/

/-- Why entries could not be loaded from a file. -/
inductive LoadError where
  | unreadable
  | notJson
  | notAnObject
deriving DecidableEq, Repr

/-- The wording of an error about the file at `path`. -/
def LoadError.message (path : Text) : LoadError → Text
  | unreadable => "Could not read file ".toList ++ path
  | notJson => "File ".toList ++ path ++ " does not contain valid JSON".toList
  | notAnObject => "File ".toList ++ path ++ " does not contain a JSON object".toList

namespace Store

/-- The store with the entries that named values hold, and their number.
Values of an unknown shape are skipped. -/
def insertAll (store : Store) (fields : Fields Json) : Store × Nat :=
  let found := fields.filterMap fun field =>
    (CacheData.ofJson? field.2).map fun data => (field.1, data)
  (found.foldl (fun store entry => store.insert entry.1 entry.2) store, found.length)

/-- The store with the entries of a file, and their number; the content is
absent if the file could not be read. -/
def load (store : Store) (content : Option Text) : Except LoadError (Store × Nat) :=
  match content with
  | none => .error .unreadable
  | some content =>
    match Json.read content with
    | none => .error .notJson
    | some (.obj fields) => .ok (store.insertAll fields)
    | some _ => .error .notAnObject

end Store
end QueryCache
