/-
QueryCache.Config — the settings of the cache.

The settings are read from a JSON text: an object with any of the known
fields, or a list of their values in order.  Unknown fields are skipped
whatever they hold, a known field may not stand twice, and what is absent
keeps its default.
-/
import QueryCache.Json.Reader

namespace QueryCache

/-- The layout of cache keys and the defaults of mutations. -/
structure CacheConfig where
  /-- Marks the keys that belong to this cache. -/
  keyPrefix : Text := "postgrest".toList
  keySeparator : Text := "$".toList
  /-- The page size of entries whose key has no limit. -/
  defaultLimit : Nat := 1000
  /-- The schema of a revalidation rule that names none. -/
  defaultSchema : Text := "public".toList
deriving DecidableEq

namespace CacheConfig

instance : Inhabited CacheConfig := ⟨{}⟩

/-- A text as written. -/
def textOf? : Form → Option Text
  | .string units => decodeUnits units
  | _ => none

/-- An unsigned integer of 64 bits as written. -/
def countOf? : Form → Option Nat
  | .number form =>
    match form.toNumber? with
    | some (.int n) => if 0 ≤ n then some n.toNat else none
    | _ => none
  | _ => none

/-- The settings with one field set, none when the value does not fit; an
unknown field changes nothing. -/
def set? (config : CacheConfig) (name : Text) (value : Form) : Option CacheConfig :=
  if name = "key_prefix".toList then (textOf? value).map fun v => { config with keyPrefix := v }
  else if name = "key_separator".toList then
    (textOf? value).map fun v => { config with keySeparator := v }
  else if name = "default_limit".toList then
    (countOf? value).map fun v => { config with defaultLimit := v }
  else if name = "default_schema".toList then
    (textOf? value).map fun v => { config with defaultSchema := v }
  else some config

/-- The names of the fields in their order. -/
def fieldNames : List Text :=
  ["key_prefix".toList, "key_separator".toList, "default_limit".toList, "default_schema".toList]

/-- The settings with the fields set one after the other; `seen` are the
known fields set before. -/
def setAll? (config : CacheConfig) (seen : List Text) :
    List (List StringUnit × Form) → Option CacheConfig
  | [] => some config
  | (units, value) :: rest => do
    let name ← decodeUnits units
    if seen.contains name then none
    else
      let config ← config.set? name value
      config.setAll? (if fieldNames.contains name then name :: seen else seen) rest

/-- The settings that a form holds. -/
def ofForm? : Form → Option CacheConfig
  | .object fields => setAll? {} [] fields
  | .array items =>
    if items.length ≤ fieldNames.length then
      (fieldNames.zip items).foldlM (fun config field => config.set? field.1 field.2) {}
    else none
  | _ => none

/-- The settings that a JSON text holds. -/
def read? (text : Text) : Option CacheConfig :=
  (Form.read text).bind ofForm?

/-- The fields of the settings. -/
def toJson (config : CacheConfig) : Json :=
  .ofEntries [("key_prefix".toList, .str config.keyPrefix),
    ("key_separator".toList, .str config.keySeparator),
    ("default_limit".toList, .ofNat config.defaultLimit),
    ("default_schema".toList, .str config.defaultSchema)]

end CacheConfig
end QueryCache
