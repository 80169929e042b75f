/-
QueryCache.Reshape.Shape — rows in the shape that a selection asks for.

The leaves of a selection form a tree of slots: at each level the key to
read in the response, the key to write in the row, whether the value
itself is selected, and what is selected below it.  `reshape` carries a
response, nested or flat with dotted keys, into that shape.  A null
relation stays null, a relation without rows stays empty, and what the
response does not hold is left out.
-/
import QueryCache.Select.Path

namespace QueryCache

/-- A place in a row: the key it is read under, the key it is written
under, whether the value itself is selected, and the places below it. -/
inductive Slot where
  | mk (segment key : Text) (isLeaf : Bool) (inner : List Slot)

namespace Slot

def segment : Slot → Text
  | mk segment _ _ _ => segment

def key : Slot → Text
  | mk _ key _ _ => key

def isLeaf : Slot → Bool
  | mk _ _ isLeaf _ => isLeaf

def inner : Slot → List Slot
  | mk _ _ _ inner => inner

/-! ## 1. The slots of a selection -/

/-- The keys that lead to a leaf: in the response, and in the row. -/
def route (path : Path) : List (Text × Text) :=
  let segments := path.segments
  let output := Text.splitOn '.' path.outputPath
  if output.length = segments.length then segments.zip output
  else segments.zip (Text.splitOn '.' (Segment.stripPathHints path.path))

/-- The slot for two keys among others. -/
def find? (segment key : Text) (slots : List Slot) : Option Slot :=
  slots.find? fun slot => slot.segment == segment && slot.key == key

/-- The slots with the one for two keys replaced, or added at the end. -/
def put (new : Slot) : List Slot → List Slot
  | [] => [new]
  | slot :: rest =>
    if slot.segment = new.segment ∧ slot.key = new.key then new :: rest
    else slot :: put new rest

/-- Adds the slots of a route. -/
def addRoute : List (Text × Text) → List Slot → List Slot
  | [], slots => slots
  | (segment, key) :: rest, slots =>
    let old := (find? segment key slots).getD (mk segment key false [])
    let new :=
      if rest.isEmpty then mk segment key true old.inner
      else mk segment key old.isLeaf (addRoute rest old.inner)
    put new slots

/-- The slots of a selection, in the order of their first use. -/
def ofPaths (paths : List Path) : List Slot :=
  paths.foldl (fun slots path => addRoute (route path) slots) []

/-! ## 2. Reading a response -/

/-- The value under a segment, or else under its bare name. -/
def lookup? (source : Fields Json) (segment : Text) : Option Json :=
  (Fields.get? segment source).orElse fun _ => Fields.get? (Segment.bareName segment) source

/-- The fields whose names begin with the segment and a dot, without that
start; none when there are none. -/
def flatFields? (source : Fields Json) (segment : Text) : Option (Fields Json) :=
  let found := source.filterMap fun (name, value) =>
    (Text.stripStart (segment ++ ['.']) name).map fun rest => (rest, value)
  if found.isEmpty then none else some found

/-- The names that explicit slots of a level read. -/
def claimed (slots : List Slot) : List Text :=
  slots.map fun slot => Segment.bareName slot.segment

/-- A level while its slots are filled: the fields written so far, and the
keys that relations wrote, which a plain column does not overwrite. -/
structure Level where
  fields : Fields Json := []
  relationKeys : List Text := []

/-- Every column of the source that no slot claims. -/
def Level.addAll (level : Level) (claimed : List Text) (source : Fields Json) : Level :=
  { level with
    fields := source.foldl (fun fields (name, value) =>
      if claimed.contains (Segment.bareName (Text.upTo '.' name)) ||
          level.relationKeys.contains name || Fields.has name fields then fields
      else Fields.insert name value fields) level.fields }

/-- The value of a selected leaf. -/
def Level.addLeaf (level : Level) (claimed : List Text) (source : Fields Json)
    (segment key : Text) : Level :=
  if level.relationKeys.contains key then level
  else if segment = ['*'] then level.addAll claimed source
  else match lookup? source segment with
    | some value => { level with fields := Fields.insert key value level.fields }
    | none => level

/-- The rows of a relation. -/
def Level.addRelation (level : Level) (key : Text) (value : Json) : Level :=
  ⟨Fields.insert key value level.fields, key :: level.relationKeys⟩

/-- The related value a response holds under a segment, its objects
reshaped by `shape`; without one, the fields with dotted names. -/
def related? (shape : Fields Json → Fields Json) (source : Fields Json) (segment : Text) :
    Option Json :=
  let flat := (flatFields? source segment).map fun fields => Json.obj (shape fields)
  match lookup? source segment with
  | some .null => some .null
  | some (.arr items) => some ((Json.arr items).mapRows fun
      | .obj fields => .obj (shape fields)
      | other => other)
  | some (.obj fields) => some (.obj (shape fields))
  | _ => flat

/-- Fills the slots of a level one after the other. -/
def fill (claimedKeys : List Text) (source : Fields Json) (level : Level) : List Slot → Level
  | [] => level
  | mk segment key isLeaf below :: rest =>
    let level := if isLeaf then level.addLeaf claimedKeys source segment key else level
    let value? : Option Json :=
      match below with
      | [] => none
      | first :: others =>
        related? (fun fields =>
          (fill (claimed (first :: others)) fields {} (first :: others)).fields) source segment
    let level := match value? with
      | some value => level.addRelation key value
      | none => level
    fill claimedKeys source level rest

/-- An object in the shape of the slots. -/
def reshapeFields (slots : List Slot) (source : Fields Json) : Fields Json :=
  (fill (claimed slots) source {} slots).fields

/-- A response in the shape of the slots: rows one by one, and what is no
row as it is. -/
def reshape (slots : List Slot) (response : Json) : Json :=
  response.mapRows fun
    | .obj fields => .obj (reshapeFields slots fields)
    | other => other

end Slot

/-- A response keyed by canonical paths in the shape of a selection. -/
def denormalize (paths : List Path) (response : Json) : Json :=
  Slot.reshape (Slot.ofPaths paths) response

end QueryCache
