/-
QueryCache.Unicode.Name — sets of characters by name.

`property?` finds the set with a name: a property that characters have or
have not, a general category or a group of them, or a script.
`propertyValue?` finds the set of characters for which a named property
takes a named value.  Names are compared without case, blanks, underscores,
hyphens and a leading `is`.
-/
import QueryCache.Text.Basic
import QueryCache.Unicode.Age
import QueryCache.Unicode.Break

namespace QueryCache.Unicode

/-- A name without case, blanks, underscores and hyphens. -/
def looseName (name : Text) : Text :=
  let kept := name.filter fun c => c != ' ' && c != '_' && c != '-' && c.toNat < 0x80
  kept.map Char.toLower

/-- A loose name without a leading `is`. -/
def propertyName (name : Text) : Text :=
  match name with
  | i :: s :: rest =>
    if i.toLower = 'i' ∧ s.toLower = 's' then
      let short := looseName rest
      if short = ['c'] then "isc".toList else short
    else looseName name
  | _ => looseName name

/-- One of the names reads like this loose name. -/
def isNamed (names : List String) (name : Text) : Bool :=
  names.any fun n => looseName n.toList = name

/-- The set with this loose name. -/
def named? (sets : List NamedSet) (name : Text) : Option CharSet :=
  (sets.find? fun row => isNamed row.names name).map (·.set)

/-- The category or group of categories with this loose name. -/
def categoryNamed? (name : Text) : Option CharSet :=
  match Category.all.find? fun category => isNamed [category.shortName, category.longName] name with
  | some category => some category.set
  | none => named? categoryGroups name

/-- The script with this loose name. -/
def scriptNamed? (name : Text) : Option Script :=
  scripts.find? fun script => isNamed script.names name

/-- The characters that the version with this loose name has: those it
introduced and those of the versions before. -/
def ageNamed? (name : Text) : Option CharSet :=
  let isThis (version : Version) : Bool :=
    isNamed [version.name, String.ofList ('v' :: version.name.toList.filter (· != '.'))] name
  match versions.dropWhile (!isThis ·) with
  | [] => none
  | version :: _ =>
    let older := versions.takeWhile (!isThis ·)
    some (.unions ((older ++ [version]).map fun v => .ofRanges v.ranges))

/-- The property with this loose name that characters have or have not. -/
def traitNamed? (name : Text) : Option CharSet :=
  match named? derivedProperties name with
  | some set => some set
  | none => (traits.find? fun row => isNamed row.names name).map Trait.set

/-- The set of characters with this name. -/
def property? (name : Text) : Option CharSet :=
  let name := propertyName name
  (traitNamed? name).orElse fun _ =>
    (categoryNamed? name).orElse fun _ => (scriptNamed? name).map Script.set

/-- The set of characters whose property `name` has the value `value`. -/
def propertyValue? (name value : Text) : Option CharSet :=
  let name := propertyName name
  let value := propertyName value
  if isNamed ["gc", "General_Category"] name then categoryNamed? value
  else if isNamed ["sc", "Script"] name then (scriptNamed? value).map Script.set
  else if isNamed ["scx", "Script_Extensions"] name then (scriptNamed? value).map Script.used
  else if isNamed ["Age"] name then ageNamed? value
  else if isNamed ["GCB", "Grapheme_Cluster_Break"] name then named? graphemeBreaks value
  else if isNamed ["WB", "Word_Break"] name then named? wordBreaks value
  else if isNamed ["SB", "Sentence_Break"] name then named? sentenceBreaks value
  else none

end QueryCache.Unicode
