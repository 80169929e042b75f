/-
QueryCache.Select.Field — the fields of a select clause.

A clause is a list of fields separated by commas.  A field is a head,
`alias:name!hint`, and, when it expands a relation, a nested clause in
parentheses.  Reading a field uses up at least one character
(`remaining_parse_lt`), so reading a list of fields ends, and every error
leaves the cursor where it was found.
-/
import QueryCache.Select.Cursor
import QueryCache.Select.Path

namespace QueryCache

/-! ## 1. Heads -/

/-- A field without its nested clause. -/
structure Head where
  /-- The head as written, without the blanks around it. -/
  written : Text
  aliasName : Option Text
  name : Text
  hints : List Text
deriving DecidableEq

namespace Head

/-- A letter, a digit, `_` or `-`. -/
def isIdentifierChar (c : Char) : Bool :=
  Unicode.isAlphanumeric c || c == '_' || c == '-'

/-- A character of a name: casts and arrows are part of it. -/
def isNameChar (c : Char) : Bool :=
  Unicode.isAlphanumeric c || c == '_' || c == '-' || c == '>' || c == ':'

/-- The text can be an alias or a hint. -/
def isIdentifier (text : Text) : Bool :=
  !text.isEmpty && text.all isIdentifierChar

/-- The text can be a name. -/
def isName (text : Text) : Bool :=
  text == ['*'] || (!text.isEmpty && text.all isNameChar)

/-- The parts of a written head. -/
def ofWritten (written : Text) : Head :=
  let (aliasName, rest) := Segment.splitAlias written
  match Text.splitOn '!' rest with
  | [] => ⟨written, aliasName, [], []⟩
  | name :: hints => ⟨written, aliasName, name, hints⟩

/-- Every part of the head has the characters it may have. -/
def isValid (head : Head) : Bool :=
  head.aliasName.all isIdentifier && isName head.name && head.hints.all isIdentifier

/-- `()` may follow: the head asks for the number of rows. -/
def isCount (head : Head) : Bool :=
  head.name == "count".toList && head.hints.isEmpty

/-- The head with `()` taken into its name. -/
def call (head : Head) : Head :=
  { head with written := head.written ++ "()".toList, name := head.name ++ "()".toList }

/-- The head without its alias, as a segment of a path. -/
def segment (head : Head) : Text :=
  Text.join '!' (head.name :: head.hints)

/-- The name the rows of the response use. -/
def effectiveName (head : Head) : Text :=
  head.aliasName.getD (Text.upToCast head.name)

end Head

/-- A field of a select clause: a head and its nested clause, empty for a
leaf. -/
inductive Field where
  | mk (head : Head) (children : List Field)

namespace Field

def head : Field → Head
  | mk head _ => head

def children : Field → List Field
  | mk _ children => children

/-- The field expands a relation. -/
def isRelation (field : Field) : Bool :=
  !field.children.isEmpty

end Field

/-! ## 2. Reading heads -/

namespace Head

/-- A character that does not end a head. -/
def isHeadChar (c : Char) : Bool :=
  c != ',' && c != '(' && c != ')'

/-- Reads a head and stops in front of the character that ends it. -/
def parse (c : Cursor) : Except ParseError Head × Cursor :=
  let start := c.skipBlanks
  let stop := start.skipWhile isHeadChar
  let written := Text.trim (stop.since start.position)
  let head := ofWritten written
  if written.isEmpty then (.error (stop.error .emptyField start.position), stop)
  else if !head.isValid then (.error (stop.error .invalidField start.position), stop)
  else if head.isCount && stop.range stop.position (stop.position + 2) == "()".toList then
    (.ok head.call, stop.forward 2)
  else (.ok head, stop)

theorem remaining_parse_lt {c : Cursor} {head : Head} (h : (parse c).1 = .ok head) :
    (parse c).2.remaining < c.remaining := by
  have hstop : (Text.trim ((c.skipBlanks.skipWhile isHeadChar).since c.skipBlanks.position)).isEmpty
      = false → (c.skipBlanks.skipWhile isHeadChar).remaining < c.remaining := by
    intro hne
    rw [Cursor.since_skipWhile] at hne
    have : c.skipBlanks.rest.takeWhile isHeadChar ≠ [] := by
      intro hnil
      rw [hnil] at hne
      simp [Text.trim] at hne
    exact Nat.lt_of_lt_of_le (Cursor.remaining_skipWhile_lt this) (Cursor.remaining_skipBlanks_le c)
  unfold parse at h ⊢
  simp only at h ⊢
  split at h
  · simp at h
  · rename_i hne
    have hlt := hstop (by simpa using hne)
    split at h
    · simp at h
    · split
      · contradiction
      · split
        · simp only [Cursor.remaining_forward]; omega
        · exact hlt

end Head

/-! ## 3. Reading fields -/

/-- The outcome of reading something at a cursor, and the cursor after it;
success has used up some of the text. -/
abbrev Reading (c : Cursor) (α : Type) :=
  { r : Except ParseError α × Cursor // ∀ a, r.1 = .ok a → r.2.remaining < c.remaining }

/-- A refusal at a cursor. -/
def Reading.refuse {c : Cursor} {α : Type} (error : ParseError) (at_ : Cursor) : Reading c α :=
  ⟨(.error error, at_), by simp⟩

namespace Field

mutual

/-- Reads one field with its nested clause. -/
def reading (c : Cursor) : Reading c Field :=
  match hp : Head.parse c with
  | (.error error, c') => .refuse error c'
  | (.ok head, c') =>
    have hlt : c'.remaining < c.remaining := by
      have := @Head.remaining_parse_lt c head (by rw [hp])
      rwa [hp] at this
    if c'.current = '(' then
      match readingList c'.enter with
      | ⟨(.error error, c''), _⟩ => .refuse error c''
      | ⟨(.ok children, c''), hc⟩ =>
        ⟨(.ok (mk head children), c''.leave), by
          intro _ _
          have := hc children rfl
          simp only [Cursor.remaining_enter] at this
          simp only [Cursor.remaining_leave]
          omega⟩
    else ⟨(.ok (mk head []), c'), fun _ _ => hlt⟩
termination_by (c.remaining, 0)
decreasing_by
  have := Cursor.remaining_enter c'
  exact Prod.Lex.left _ _ (by omega)

/-- Reads fields separated by commas, up to the end of the text or to the
parenthesis that closes the nested clause. -/
def readingList (c : Cursor) : Reading c (List Field) :=
  match reading c with
  | ⟨(.error error, c'), _⟩ => .refuse error c'
  | ⟨(.ok field, c'), hf⟩ =>
    have hlt : c'.skipBlanks.remaining < c.remaining :=
      Nat.lt_of_le_of_lt (Cursor.remaining_skipBlanks_le c') (hf field rfl)
    if c'.skipBlanks.atEnd then
      if 0 < c'.skipBlanks.depth then
        .refuse (c'.skipBlanks.error .missingClosingParenthesis c'.skipBlanks.position) c'.skipBlanks
      else ⟨(.ok [field], c'.skipBlanks), fun _ _ => hlt⟩
    else if c'.skipBlanks.current = ',' then
      match readingList c'.skipBlanks.next with
      | ⟨(.error error, c''), _⟩ => .refuse error c''
      | ⟨(.ok fields, c''), hc⟩ =>
        ⟨(.ok (field :: fields), c''), by
          intro _ _
          have := hc fields rfl
          simp only [Cursor.remaining_next] at this ⊢
          omega⟩
    else if c'.skipBlanks.current = ')' then
      if 0 < c'.skipBlanks.depth then ⟨(.ok [field], c'.skipBlanks), fun _ _ => hlt⟩
      else
        .refuse (c'.skipBlanks.error .unbalancedParentheses c'.skipBlanks.position) c'.skipBlanks
    else .refuse (c'.skipBlanks.error .invalidField c'.skipBlanks.position) c'.skipBlanks
termination_by (c.remaining, 1)
decreasing_by
  · exact Prod.Lex.right _ (by omega)
  · have := Cursor.remaining_next c'.skipBlanks
    exact Prod.Lex.left _ _ (by omega)

end

/-- Reads one field with its nested clause. -/
def parse (c : Cursor) : Except ParseError Field × Cursor :=
  (reading c).1

/-- Reads fields separated by commas, up to the end of the text or to the
parenthesis that closes the nested clause. -/
def parseList (c : Cursor) : Except ParseError (List Field) × Cursor :=
  (readingList c).1

theorem remaining_parse_lt {c : Cursor} {field : Field} (h : (parse c).1 = .ok field) :
    (parse c).2.remaining < c.remaining :=
  (reading c).2 field h

/-! ## 4. Leaves -/

/-- The chains of the fields around a leaf. -/
structure Ancestry where
  declaration : Text
  path : Text
  names : Text
  /-- Some head carries an alias. -/
  aliased : Bool

/-- A chain with one more segment. -/
def extendChain (chain : Option Text) (segment : Text) : Text :=
  match chain with
  | some chain => chain ++ '.' :: segment
  | none => segment

/-- The chains of a head below its ancestors. -/
def Ancestry.extend (above : Option Ancestry) (head : Head) : Ancestry where
  declaration := extendChain (above.map (·.declaration)) head.written
  path := extendChain (above.map (·.path)) head.segment
  names := extendChain (above.map (·.names)) head.effectiveName
  aliased := above.any (·.aliased) || head.aliasName.isSome

/-- The leaf at the end of the chains. -/
def Ancestry.leaf (chains : Ancestry) : Path :=
  ⟨chains.declaration, chains.path, if chains.aliased then some chains.names else none⟩

mutual

/-- The leaves of a field, from left to right. -/
def leaves (above : Option Ancestry) : Field → List Path
  | mk head [] => [(Ancestry.extend above head).leaf]
  | mk head (first :: others) =>
    leaves (some (Ancestry.extend above head)) first ++
      leavesOfList (some (Ancestry.extend above head)) others

/-- The leaves of fields side by side. -/
def leavesOfList (above : Option Ancestry) : List Field → List Path
  | [] => []
  | field :: rest => leaves above field ++ leavesOfList above rest

end

end Field

/-! ## 5. Clauses -/

/-- The leaves that a select clause selects; a blank clause selects
nothing. -/
def parseSelect (clause : Text) : Except ParseError (List Path) :=
  if (Text.trim clause).isEmpty then .ok []
  else (Field.parseList { text := clause }).1.map (Field.leavesOfList none)

end QueryCache
