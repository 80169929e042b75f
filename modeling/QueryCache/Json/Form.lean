/-
QueryCache.Json.Form — the form of a JSON text, before its numbers and
strings are given values.

Reading goes in two steps.  `Form.read` checks the grammar: brackets,
commas, digits and escapes stand where they may, and nothing trails.
What a number or a string denotes, whether a number is in range, whether
surrogates pair up and how deep values may nest is decided afterwards by
whoever takes the form (`QueryCache.Json.Reader`).  A reader that skips a
value can so skip one that has no meaning.
-/
import QueryCache.Text.Basic

namespace QueryCache

/-- A number as written. -/
structure NumberForm where
  negative : Bool
  /-- The digits before the point. -/
  whole : Text
  /-- The digits after the point, none without a point. -/
  fraction : Text
  /-- The sign (true for minus) and the digits of the exponent. -/
  exponent : Option (Bool × Text)
deriving DecidableEq

/-- A character of a string as written: itself, or a 16-bit unit given in
hexadecimal. -/
inductive StringUnit where
  | char (c : Char)
  | code (unit : Nat)
deriving DecidableEq

/-- A JSON text as written. -/
inductive Form where
  | null
  | bool (value : Bool)
  | number (form : NumberForm)
  | string (units : List StringUnit)
  | array (items : List Form)
  | object (fields : List (List StringUnit × Form))

namespace Form

instance : Inhabited Form := ⟨.null⟩

/-! ## 1. Blanks and escapes -/

/-- The four blanks of a JSON text. -/
def isBlank (c : Char) : Bool :=
  c = ' ' || c = '\n' || c = '\t' || c = '\r'

/-- The text after its leading blanks. -/
def skipBlanks (text : Text) : Text :=
  text.dropWhile isBlank

/-- One escape, after its backslash. -/
def readEscape : Text → Option (StringUnit × Text)
  | '"' :: rest => some (.char '"', rest)
  | '\\' :: rest => some (.char '\\', rest)
  | '/' :: rest => some (.char '/', rest)
  | 'b' :: rest => some (.char '\x08', rest)
  | 'f' :: rest => some (.char '\x0c', rest)
  | 'n' :: rest => some (.char '\n', rest)
  | 'r' :: rest => some (.char '\r', rest)
  | 't' :: rest => some (.char '\t', rest)
  | 'u' :: a :: b :: c :: d :: rest => (Text.hexValue? [a, b, c, d]).map fun unit => (.code unit, rest)
  | _ => none

/-- The units of a string up to its closing quote, after the opening one.
`fuel` bounds the number of units. -/
def readString : (fuel : Nat) → Text → Option (List StringUnit × Text)
  | 0, _ => none
  | _ + 1, [] => none
  | fuel + 1, c :: rest =>
    if c = '"' then some ([], rest)
    else if c = '\\' then do
      let (unit, rest) ← readEscape rest
      let (units, rest) ← readString fuel rest
      some (unit :: units, rest)
    else if c.toNat < 0x20 then none
    else do
      let (units, rest) ← readString fuel rest
      some (.char c :: units, rest)

/-- A number: no needless leading zero, and a digit after the point and in
the exponent. -/
def readNumber (text : Text) : Option (NumberForm × Text) := do
  let (negative, text) := match text with
    | '-' :: rest => (true, rest)
    | _ => (false, text)
  let whole := text.takeWhile Text.isDigit
  let text := text.dropWhile Text.isDigit
  guard (!whole.isEmpty && (whole.length = 1 || whole.head? != some '0'))
  let (fraction, text) ← match text with
    | '.' :: rest =>
      let digits := rest.takeWhile Text.isDigit
      if digits.isEmpty then none else some (digits, rest.dropWhile Text.isDigit)
    | _ => some ([], text)
  let (exponent, text) ← match text with
    | mark :: rest =>
      if mark = 'e' ∨ mark = 'E' then
        let (minus, rest) := match rest with
          | '+' :: rest => (false, rest)
          | '-' :: rest => (true, rest)
          | _ => (false, rest)
        let digits := rest.takeWhile Text.isDigit
        if digits.isEmpty then none
        else some (some (minus, digits), rest.dropWhile Text.isDigit)
      else some (none, text)
    | [] => some (none, text)
  some (⟨negative, whole, fraction, exponent⟩, text)

/-! ## 2. Values -/

/-- Items between brackets, after the opening bracket: none at once, or
items separated by commas.  `fuel` bounds the number of items. -/
def readItems {α : Type} (closing : Char) (item : Text → Option (α × Text)) (text : Text) :
    Option (List α × Text) :=
  match skipBlanks text with
  | [] => none
  | c :: rest => if c = closing then some ([], rest) else more (c :: rest).length (c :: rest)
where
  more : Nat → Text → Option (List α × Text)
  | 0, _ => none
  | fuel + 1, text => do
    let (first, text) ← item text
    match skipBlanks text with
    | [] => none
    | c :: rest =>
      if c = closing then some ([first], rest)
      else if c = ',' then do
        let (others, rest) ← more fuel rest
        some (first :: others, rest)
      else none

/-- One field: a name, a colon and what `item` reads. -/
def readField {α : Type} (item : Text → Option (α × Text)) (text : Text) :
    Option ((List StringUnit × α) × Text) :=
  match skipBlanks text with
  | '"' :: rest => do
    let (name, rest) ← readString rest.length rest
    match skipBlanks rest with
    | ':' :: rest => do
      let (value, rest) ← item rest
      some ((name, value), rest)
    | _ => none
  | _ => none

/-- One value with at most `depth` containers around each other, and what
follows it. -/
def readValue : (depth : Nat) → Text → Option (Form × Text)
  | depth, text =>
    match skipBlanks text with
    | [] => none
    | c :: rest =>
      if c = '[' then
        match depth with
        | 0 => none
        | depth + 1 => (readItems ']' (readValue depth) rest).map fun (items, rest) =>
          (.array items, rest)
      else if c = '\x7b' then
        match depth with
        | 0 => none
        | depth + 1 => (readItems '\x7d' (readField (readValue depth)) rest).map fun (fields, rest) =>
          (.object fields, rest)
      else if c = '"' then
        (readString rest.length rest).map fun (units, rest) => (.string units, rest)
      else if c = '-' || Text.isDigit c then
        (readNumber (c :: rest)).map fun (form, rest) => (.number form, rest)
      else
        match Text.stripStart "null" (c :: rest) with
        | some rest => some (.null, rest)
        | none =>
          match Text.stripStart "true" (c :: rest) with
          | some rest => some (.bool true, rest)
          | none => (Text.stripStart "false" (c :: rest)).map fun rest => (.bool false, rest)

/-- The form of a whole text, nothing but blanks around the value. -/
def read (text : Text) : Option Form :=
  match readValue text.length text with
  | some (form, rest) => if (skipBlanks rest).isEmpty then some form else none
  | none => none

end Form
end QueryCache
