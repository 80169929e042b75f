/-
QueryCache.Pattern.Escape — what stands behind a backslash.

An escape is a character, a set of characters or a condition on the
position.  Characters are given by a letter, by themselves or by their
code in hexadecimal; sets by a letter or by the name of a property.
-/
import QueryCache.Pattern.Flags
import QueryCache.Unicode.Name

namespace QueryCache.Pattern

open Unicode (CharSet)

/-! ## 1. Characters -/

/-- What an escape stands for. -/
inductive Escaped where
  | char (c : Char)
  /-- A character given by two hexadecimal digits. -/
  | byte (c : Char)
  | set (set : CharSet)
  | assertion (condition : Assertion)

/-- The characters with a meaning in patterns. -/
def isMeta (c : Char) : Bool :=
  "\\.+*?()|[]\x7b\x7d^$#&-~".toList.contains c

/-- A character that may follow a backslash and then stands for itself. -/
def isEscapable (c : Char) : Bool :=
  isMeta c || (c.toNat < 0x80 && !c.isAlphanum && c != '<' && c != '>')

/-- The character with this code point, if there is one. -/
def scalar? (n : Nat) : Option Char :=
  if n.isValidChar then some (Char.ofNat n) else none

/-- Hexadecimal digits up to a closing brace. -/
def readBraced (flags : Flags) : (fuel : Nat) → Text → Option (Text × Text)
  | 0, _ => none
  | fuel + 1, text =>
    match flags.skip text with
    | '\x7d' :: rest => some ([], rest)
    | c :: rest => do
      let (digits, rest) ← readBraced flags fuel rest
      some (c :: digits, rest)
    | [] => none

/-- Exactly `count` hexadecimal digits. -/
def readDigits (flags : Flags) : (count : Nat) → Text → Option (Text × Text)
  | 0, text => some ([], text)
  | count + 1, text =>
    match flags.skip text with
    | c :: rest => do
      let (digits, rest) ← readDigits flags count rest
      some (c :: digits, rest)
    | [] => none

/-- A code point in hexadecimal, in braces or with `count` digits. -/
def readHex (flags : Flags) (fuel count : Nat) (text : Text) : Option (Escaped × Text) := do
  let (digits, braced, rest) ← match flags.skip text with
    | '\x7b' :: rest => (readBraced flags fuel rest).map fun (digits, rest) =>
      (digits, true, rest)
    | text => (readDigits flags count text).map fun (digits, rest) => (digits, false, rest)
  guard !digits.isEmpty
  let value ← Text.hexValue? digits
  guard (value < 0x100000000)
  let c ← scalar? value
  some (if count = 2 ∧ !braced then .byte c else .char c, flags.skip rest)

/-! ## 2. Sets -/

/-- The texts before and after `!=`. -/
def splitUnequal : Text → Option (Text × Text)
  | '!' :: '=' :: rest => some ([], rest)
  | c :: rest => (splitUnequal rest).map fun (before, after) => (c :: before, after)
  | [] => none

/-- The set of a property, by its name alone or by name and value, and
whether everything outside it is meant. -/
def propertySet? (text : Text) : Option (CharSet × Bool) :=
  match splitUnequal text with
  | some (name, value) => (Unicode.propertyValue? name value).map (·, true)
  | none =>
    match (Text.splitOnce ':' text).orElse fun _ => Text.splitOnce '=' text with
    | some (name, value) => (Unicode.propertyValue? name value).map (·, false)
    | none => (Unicode.property? text).map (·, false)

/-- A named property, after `\p`: its set, and whether everything outside
is meant. -/
def readProperty (flags : Flags) (fuel : Nat) (text : Text) : Option ((CharSet × Bool) × Text) :=
  match flags.skip text with
  | '\x7b' :: rest => do
    let (name, rest) ← readBraced flags fuel rest
    let found ← propertySet? name
    some (found, rest)
  | c :: rest =>
    if c = '\\' then none else (Unicode.property? [c]).map fun set => ((set, false), rest)
  | [] => none

/-- A letter after a backslash that names a set. -/
def letterSet? (flags : Flags) (c : Char) : Option CharSet :=
  match c with
  | 'd' => flags.signed? false flags.digits
  | 'D' => flags.signed? true flags.digits
  | 's' => flags.signed? false flags.blanks
  | 'S' => flags.signed? true flags.blanks
  | 'w' => flags.signed? false flags.words.chars
  | 'W' => flags.signed? true flags.words.chars
  | _ => none

/-! ## 3. Positions -/

/-- The name in braces that may follow `\b`; none when the braces hold a
count instead. -/
def readBoundaryName (flags : Flags) (fuel : Nat) (text : Text) : Option (Option (Text × Text)) :=
  let inName (c : Char) : Bool := c == '-' || c.isAlpha
  match flags.skip text with
  | [] => none
  | c :: rest =>
    if !inName c then some none
    else
      let rec letters : Nat → Text → Option (Text × Text)
        | 0, _ => none
        | fuel + 1, text =>
          match flags.skip text with
          | '\x7d' :: rest => some ([], rest)
          | c :: rest =>
            if inName c then (letters fuel rest).map fun (name, rest) => (c :: name, rest) else none
          | [] => none
      (letters fuel (c :: rest)).map some

/-- What follows a backslash; no text longer than `fuel` is read. -/
def readEscape (flags : Flags) (fuel : Nat) : Text → Option (Escaped × Text)
  | [] => none
  | c :: rest =>
    if c = 'x' then readHex flags fuel 2 rest
    else if c = 'u' then readHex flags fuel 4 rest
    else if c = 'U' then readHex flags fuel 8 rest
    else if c = 'p' ∨ c = 'P' then do
      guard flags.unicode
      let ((set, outside), rest) ← readProperty flags fuel rest
      let set ← flags.signed? (outside != (c == 'P')) (flags.cased set)
      some (.set set, rest)
    else if "dDsSwW".toList.contains c then
      (letterSet? flags c).map fun set => (.set set, rest)
    else if isEscapable c then some (.char c, rest)
    else match c with
      | 'a' => some (.char '\x07', rest)
      | 'f' => some (.char '\x0c', rest)
      | 't' => some (.char '\t', rest)
      | 'n' => some (.char '\n', rest)
      | 'r' => some (.char '\r', rest)
      | 'v' => some (.char '\x0b', rest)
      | 'A' => some (.assertion .textStart, rest)
      | 'z' => some (.assertion .textEnd, rest)
      | 'B' => some (.assertion (.notWordBoundary flags.words), rest)
      | '<' => some (.assertion (.wordStart flags.words), rest)
      | '>' => some (.assertion (.wordEnd flags.words), rest)
      | 'b' =>
        match rest with
        | '\x7b' :: after =>
          match readBoundaryName flags fuel after with
          | none => none
          | some none => some (.assertion (.wordBoundary flags.words), rest)
          | some (some (name, after)) =>
            let condition : Option Assertion :=
              if name = "start".toList then some (.wordStart flags.words)
              else if name = "end".toList then some (.wordEnd flags.words)
              else if name = "start-half".toList then some (.wordStartHalf flags.words)
              else if name = "end-half".toList then some (.wordEndHalf flags.words)
              else none
            condition.map fun condition => (.assertion condition, after)
        | _ => some (.assertion (.wordBoundary flags.words), rest)
      | _ => none

end QueryCache.Pattern
