/-
QueryCache.Json.Writer — the compact written form of a JSON value.

No blanks are written and the fields of an object come in their order.
In strings only the quote, the backslash and the control characters are
escaped.  A binary64 value is written with the fewest digits that read
back as it, laid out by `floatLayout`.
-/
import QueryCache.Json.Basic
import QueryCache.Json.Shortest

namespace QueryCache

/-! ## 1. Numbers -/

/-- How a decimal number `d.ddd · 10^e` is laid out. -/
structure FloatLayout where
  /-- The least exponent written positionally. -/
  positionalFrom : Int
  /-- The greatest exponent written positionally. -/
  positionalTo : Int
  /-- The mark in front of a positive exponent. -/
  positiveExponent : Text

/-- Positional from `0.00001` to below `10^16`, with at least one digit
after the point; else one digit, the other digits after a point, and the
exponent with its sign. -/
def floatLayout : FloatLayout := ⟨-5, 15, "e+"⟩

/-- Lays out the digits of a positive number whose first digit counts
`10^exponent`. -/
def FloatLayout.write (layout : FloatLayout) (digits : Text) (exponent : Int) : Text :=
  if layout.positionalFrom ≤ exponent ∧ exponent ≤ layout.positionalTo then
    if exponent < 0 then
      "0.".toList ++ List.replicate (-exponent - 1).toNat '0' ++ digits
    else
      let whole := (exponent + 1).toNat
      let padded := digits ++ List.replicate (whole - digits.length) '0'
      let fraction := padded.drop whole
      padded.take whole ++ '.' :: (if fraction.isEmpty then ['0'] else fraction)
  else
    let mark : Text := if exponent < 0 then "e-" else layout.positiveExponent
    let fraction := digits.drop 1
    digits.take 1 ++ (if fraction.isEmpty then [] else '.' :: fraction) ++ mark ++
      Text.ofNat exponent.natAbs

/-- The written form of a positive decimal number. -/
def Decimal.write (d : Decimal) : Text :=
  let digits := Text.ofNat d.digits
  let exponent := d.scale + digits.length - 1
  floatLayout.write (digits.reverse.dropWhile (· = '0')).reverse exponent

/-- The written form of a finite binary64 value. -/
def writeFloat (x : Float) : Text :=
  let bits := x.toBits.toNat
  let sign : Text := if bits < signedLimit then [] else ['-']
  let magnitude := bits % signedLimit
  if magnitude = 0 then sign ++ "0.0" else sign ++ (Dyadic.ofBits magnitude).shortest.write

/-- The written form of an integer. -/
def writeInt : Int → Text
  | .ofNat n => Text.ofNat n
  | .negSucc n => '-' :: Text.ofNat (n + 1)

/-- The written form of a number. -/
def Number.write : Number → Text
  | .int n => writeInt n
  | .float x => writeFloat x

/-! ## 2. Strings -/

/-- A character inside a string. -/
def escapeChar (c : Char) : Text :=
  if c = '"' then "\\\"".toList
  else if c = '\\' then "\\\\".toList
  else if c.toNat < 0x20 then
    if c = '\n' then "\\n".toList
    else if c = '\r' then "\\r".toList
    else if c = '\t' then "\\t".toList
    else if c.toNat = 0x08 then "\\b".toList
    else if c.toNat = 0x0C then "\\f".toList
    else "\\u00".toList ++ [Nat.digitChar (c.toNat / 16), Nat.digitChar (c.toNat % 16)]
  else [c]

/-- A string with its quotes. -/
def quote (text : Text) : Text :=
  '"' :: (text.flatMap escapeChar ++ ['"'])

/-! ## 3. Values -/

/-- Parts between two brackets with commas between them. -/
def bracketed (opening closing : Char) (parts : List Text) : Text :=
  opening :: (Text.join ',' parts ++ [closing])

namespace Json

mutual

/-- The compact written form. -/
def write : Json → Text
  | null => "null"
  | bool true => "true"
  | bool false => "false"
  | num n => n.write
  | str s => quote s
  | arr items => bracketed '[' ']' (writeItems items)
  | obj fields => bracketed '\x7b' '\x7d' (writeFields fields)

def writeItems : List Json → List Text
  | [] => []
  | item :: rest => write item :: writeItems rest

def writeFields : List (Text × Json) → List Text
  | [] => []
  | (name, value) :: rest => (quote name ++ ':' :: write value) :: writeFields rest

end

end Json
end QueryCache
