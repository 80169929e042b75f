/-
QueryCache.Text.Percent — texts written in a query string.

`%` and two hexadecimal digits write a byte; any other `%` stands for
itself, and `+` writes a space.  The bytes must be UTF-8.
-/
import QueryCache.Unicode.Utf8

namespace QueryCache.Percent

/-- The bytes that a text writes. -/
def bytes : Text → List Nat
  | '%' :: a :: b :: rest =>
    match Text.hexDigit? a, Text.hexDigit? b with
    | some high, some low => (16 * high + low) :: bytes rest
    | _, _ => '%'.toNat :: bytes (a :: b :: rest)
  | c :: rest => Utf8.encodeChar c ++ bytes rest
  | [] => []

/-- The text with every `+` read as a space. -/
def plusAsSpace (text : Text) : Text :=
  text.map fun c => if c = '+' then ' ' else c

/-- The text that a form-encoded text writes, none when its bytes are not
UTF-8. -/
def decode (text : Text) : Option Text :=
  Utf8.decode (bytes (plusAsSpace text))

end QueryCache.Percent
