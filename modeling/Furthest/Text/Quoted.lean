import Furthest.Text.Printable

/-!
# Quoted text

The quoted form of a text shows it on one line of printable characters: backslashes, the
quote in use and everything that does not print are escaped. Byte strings have the same
form, with all bytes outside printable ASCII escaped.

## Main definitions

* `Text.quoted`: a text between quotes.
* `Text.quotedBytes`, `Text.quotedByteArray`: byte strings between quotes.
-/

namespace Furthest

namespace Text

/-- The lowercase hexadecimal digit of a number below sixteen. -/
def hexDigit (n : Nat) : CodePoint := if n < 10 then 48 + n else 87 + n

/-- The last `width` hexadecimal digits of a number, leading zeros included. -/
def hex : (width : Nat) → Nat → Text
  | 0, _ => []
  | width + 1, n => hex width (n / 16) ++ [hexDigit (n % 16)]

/-- The single quote. -/
def singleQuote : CodePoint := 39

/-- The double quote. -/
def doubleQuote : CodePoint := 34

/-- The backslash. -/
def backslash : CodePoint := 92

/-- The quote to put around a text: single, unless the text holds single quotes and no
double one. -/
def quoteFor (t : Text) : CodePoint :=
  if singleQuote ∈ t ∧ doubleQuote ∉ t then doubleQuote else singleQuote

/-- One character of a quoted text. What does not print is written with the shortest of the
three numeric escapes that can hold it. -/
def escapedChar (quote c : CodePoint) : Text :=
  if c = backslash ∨ c = quote then [backslash, c]
  else if c = 10 then "\\n"
  else if c = 13 then "\\r"
  else if c = 9 then "\\t"
  else if CodePoint.isPrintable c then [c]
  else if c < 0x100 then "\\x" ++ hex 2 c
  else if c < 0x10000 then "\\u" ++ hex 4 c
  else "\\U" ++ hex 8 c

/-- A text between quotes. -/
def quoted (t : Text) : Text :=
  let quote := quoteFor t
  [quote] ++ t.flatMap (escapedChar quote) ++ [quote]

/-- One byte of a quoted byte string. -/
def escapedByte (quote b : CodePoint) : Text :=
  if b < 0x7F then escapedChar quote b else "\\x" ++ hex 2 b

/-- A byte string between quotes, marked by a `b`. -/
def quotedBytes (bs : List Nat) : Text :=
  let quote := quoteFor bs
  "b" ++ [quote] ++ bs.flatMap (escapedByte quote) ++ [quote]

/-- A byte array between quotes. Single quotes are escaped in it whichever quote is in use,
and double quotes never. -/
def quotedByteArray (bs : List Nat) : Text :=
  let quote := quoteFor bs
  "bytearray(b" ++ [quote] ++ bs.flatMap (escapedByte singleQuote) ++ [quote] ++ ")"

end Text

end Furthest
