import Furthest.Text.Quoted
import Furthest.Parser

/-!
# Characters and blanks

Sets of characters, as texts in increasing order, and the parsers of single characters and
of runs of them.

## Main definitions

* `Charset.decimal`, `Charset.alphabetic`, …: sets of characters.
* `Prebuilt.digit`, `Prebuilt.letter`, `Prebuilt.alnum`: single characters.
* `Prebuilt.digits`, `Prebuilt.letters`, `Prebuilt.alnums`: runs of them.
* `Prebuilt.whitespace`, `Prebuilt.lexeme`: blanks, and parsers that skip the blanks after
  them.
-/

namespace Furthest

namespace Charset

/-- The characters from one to another, both included. -/
def between (low high : CodePoint) : Text := (List.range (high + 1 - low)).map (low + ·)

/-- The binary digits. -/
def binary : Text := "01"

/-- The octal digits. -/
def octal : Text := "01234567"

/-- The decimal digits. -/
def decimal : Text := "0123456789"

/-- The uppercase letters. -/
def upper : Text := between 65 90

/-- The lowercase letters. -/
def lower : Text := between 97 122

/-- The hexadecimal digits of both cases. -/
def hexadecimal : Text := decimal ++ "ABCDEF" ++ "abcdef"

/-- The letters. -/
def alphabetic : Text := upper ++ lower

/-- The letters and the digits. -/
def alnum : Text := decimal ++ upper ++ lower

end Charset

/-- The parser of a pattern that is known to be well formed. -/
def Parser.ofPattern (source : Text) : Parser :=
  match Regex.Pattern.compile source 0 with
  | .ok p => .regex p 0
  | .error fault => .raise fault

/-- Matches a character of a set of characters. -/
def Parser.memberOf (chars : Text) : Parser := oneOf chars.quoted fun c => decide (c ∈ chars)

/-- Matches as many characters of a set of characters as there are. -/
def Parser.runOf (chars : Text) : Parser := takeWhile fun c => pure (decide (c ∈ chars))

/-- A function that joins a list of texts. -/
def joinValues (v : Value) : Effect Value :=
  Effect.ofExcept ((Value.joined [] v.items).map .text)

namespace Prebuilt

open Furthest.Parser

/-- A digit. -/
def digit : Parser := (memberOf Charset.decimal).desc "a digit"

/-- A run of digits. -/
def digits : Parser := runOf Charset.decimal

/-- A letter. -/
def letter : Parser := (memberOf Charset.alphabetic).desc "a letter"

/-- A run of letters. -/
def letters : Parser := runOf Charset.alphabetic

/-- A letter or a digit. -/
def alnum : Parser := (memberOf Charset.alnum).desc "a letter or digit"

/-- A run of letters and digits. -/
def alnums : Parser := runOf Charset.alnum

/-- Blanks, at least one. -/
def whitespace : Parser := (ofPattern "\\s+").desc "whitespace"

/-- Blanks, if there are any. -/
def optWhitespace : Parser := ofPattern "\\s*"

/-- Skips the blanks after a parser. -/
def lexeme (p : Parser) : Parser := p.skip optWhitespace

/-- One or more characters of a collection that `element` matches one of, joined. -/
def digitsOf (element : Parser) (label : Text) : Parser :=
  ((element.desc label).atLeast 1).map joinValues

end Prebuilt

end Furthest
