import Furthest.Prebuilt.Characters

/-!
# Quoted strings

A quoted string is an opening quote, its contents, and the closing quote that belongs to the
opening one. In the contents, an escape announces a character that cannot stand there by
itself.

## Main definitions

* `Quoting`: quotes and escapes.
* `Prebuilt.quotedString`: a quoted string with escapes.
* `Prebuilt.rawQuotedString`: a quoted string without escapes.
-/

namespace Furthest

/-- The quotes and escapes of a kind of quoted string. -/
structure Quoting where
  /-- Opening quotes with their closing quotes. -/
  quotes : List (Text × Text)
  /-- What announces an escape. -/
  escape : Text
  /-- Sequences after the escape that stand for a fixed value. -/
  customEscapes : List (Text × Value)
  /-- Sequences after the escape that are followed by more text, and the parsers of it. -/
  advancedEscapes : List (Text × Parser)

namespace Prebuilt

open Furthest.Parser

/-- The label of what may not follow. -/
def somethingElse : Text := "something else"

/-- The control characters that letters stand for after an escape. -/
def generalEscapes : List (Text × Value) :=
  [("b", .text [8]), ("f", .text [12]), ("n", .text [10]), ("r", .text [13]), ("t", .text [9])]

/-- The character with a hexadecimal number. -/
def characterOf : Value → Effect Value
  | .text t => pure (.char (Text.positionalValue 16 t))
  | _ => Effect.raise .badArguments

/-- The four hexadecimal digits of a character. -/
def unicodeEscape : Parser :=
  ((ofPattern "[0-9a-fA-F]\x7b4\x7d").desc
    "4 hexadecimal characters after unicode escape sequence").map characterOf

/-- The quotes that are used unless others are asked for: the double and the single
quote. -/
def generalQuotes : List (Text × Text) := [("\"", "\""), ("'", "'")]

/-- The quotes of strings without escapes, announced by a letter. -/
def rawQuotes : List (Text × Text) := [("r\"", "\""), ("r'", "'")]

/-- The quoting that is used unless another is asked for. -/
def generalQuoting : Quoting :=
  { quotes := generalQuotes, escape := "\\", customEscapes := generalEscapes
    advancedEscapes := [("u", unicodeEscape)] }

/-- The contents of a quoted string, joined. -/
def joinContents : List Value → Effect Value
  | [_, data, _] => joinValues data
  | _ => Effect.raise .badArguments

/-- What an escape may announce besides fixed values and sequences with more text: any other
character, which stands for itself. -/
def otherEscape (advanced : List Text) : Parser :=
  if advanced.isEmpty then anyChar
  else (notFollowedBy (alternatives (advanced.map literal)) somethingElse).andThen anyChar

/-- An escape with what it announces. -/
def escaped (q : Quoting) : Parser :=
  (literal q.escape).andThen (alternatives
    (q.customEscapes.map (fun e => (literal e.1).result e.2)
      ++ q.advancedEscapes.map (fun e => (literal e.1).andThen e.2)
      ++ [otherEscape (q.advancedEscapes.map Prod.fst)]))

/-- A character of the contents that stands for itself: neither the closing quote nor an
escape begins with it. -/
def plainCharacter (closing escape : Text) : Parser :=
  (notFollowedBy (alternatives [literal closing, literal escape]) somethingElse).andThen
    anyChar

/-- A quoted string between two given quotes. -/
def quotedBetween (q : Quoting) (opening closing : Text) : Parser :=
  seqMap
    [literal opening, (alternatives [escaped q, plainCharacter closing q.escape]).many,
      literal closing]
    joinContents

/-- A quoted string. The value is its contents with the escapes replaced. -/
def quotedString (q : Quoting) : Parser :=
  alternatives (q.quotes.map fun p => quotedBetween q p.1 p.2)

/-- A quoted string without escapes between two given quotes. -/
def rawQuotedBetween (opening closing : Text) : Parser :=
  seqMap
    [literal opening, ((notFollowedBy (literal closing) somethingElse).andThen anyChar).many,
      literal closing]
    joinContents

/-- A quoted string without escapes. -/
def rawQuotedString (quotes : List (Text × Text)) : Parser :=
  alternatives (quotes.map fun p => rawQuotedBetween p.1 p.2)

end Prebuilt

end Furthest
