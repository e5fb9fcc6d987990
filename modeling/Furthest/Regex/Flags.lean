import Furthest.Text

/-!
# Flags of regular expressions

A set of flags is a number with one bit a flag. Flags that only change what a pattern
matches are allowed in parsers; the others are rejected when a parser is built.

## Main definitions

* `Regex.Flags`: sets of flags.
* `Regex.Flags.allowed`: the flags that a parser's pattern may have.
* `Regex.Flags.letters`: the letters that follow a pattern in a label.
* `Regex.Flags.render`, `Regex.Flags.renderUnsupported`: the names of the flags of a set.
-/

namespace Furthest.Regex

/-- A set of flags, one bit a flag. -/
abbrev Flags := Nat

namespace Flags

/-- The pattern has no repetitions. -/
def template : Flags := 1

/-- Letters match in both cases. -/
def ignoreCase : Flags := 2

/-- Classes of characters depend on the locale. -/
def locale : Flags := 4

/-- The anchors also match at the ends of lines. -/
def multiline : Flags := 8

/-- The dot also matches line feeds. -/
def dotAll : Flags := 16

/-- Classes of characters hold characters of all scripts. -/
def unicode : Flags := 32

/-- Blanks and comments in the pattern are skipped. -/
def verbose : Flags := 64

/-- The pattern is shown when it is compiled. -/
def debug : Flags := 128

/-- Classes of characters hold characters of ASCII alone. -/
def ascii : Flags := 256

/-- Whether a set holds a flag. -/
def has (flags flag : Flags) : Bool := flags &&& flag != 0

/-- The flags of a set that are not in another. -/
def without (flags others : Flags) : Flags := flags - (flags &&& others)

/-- The flags that only change what a pattern matches. -/
def allowed : Flags := ignoreCase ||| multiline ||| dotAll ||| unicode ||| verbose ||| ascii

/-- The letters of the flags that a label shows, in the order in which it shows them. -/
def letterTable : List (Flags × Text) :=
  [(ignoreCase, "i"), (multiline, "m"), (dotAll, "s"), (verbose, "x"), (ascii, "a")]

/-- The letters that follow a pattern in a label. -/
def letters (flags : Flags) : Text :=
  (letterTable.filter fun f => flags.has f.1).flatMap Prod.snd

/-- The names of all flags, by increasing bits. -/
def names : List (Flags × Text) :=
  [(template, "re.TEMPLATE"), (ignoreCase, "re.IGNORECASE"), (locale, "re.LOCALE"),
    (multiline, "re.MULTILINE"), (dotAll, "re.DOTALL"), (unicode, "re.UNICODE"),
    (verbose, "re.VERBOSE"), (debug, "re.DEBUG"), (ascii, "re.ASCII")]

/-- The names of the flags that are not allowed, in the order in which they are told. -/
def unsupportedNames : List (Flags × Text) :=
  [(locale, "re.LOCALE"), (template, "re.TEMPLATE"), (debug, "re.DEBUG")]

/-- The names of the flags of a set, and the number of those without a name in base
sixteen. -/
def parts (known : List (Flags × Text)) (flags : Flags) : List Text :=
  let named := known.filter fun f => flags.has f.1
  let others := flags.without (named.foldl (fun all f => all ||| f.1) 0)
  named.map Prod.snd
    ++ if others = 0 then []
      else [("0x" : Text) ++ Text.ofString (String.ofList (Nat.toDigits 16 others))]

/-- The names of the flags of a set, separated by bars. -/
def render (flags : Flags) : Text := Text.join "|" (parts names flags)

/-- The names of flags that are not allowed. If none of them has a name, their number is
told. -/
def renderUnsupported (flags : Flags) : Text :=
  if unsupportedNames.any fun f => flags.has f.1 then
    Text.join "|" (parts unsupportedNames flags)
  else "re.RegexFlag(" ++ Text.ofNat flags ++ ")"

end Flags

end Furthest.Regex
