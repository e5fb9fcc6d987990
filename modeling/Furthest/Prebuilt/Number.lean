import Furthest.Prebuilt.Characters

/-!
# Numbers

Integers in four bases, of which all but the decimal one have a letter that announces them,
and numbers with a fraction or an exponent. The number of decimal digits of an integer may
be limited.

## Main definitions

* `Prebuilt.unsigned`: the digits of a base.
* `Prebuilt.integer`: an integer in a known base.
* `Prebuilt.anyInteger`: an integer in the base that its first characters announce.
* `Prebuilt.floatNumber`: a number with a fraction or an exponent.
-/

namespace Furthest.Prebuilt

open Furthest.Parser

/-- A base: its number, its digits, and what a single one of these is called. -/
structure Base where
  /-- The number of the digits' values. -/
  base : Nat
  /-- The digits, in increasing order of the characters. -/
  digits : Text
  /-- What a digit is called. -/
  label : Text

/-- Base two. -/
def binary : Base := ⟨2, Charset.binary, "a binary digit"⟩

/-- Base eight. -/
def octal : Base := ⟨8, Charset.octal, "an octal digit"⟩

/-- Base ten. -/
def decimal : Base := ⟨10, Charset.decimal, "a digit"⟩

/-- Base sixteen. -/
def hexadecimal : Base := ⟨16, Charset.hexadecimal, "a hexadecimal digit"⟩

/-- All bases. -/
def bases : List Base := [binary, octal, decimal, hexadecimal]

/-- The texts that announce a base. -/
def basePrefixes : List (Text × Base) := [("0b", binary), ("0o", octal), ("0x", hexadecimal)]

/-- The integer that digits of a base stand for. A limit on the number of digits holds for
decimal digits alone: the digits of the other bases are groups of bits, which are quickly
put together. -/
def integerOf (limit : Option Nat) (b : Base) : Value → Effect Value
  | .text t =>
    if b.base = 10 && Text.exceeds t.length limit then Effect.raise (.numeralTooLong t.length)
    else pure (.int (Text.positionalValue b.base t))
  | _ => Effect.raise .badArguments

/-- One or more digits of a base, joined. -/
def digitsIn (b : Base) : Parser := digitsOf (memberOf b.digits) b.label

/-- The number that one or more digits of a base stand for. -/
def unsigned (limit : Option Nat) (b : Base) : Parser := (digitsIn b).map (integerOf limit b)

/-- A number with its sign, which is empty or a minus. -/
def applySign : List Value → Effect Value
  | [sign, .int n] => pure (.int (if sign.isTruthy then -n else n))
  | _ => Effect.raise .badArguments

/-- A number with or without a minus before it. -/
def signed (body : Parser) : Parser :=
  seqMap [optional (literal "-") (.text []), body] applySign

/-- An integer in a base. -/
def integer (limit : Option Nat) (b : Base) : Parser := signed (unsigned limit b)

/-- An integer in the base that its first characters announce, or else in decimal digits. -/
def anyInteger (limit : Option Nat) : Parser :=
  signed (alternatives
    (basePrefixes.map (fun p => (literal p.1).andThen (unsigned limit p.2))
      ++ [unsigned limit decimal]))

/-- The pattern of an exponent. -/
def exponentPattern : Text := "[eE][+-]?[0-9]+"

/-- The pattern of a number with a fraction or an exponent: digits, a point and digits, with
or without an exponent; or digits, with or without a point, and an exponent; or a point and
digits, with or without an exponent. -/
def floatPattern : Text :=
  "-?(?:[0-9]+(?:\\.[0-9]+(?:" ++ exponentPattern ++ ")?|\\.?" ++ exponentPattern
    ++ ")|\\.[0-9]+(?:" ++ exponentPattern ++ ")?)"

/-- The floating point number that a text stands for. -/
def floatOf : Value → Effect Value
  | .text t =>
    match Binary64.readDecimal? t with
    | some x => pure (.float x)
    | none => Effect.raise .badArguments
  | _ => Effect.raise .badArguments

/-- A number with a fraction or an exponent. -/
def floatNumber : Parser := ((ofPattern floatPattern).desc "a float").map floatOf

end Furthest.Prebuilt
