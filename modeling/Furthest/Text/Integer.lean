import Furthest.Text.CharClass

/-!
# Integers in text

Reads integers the way people type them: blanks around the number, a sign before it,
underscores between its digits, and digits of any script. The number of digits may be
limited, because reading and printing a long number takes a time that grows with the square
of its length.

## Main definitions

* `Text.positionalValue`: the value of a run of digits in a base.
* `Text.digitLimit`: the greatest number of decimal digits that is read or printed.
* `Text.readInteger`: reads a decimal integer.
-/

namespace Furthest

namespace Text

/-- The value of a character as a digit: letters of either case follow the nine. -/
def digitValue (c : CodePoint) : Nat :=
  if CodePoint.isAsciiDigit c then c - 48
  else if CodePoint.isAsciiLower c then c - 87
  else if CodePoint.isAsciiUpper c then c - 55
  else 0

/-- The value of a run of digits in a base. -/
def positionalValue (base : Nat) (digits : Text) : Nat :=
  digits.foldl (fun n c => base * n + digitValue c) 0

/-- The greatest number of decimal digits that is read or printed, leading zeros
included. -/
def digitLimit : Nat := 4300

/-- Whether a run of digits is longer than a limit, if there is one. -/
def exceeds (digits : Nat) : (limit : Option Nat) → Bool
  | some n => n < digits
  | none => false

/-- Why a text is not read as an integer. -/
inductive IntegerProblem where
  /-- It is not the text of an integer. -/
  | malformed
  /-- It has too many digits. -/
  | tooLong (digits : Nat)

/-- The underscore, which may stand between two digits. -/
def underscore : CodePoint := 95

/-- The character of ASCII that a character counts as in a number: digits of all scripts
count as digits, and blanks outside ASCII as spaces. What has no place in a number becomes a
question mark. -/
def plainDigit (c : CodePoint) : CodePoint :=
  if c < 128 then c
  else if CodePoint.isBlank c then space
  else match CodePoint.decimalDigit? c with
    | some d => 48 + d
    | none => 63

/-- Whether every underscore stands between two digits, where `afterDigit` says whether a
digit comes before. -/
def underscoresFit (afterDigit : Bool) : Text → Bool
  | [] => afterDigit
  | c :: t =>
      if c = underscore then afterDigit && underscoresFit false t else underscoresFit true t

/-- Reads the digits of a decimal integer, behind which only blanks may stand. -/
def readDigits (limit : Option Nat) (t : Text) : Except IntegerProblem Nat :=
  let isPart (c : CodePoint) : Bool := CodePoint.isAsciiDigit c || c == underscore
  let part := t.takeWhile isPart
  let digits := part.filter CodePoint.isAsciiDigit
  if !underscoresFit false part then .error .malformed
  else if exceeds digits.length limit then .error (.tooLong digits.length)
  else if (t.dropWhile isPart).all CodePoint.isAsciiBlank then .ok (positionalValue 10 digits)
  else .error .malformed

/-- Reads a decimal integer: a sign, if there is one, and digits, with blanks around. -/
def readInteger (limit : Option Nat) (t : Text) : Except IntegerProblem Int :=
  match (t.map plainDigit).dropWhile CodePoint.isAsciiBlank with
  | 45 :: digits => (readDigits limit digits).map fun n => -(n : Int)
  | 43 :: digits => (readDigits limit digits).map fun n => (n : Int)
  | digits => (readDigits limit digits).map fun n => (n : Int)

end Text

end Furthest
