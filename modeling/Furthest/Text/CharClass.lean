import Furthest.Text.Alphanumeric

/-!
# Classes of characters

Blanks, decimal digits and word characters, for characters of ASCII alone and for those of
all scripts.

## Main definitions

* `CodePoint.isBlank`, `CodePoint.isAsciiBlank`: blanks.
* `CodePoint.decimalDigit?`: the value of a decimal digit.
* `CodePoint.isDigit`, `CodePoint.isLetter`, `CodePoint.isAlphanumeric`: digits, letters and
  numerals.
* `CodePoint.isWord`, `CodePoint.isAsciiWord`: letters, digits and the underscore.
-/

namespace Furthest

namespace CodePoint

/-! ### ASCII -/

/-- The ten digits. -/
def isAsciiDigit (c : CodePoint) : Bool := decide (48 ≤ c) && decide (c ≤ 57)

/-- The uppercase letters. -/
def isAsciiUpper (c : CodePoint) : Bool := decide (65 ≤ c) && decide (c ≤ 90)

/-- The lowercase letters. -/
def isAsciiLower (c : CodePoint) : Bool := decide (97 ≤ c) && decide (c ≤ 122)

/-- The letters. -/
def isAsciiLetter (c : CodePoint) : Bool := isAsciiUpper c || isAsciiLower c

/-- The letters, the digits and the underscore. -/
def isAsciiWord (c : CodePoint) : Bool := isAsciiLetter c || isAsciiDigit c || c == 95

/-- The space, the tab and the ends of lines and pages. -/
def isAsciiBlank (c : CodePoint) : Bool := c == 32 || (decide (9 ≤ c) && decide (c ≤ 13))

/-! ### All scripts -/

/-- The blanks of all scripts. -/
def blankRanges : List (CodePoint × CodePoint) :=
  [(0x09, 0x0D), (0x1C, 0x20), (0x85, 0x85), (0xA0, 0xA0), (0x1680, 0x1680), (0x2000, 0x200A),
    (0x2028, 0x2029), (0x202F, 0x202F), (0x205F, 0x205F), (0x3000, 0x3000)]

/-- Whether a character is a blank of some script. -/
def isBlank (c : CodePoint) : Bool := inRanges blankRanges c

/-- The value of a decimal digit of some script. -/
def decimalDigit? (c : CodePoint) : Option Nat :=
  if isAsciiDigit c then some (c - 48)
  else if c < 128 then none
  else (decimalZeros.find? fun z => decide (z ≤ c) && decide (c ≤ z + 9)).map (c - ·)

/-- Whether a character is a decimal digit of some script. -/
def isDecimalDigit (c : CodePoint) : Bool := (decimalDigit? c).isSome

/-- Whether a character is a digit of some script, be it used to write decimal numbers or
not. -/
def isDigit (c : CodePoint) : Bool := isDecimalDigit c || inRanges markedDigitRanges c

/-- Whether a character is a letter or a numeral of some script. -/
def isAlphanumeric (c : CodePoint) : Bool :=
  if c < 128 then isAsciiLetter c || isAsciiDigit c else inRanges alphanumericRanges c

/-- Whether a character is a letter of some script. -/
def isLetter (c : CodePoint) : Bool :=
  isAlphanumeric c && !isDigit c && !inRanges numeralRanges c

/-- Letters, numerals and the underscore. -/
def isWord (c : CodePoint) : Bool := isAlphanumeric c || c == 95

end CodePoint

end Furthest
