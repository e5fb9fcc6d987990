import Furthest.Text

/-!
# Binary floating point numbers and their decimal forms

A floating point number is held as its 64 bits. This module reads the bits as an exact
number `m * 2 ^ q`, finds the shortest decimal that reads back as the same number, and
rounds a decimal to the nearest floating point number. All of it is exact arithmetic on
natural numbers.

## Main definitions

* `Binary64.classify`: the number that the bits stand for.
* `Binary64.shortest`: the fewest decimal digits that determine a number.
* `Binary64.render`: the printed form.
* `Binary64.ofDecimal`: the number nearest to a decimal.
-/

namespace Furthest

/-- The bits of a floating point number: a sign, eleven bits of exponent and fifty-two of
fraction. -/
abbrev Binary64 := UInt64

namespace Binary64

/-- What the bits of a floating point number stand for. -/
inductive Class where
  /-- No number. -/
  | nan
  /-- An infinity, with its sign. -/
  | infinite (negative : Bool)
  /-- The number `m * 2 ^ q`, negated if it is negative. -/
  | finite (negative : Bool) (m : Nat) (q : Int)

/-- The weight of the sign bit: two to the sixty-third. -/
def signWeight : Nat := 0x8000000000000000

/-- The weight of the exponent's last bit, and the leading one of a significand: two to the
fifty-second. -/
def leadingOne : Nat := 0x10000000000000

/-- Whether the sign bit is set. -/
def isNegative (bits : Binary64) : Bool := bits.toNat / signWeight = 1

/-- The eleven bits of the exponent. -/
def exponentField (bits : Binary64) : Nat := bits.toNat / leadingOne % 2048

/-- The fifty-two bits of the fraction. -/
def fractionField (bits : Binary64) : Nat := bits.toNat % leadingOne

/-- Reads the bits. The least exponent has no leading one, the greatest is kept for the
infinities and for what is no number. -/
def classify (bits : Binary64) : Class :=
  let e := bits.exponentField
  let f := bits.fractionField
  if e = 2047 then if f = 0 then .infinite bits.isNegative else .nan
  else if e = 0 then .finite bits.isNegative f (-1074)
  else .finite bits.isNegative (leadingOne + f) (e - 1075)

/-- Puts sign, exponent and fraction together, where `magnitude` holds the last two. -/
def ofMagnitude (negative : Bool) (magnitude : Nat) : Binary64 :=
  UInt64.ofNat (magnitude + if negative then signWeight else 0)

/-- The bits of an infinity without its sign. -/
def infiniteMagnitude : Nat := 2047 * leadingOne

/-- Positive infinity. -/
def infinity : Binary64 := ofMagnitude false infiniteMagnitude

/-- The quiet value that is no number. -/
def nan : Binary64 := UInt64.ofNat (infiniteMagnitude + leadingOne / 2)

/-- Whether the bits stand for no number. -/
def isNaN (bits : Binary64) : Bool :=
  match bits.classify with
  | .nan => true
  | _ => false

/-- Whether the bits stand for an infinity of either sign. -/
def isInfinite (bits : Binary64) : Bool := bits.toNat % signWeight = infiniteMagnitude

/-- Whether the bits stand for a zero of either sign. -/
def isZero (bits : Binary64) : Bool := bits.toNat % signWeight = 0

/-- The same number with the other sign. -/
def negate (bits : Binary64) : Binary64 :=
  ofMagnitude (!bits.isNegative) (bits.toNat % signWeight)

/-- The value of an operation that has none on its operands. -/
def indefinite : Binary64 := nan.negate

/-- An operation on two numbers. An operand that is no number is the result, the first one
before the second. -/
def combine (operation : Float → Float → Float) (x y : Binary64) : Binary64 :=
  if x.isNaN then x
  else if y.isNaN then y
  else
    let result := (operation (Float.ofBits x) (Float.ofBits y)).toBits
    if isNaN result then indefinite else result

/-! ### Powers with integer exponents -/

/-- `n * base ^ e` as a fraction of two natural numbers. -/
def scaled (n base : Nat) (e : Int) : Nat × Nat :=
  if 0 ≤ e then (n * Nat.pow base e.toNat, 1) else (n, Nat.pow base (-e).toNat)

/-! ### The shortest decimal -/

/-- The exponent of the leading decimal digit of a positive fraction that is at least
`10 ^ (-400)`. -/
def decimalExponent (num den : Nat) : Int :=
  ((toString (num * Nat.pow 10 400 / den)).length : Int) - 401

/-- The decimal `d * 10 ^ k` with the fewest digits, at most as many as `digits + n`, that
lies in the interval of all reals that round to `m * 2 ^ q`; among two of equal length the
nearer one. The interval reaches half way to both neighbours, the lower one being at half
the distance when `m` is the least number of its length, and it holds its ends if `m` is
even. Seventeen digits always suffice. -/
def shortestFrom (m : Nat) (q : Int) (leading : Int) : (n : Nat) → (digits : Nat) → Nat × Int
  | 0, _ => (m, q)
  | n + 1, digits =>
    let k : Int := leading - digits + 1
    let narrow := m = leadingOne ∧ q ≠ -1074
    let (unitNum, unitDen) := scaled 1 10 k
    let (num, den) := scaled (4 * m) 2 (q - 2)
    let (highNum, _) := scaled (4 * m + 2) 2 (q - 2)
    let (lowNum, _) := scaled (if narrow then 4 * m - 1 else 4 * m - 2) 2 (q - 2)
    let inside (d : Nat) : Bool :=
      let x := d * unitNum * den
      if m % 2 = 0 then decide (lowNum * unitDen ≤ x) && decide (x ≤ highNum * unitDen)
      else decide (lowNum * unitDen < x) && decide (x < highNum * unitDen)
    let below := num * unitDen / (den * unitNum)
    let x := num * unitDen
    let toBelow := x - below * unitNum * den
    let toAbove := (below + 1) * unitNum * den - x
    let belowFirst := toBelow < toAbove ∨ (toBelow = toAbove ∧ below % 2 = 0)
    match inside below, inside (below + 1) with
    | true, true => if belowFirst then (below, k) else (below + 1, k)
    | true, false => (below, k)
    | false, true => (below + 1, k)
    | false, false => shortestFrom m q leading n (digits + 1)

/-- The decimal `d * 10 ^ k` with the fewest digits that reads back as the positive number
`m * 2 ^ q`. -/
def shortest (m : Nat) (q : Int) : Nat × Int :=
  let (num, den) := scaled m 2 q
  shortestFrom m q (decimalExponent num den) 17 1

/-! ### Printing -/

/-- How the digits of a decimal are laid out. -/
structure Layout where
  /-- The least exponent of a leading digit that is still written positionally. -/
  leastPositional : Int
  /-- The least exponent of a leading digit that is no longer written positionally. -/
  firstScientific : Int
  /-- The fewest digits of an exponent. -/
  exponentDigits : Nat

/-- Numbers from a ten-thousandth up to ten to the sixteenth are written positionally, all
others with an exponent of at least two digits. -/
def layout : Layout := { leastPositional := -4, firstScientific := 16, exponentDigits := 2 }

/-- A run of zeros. -/
def zeros (n : Nat) : Text := List.replicate n 48

/-- Zeros put before a text to make it at least as long as asked. -/
def padded (width : Nat) (t : Text) : Text := zeros (width - t.length) ++ t

/-- Lays out the decimal whose digits are `digits` and whose leading digit has the exponent
`leading`. Positional numbers always have a fraction, if only a zero. -/
def laidOut (digits : Text) (leading : Int) : Text :=
  if layout.leastPositional ≤ leading ∧ leading < layout.firstScientific then
    if leading < 0 then
      "0." ++ zeros (-leading - 1).toNat ++ digits
    else
      let whole := leading.toNat + 1
      let fraction : Text := digits.drop whole
      digits.take whole ++ zeros (whole - digits.length) ++ "."
        ++ (if fraction.isEmpty then ("0" : Text) else fraction)
  else
    let fraction : Text := digits.drop 1
    let exponent := padded layout.exponentDigits (Text.ofNat leading.natAbs)
    digits.take 1 ++ (if fraction.isEmpty then [] else ("." : Text) ++ fraction) ++ "e"
      ++ (if leading < 0 then ("-" : Text) else "+") ++ exponent

/-- The printed form: the shortest decimal that reads back as the same number. -/
def render (bits : Binary64) : Text :=
  match bits.classify with
  | .nan => "nan"
  | .infinite negative => if negative then "-inf" else "inf"
  | .finite negative m q =>
    let sign : Text := if negative then "-" else []
    if m = 0 then sign ++ "0.0"
    else
      let (d, k) := shortest m q
      let all := Text.ofNat d
      let digits := all.dropTrailing 48
      sign ++ laidOut digits (k + all.length - 1)

/-! ### Reading -/

/-- A fraction rounded to the nearest natural number, a half to the even neighbour. -/
def roundHalfEven (num den : Nat) : Nat :=
  let below := num / den
  let twice := 2 * (num % den)
  if twice < den then below
  else if twice = den then below + below % 2
  else below + 1

/-- The magnitude bits of the number nearest to a positive fraction. -/
def nearestMagnitude (num den : Nat) : Nat :=
  let estimate : Int := (Nat.log2 num : Int) - Nat.log2 den
  let (n, d) := scaled 1 2 estimate
  let leading := if num * d < den * n then estimate - 1 else estimate
  let q := max (leading - 52) (-1074)
  let (n, d) := scaled 1 2 q
  let m := roundHalfEven (num * d) (den * n)
  let (m, q) := if m = 2 * leadingOne then (leadingOne, q + 1) else (m, q)
  if 971 < q then infiniteMagnitude
  else if m < leadingOne then m
  else (q + 1075).toNat * leadingOne + (m - leadingOne)

/-- The floating point number nearest to `d * 10 ^ k`. Decimals far outside the range are
settled by the position of their leading digit. -/
def ofDecimal (negative : Bool) (d : Nat) (k : Int) : Binary64 :=
  let leading := k + (toString d).length
  if d = 0 ∨ leading < -400 then ofMagnitude negative 0
  else if 400 < leading then ofMagnitude negative infiniteMagnitude
  else
    let (num, den) := scaled d 10 k
    ofMagnitude negative (nearestMagnitude num den)

/-- The floating point number nearest to an integer. -/
def ofInt (n : Int) : Binary64 := ofDecimal (n < 0) n.natAbs 0

/-- The value of a run of decimal digits. -/
def digitsValue (t : Text) : Nat := t.foldl (fun n c => 10 * n + (c - 48)) 0

/-- Whether a character is one of the ten decimal digits of ASCII. -/
def isDigit (c : CodePoint) : Bool := decide (48 ≤ c) && decide (c ≤ 57)

/-- Reads a sign, if there is one: whether it is a minus, and the rest. -/
def readSign : Text → Bool × Text
  | 45 :: t => (true, t)
  | 43 :: t => (false, t)
  | t => (false, t)

/-- Reads an exponent that ends the text: nothing, or an `e` of either case, a sign and
digits. -/
def readExponent? : Text → Option Int
  | [] => some 0
  | c :: t =>
    if c = 101 ∨ c = 69 then
      let (negative, digits) := readSign t
      if digits.isEmpty || !digits.all isDigit then none
      else some (if negative then -(digitsValue digits : Int) else digitsValue digits)
    else none

/-- Reads a decimal: a sign, digits with a point somewhere among, before or behind them, and
an exponent, of which only the digits are needed. -/
def readDecimal? (t : Text) : Option Binary64 :=
  let (negative, t) := readSign t
  let whole := t.takeWhile isDigit
  let rest := t.dropWhile isDigit
  let (fraction, rest) := match rest with
    | 46 :: r => (r.takeWhile isDigit, r.dropWhile isDigit)
    | r => ([], r)
  if whole.isEmpty && fraction.isEmpty then none
  else (readExponent? rest).map fun e =>
    ofDecimal negative (digitsValue (whole ++ fraction)) (e - fraction.length)

/-! ### Comparison with integers -/

/-- The integer that the number is, if it is one. -/
def toInt? (bits : Binary64) : Option Int :=
  match bits.classify with
  | .finite negative m q =>
    let (num, den) := scaled m 2 q
    if num % den = 0 then
      let n : Int := num / den
      some (if negative then -n else n)
    else none
  | _ => none

/-- Whether two floating point numbers are equal as numbers: both zeros are, and what is no
number equals nothing. -/
def equal (a b : Binary64) : Bool :=
  !a.isNaN && !b.isNaN && (a == b || (a.isZero && b.isZero))

end Binary64

end Furthest
