import Furthest.Parser

/-!
# Tests of characters

Ready-made tests of single characters, and ways to make tests of others.

## Main definitions

* `Predicate.isUpper`, `Predicate.isLower`, …: classes of characters of all scripts.
* `Predicate.member`: the characters of a text.
* `Predicate.named`, `Predicate.traced`: tests with another name, or with a note of every
  call.
* `Predicate.ofValue`: the test that a function makes.
-/

namespace Furthest

namespace Predicate

/-- A named test without effects. -/
def ofBool (name : Text) (test : CodePoint → Bool) : Predicate :=
  ⟨name, fun c => pure (test c)⟩

/-- Uppercase letters. -/
def isUpper : Predicate := ofBool "str.isupper" CodePoint.isUpper

/-- Lowercase letters. -/
def isLower : Predicate := ofBool "str.islower" CodePoint.isLower

/-- Digits. -/
def isDigit : Predicate := ofBool "str.isdigit" CodePoint.isDigit

/-- Letters. -/
def isAlpha : Predicate := ofBool "str.isalpha" CodePoint.isLetter

/-- Letters and numerals. -/
def isAlnum : Predicate := ofBool "str.isalnum" CodePoint.isAlphanumeric

/-- Blanks, and the characters that separate records and fields. -/
def isSpace : Predicate := ofBool "str.isspace" CodePoint.isBlank

/-- The tests above. -/
def standard : List Predicate := [isUpper, isLower, isDigit, isAlpha, isAlnum, isSpace]

/-- The characters of a text. The name tells how many these are. -/
def member (chars : Text) : Predicate :=
  ofBool ("in_" ++ Text.ofNat chars.length) fun c => decide (c ∈ chars)

/-- The characters of a set of characters. -/
def contains (chars : Text) : Predicate :=
  ofBool "frozenset.__contains__" fun c => decide (c ∈ chars)

/-- The same test with another name. -/
def named (name : Text) (p : Predicate) : Predicate := { p with name := name }

/-- The test that a value decides, whatever the character. -/
def returning (v : Value) : Predicate := ofBool "returns" fun _ => v.isTruthy

/-- The test that raises an error with a message. -/
def raising (message : Text) : Predicate := ⟨"raiser", fun _ => Effect.raise (.raised message)⟩

/-- The same test, which notes every character under a tag. -/
def traced (tag : Text) (p : Predicate) : Predicate :=
  { name := tag
    test := fun c => do
      Effect.note { tag := tag, items := [.char c] }
      p.test c }

/-- The test that a value makes, which has to be a function: it passes if the function's
value does. -/
def ofValue (f : Value) : Predicate :=
  { name := f.render
    test := fun c => do return (← f.call [.char c]).isTruthy }

end Predicate

end Furthest
