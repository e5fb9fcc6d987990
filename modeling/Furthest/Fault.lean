import Furthest.Regex.Flags
import Furthest.Value.Render

/-!
# Faults

A fault is a cause for which a parser cannot be built or a run is broken off, as opposed to
a text that does not match. Each cause has one message, and belongs to one of a few kinds.

## Main definitions

* `Fault`: the causes.
* `Fault.kind`: the kind of a cause.
* `Fault.message`: the wording.
* `Fault.told`: the fault that is told.
-/

namespace Furthest

/-- The kinds of faults. -/
inductive FaultKind where
  /-- Something of the wrong type was given. -/
  | type
  /-- Something of the right type, but with a value that cannot be used. -/
  | value
  /-- A callback raised an error. -/
  | runtime
  /-- A pattern is malformed. -/
  | pattern
  /-- An offset is out of range. -/
  | index
  /-- A name or a node is unknown. -/
  | lookup
  /-- A number is too large for its purpose. -/
  | overflow
  /-- A part of the library has come to an impossible result. -/
  | system
deriving DecidableEq, Repr

/-- The causes of faults. -/
inductive Fault where
  /-- A function is needed. What was given is shown, unless it is a parser. -/
  | notFunction (shown : Option Text)
  /-- A parser is needed. -/
  | notParser (shown : Text)
  /-- A text is needed. -/
  | notText (given : Value)
  /-- A collection of characters is needed. -/
  | notCharacters (given : Value)
  /-- The source of a parse has to be a text. -/
  | notSource (given : Value)
  /-- A pattern is needed. -/
  | notPattern (shown : Text)
  /-- Patterns for byte strings cannot be used. -/
  | bytesPattern (shown : Text)
  /-- A group has to be a number or a name. -/
  | notGroup (given : Value)
  /-- The pattern has no group of this name. -/
  | unknownGroup (name pattern : Text)
  /-- The pattern has no group of this number. -/
  | groupOutOfRange (group : Int) (pattern : Text)
  /-- Some flags do more than change what a pattern matches. -/
  | unsupportedFlags (flags : Regex.Flags)
  /-- A compiled pattern has its flags already. -/
  | flagsOfCompiled
  /-- Characters of ASCII alone and characters of all scripts cannot both be asked for. -/
  | incompatibleFlags
  /-- A pattern for texts cannot depend on the locale. -/
  | localeFlag
  /-- The pattern is malformed. -/
  | malformedPattern
  /-- A pattern asks for more repetitions than can be counted. -/
  | tooManyRepetitions
  /-- A group of a pattern has matched a text that ends before it starts. -/
  | groupReversed
  /-- A count has to be an integer. -/
  | notCount (name : Text) (given : Value)
  /-- A count cannot be negative. -/
  | negativeCount (name : Text) (given : Int)
  /-- The greatest count lies below the least one. -/
  | countsCrossed (most least : Int)
  /-- There has to be at least one literal. -/
  | noLiterals
  /-- A sequence with a function at its end needs at least the function. -/
  | noFunction
  /-- There have to be as many closing quotes as opening ones. -/
  | unpairedQuotes
  /-- A collection of a known size is needed. -/
  | notSized (typeName : Text)
  /-- There are no digits for this base. -/
  | unsupportedBase (base : Value)
  /-- A base equals that of some digits, but is no integer. -/
  | notInteger (typeName : Text)
  /-- A lazy parser was built as itself. -/
  | lazyIsItself
  /-- A callback raised an error of its own. -/
  | raised (message : Text)
  /-- The text is not that of an integer. -/
  | notNumeral (shown : Text)
  /-- An integer has more digits than are read. -/
  | numeralTooLong (digits : Nat)
  /-- An integer has more digits than are printed. -/
  | integerTooLong
  /-- An integer is too large for a floating point number. -/
  | integerTooLarge
  /-- An element of a joined sequence is no text. -/
  | notJoinable (index : Nat) (typeName : Text)
  /-- What is appended to a text is no text. -/
  | notAppendable (typeName : Text)
  /-- Two elements of a sorted sequence cannot be compared. -/
  | notComparable (leftType rightType : Text)
  /-- An element of a set, or a key of a mapping, can change. -/
  | unhashable (typeName : Text)
  /-- An offset lies before the start of the text. -/
  | offsetOutOfRange
  /-- An offset is too large to look up a character. -/
  | offsetTooLarge
  /-- An offset is too large to match a pattern. -/
  | startTooLarge
  /-- A value is called that is no function. -/
  | notCallable (typeName : Text)
  /-- A function was given arguments that it is not made for. -/
  | badArguments
  /-- No parser has this name. -/
  | unknownName (name : Text)
  /-- There is no lazy parser of this number. -/
  | unknownLazy

instance : Inhabited Fault := ⟨.badArguments⟩

namespace Fault

/-- The kind of a cause. -/
def kind : Fault → FaultKind
  | notFunction _ | notParser _ | notText _ | notCharacters _ | notSource _ | notPattern _
  | bytesPattern _ | notGroup _ | notCount .. | notSized _ | notInteger _ | notJoinable ..
  | notAppendable _ | notComparable .. | unhashable _ | notCallable _ | badArguments => .type
  | unknownGroup .. | groupOutOfRange .. | unsupportedFlags _ | flagsOfCompiled
  | incompatibleFlags | localeFlag | negativeCount .. | countsCrossed ..
      | noLiterals | noFunction
  | unpairedQuotes | unsupportedBase _ | lazyIsItself | notNumeral _ | numeralTooLong _
  | integerTooLong => .value
  | raised _ => .runtime
  | malformedPattern => .pattern
  | offsetOutOfRange | offsetTooLarge => .index
  | unknownName _ | unknownLazy => .lookup
  | tooManyRepetitions | integerTooLarge | startTooLarge => .overflow
  | groupReversed => .system

/-- The longest part of a text that the message of a misread integer shows. -/
def shownIntegerLength : Nat := 200

/-- How a message begins about an integer with too many digits. -/
def limitExceeded : Text :=
  "Exceeds the limit (" ++ Text.ofNat Text.digitLimit
    ++ " digits) for integer string conversion"

/-- What such a message advises. -/
def limitAdvice : Text := "use sys.set_int_max_str_digits() to increase the limit"

/-- The wording of a cause. There is none for a parser given as a function, which has no
printed form, and none for malformed patterns. -/
def message : Fault → Option Text
  | notFunction shown => shown.map fun (t : Text) => "Not a function: " ++ t
  | notParser shown => some ("Not a parser: " ++ shown)
  | notText v => some ("Not a string: " ++ v.render)
  | notCharacters v => some ("Not a collection of characters: " ++ v.render)
  | notSource v => some ("`parse()` must be called with a string, not " ++ v.render ++ ".")
  | notPattern shown => some ("Not a regex: " ++ shown)
  | bytesPattern shown => some ("Bytes patterns aren't supported: " ++ shown)
  | notGroup v => some ("A group must be an integer or a name, not " ++ v.render)
  | unknownGroup name pattern =>
    some ("No group named " ++ name.quoted ++ " in " ++ pattern.quoted ++ ".")
  | groupOutOfRange n pattern =>
    some ("Group " ++ Text.ofInt n ++ " is out of range for " ++ pattern.quoted ++ ".")
  | unsupportedFlags flags => some ("Unsupported regex flags: " ++ flags.renderUnsupported)
  | flagsOfCompiled => some "Can't pass flags with a compiled pattern."
  | incompatibleFlags => some "ASCII and UNICODE flags are incompatible"
  | localeFlag => some "cannot use LOCALE flag with a str pattern"
  | malformedPattern => none
  | tooManyRepetitions => some "the repetition number is too large"
  | groupReversed =>
    some "The span of capturing group is wrong, please report a bug for the re module."
  | notCount name v => some ("`" ++ name ++ "` must be an integer, not " ++ v.render ++ ".")
  | negativeCount name n =>
      some ("`" ++ name ++ "` can't be negative. (" ++ Text.ofInt n ++ ")")
  | countsCrossed most least =>
    some ("`max_count` (" ++ Text.ofInt most ++ ") can't be less than `min_count` ("
      ++ Text.ofInt least ++ ").")
  | noLiterals => some "At least one literal required."
  | noFunction => some "`seq_map()` needs at least one argument."
  | unpairedQuotes => some "The number of starting quotes and ending quotes don't match."
  | notSized typeName => some ("object of type '" ++ typeName ++ "' has no len()")
  | unsupportedBase base => some ("Unsupported base: " ++ base.display)
  | notInteger typeName =>
    some ("'" ++ typeName ++ "' object cannot be interpreted as an integer")
  | lazyIsItself => some "A lazy parser can't resolve to itself."
  | raised text => some text
  | notNumeral shown =>
    some ("invalid literal for int() with base 10: " ++ shown.take shownIntegerLength)
  | numeralTooLong digits =>
    some (limitExceeded ++ ": value has " ++ Text.ofNat digits ++ " digits; " ++ limitAdvice)
  | integerTooLong => some (limitExceeded ++ "; " ++ limitAdvice)
  | integerTooLarge => some "int too large to convert to float"
  | notJoinable i typeName =>
    some ("sequence item " ++ Text.ofNat i ++ ": expected str instance, "
      ++ typeName ++ " found")
  | notAppendable typeName =>
    some ("can only concatenate str (not \"" ++ typeName ++ "\") to str")
  | notComparable left right =>
    some ("'<' not supported between instances of '" ++ left ++ "' and '" ++ right ++ "'")
  | unhashable typeName => some ("unhashable type: '" ++ typeName ++ "'")
  | offsetOutOfRange => some "string index out of range"
  | offsetTooLarge => some "cannot fit 'int' into an index-sized integer"
  | startTooLarge => some "Python int too large to convert to C ssize_t"
  | notCallable typeName => some ("'" ++ typeName ++ "' object is not callable")
  | badArguments => some "unsupported arguments"
  | unknownName name => some name.quoted
  | unknownLazy => none

/-- The values that the message of a cause shows. -/
def shownValues : Fault → List Value
  | notText v | notCharacters v | notSource v | notGroup v | notCount _ v
  | unsupportedBase v => [v]
  | groupOutOfRange n _ | negativeCount _ n => [.int n]
  | countsCrossed most least => [.int most, .int least]
  | _ => []

/-- The fault that is told: if the message would show a value that cannot be printed, that
is a fault of its own. -/
def told (f : Fault) : Fault := if f.shownValues.all Value.isPrintable then f
    else integerTooLong

end Fault

end Furthest
