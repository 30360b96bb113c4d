import WorkspaceVolumes.Data.Basic

/-!
# The meaning of plain scalars

A scalar written without quotes may be a null, a boolean, an integer, a number or a
string.  Reading needs to know which where the shape of a value is not given beforehand,
and printing needs to know it everywhere: a string that would be taken for anything else
has to be quoted.

**Integers** are decimal, or hexadecimal, octal and binary with `0x`, `0o`, `0b`.  They
end at 128 bits.  A decimal longer than that is a number of floating point, if it is not
too large for one.

**Leading zeros.**  Digits that start with a zero, such as `007`, are a string, and are
quoted all the same.

## Main definitions

* `Plain`, `Plain.ofText`: what a plain scalar is.
* `isFiniteDecimal`: whether a decimal numeral rounds to a finite double.
* `needsQuotes`: the strings that cannot stand plain.
-/

namespace WorkspaceVolumes.Yaml

/-- What a plain scalar is taken for. -/
inductive Plain
  | null
  | flag (value : Bool)
  /-- An integer of at most 64 bits. -/
  | whole (value : Int)
  /-- An integer of more than 64 and at most 128 bits. -/
  | wide
  /-- A number of floating point. -/
  | decimal
  | text
  deriving DecidableEq

/-- A text without its sign, if it has one. -/
def unsigned : List Char → List Char
  | '-' :: rest => rest
  | '+' :: rest => rest
  | text => text

/-- Whether a text consists of more than one digit, of which the first is a zero. -/
def hasLeadingZero (text : List Char) : Bool :=
  match unsigned text with
  | '0' :: c :: rest => (c :: rest).all Char.isDigit
  | _ => false

/-- The magnitude of an integer without its sign. -/
def magnitude? : List Char → Option Nat
  | '0' :: 'x' :: digits => Text.ofDigits? 16 digits
  | '0' :: 'o' :: digits => Text.ofDigits? 8 digits
  | '0' :: 'b' :: digits => Text.ofDigits? 2 digits
  | digits => Text.ofDigits? 10 digits

/-- The integer that a text writes, of any size. -/
def integer? (text : List Char) : Option Int :=
  if hasLeadingZero text then none
  else match text with
    | '-' :: digits => (magnitude? digits).map fun n => -(n : Int)
    | '+' :: digits => (magnitude? digits).map fun n => (n : Int)
    | digits => (magnitude? digits).map fun n => (n : Int)

/-- The least magnitude that rounds to infinity in double precision: half a unit beyond
the largest finite double, a tie going to the even neighbour. -/
def overflowBound : Nat := Nat.pow 2 1024 - Nat.pow 2 970

/-- Whether a magnitude of digits times a power of ten rounds to a finite double.  Powers
of ten that alone decide the question are not computed. -/
def isFiniteDecimal (digits : Nat) (exponent : Int) : Bool :=
  let length : Int := (Nat.toDigits 10 digits).length
  if digits = 0 then true
  else if length + exponent ≤ 308 then true
  else if 310 ≤ length + exponent then false
  else match exponent with
    | .ofNat e => digits * Nat.pow 10 e < overflowBound
    | .negSucc e => digits < overflowBound * Nat.pow 10 (e + 1)

/-- An exponent: nothing, or a letter, a sign and digits. -/
def exponent? : List Char → Option Int
  | [] => some 0
  | e :: rest =>
    if e = 'e' || e = 'E' then
      match rest with
      | '-' :: digits => (Text.ofDigits? 10 digits).map fun n => -(n : Int)
      | '+' :: digits => (Text.ofDigits? 10 digits).map fun n => (n : Int)
      | digits => (Text.ofDigits? 10 digits).map fun n => (n : Int)
    else none

/-- Whether a text is a decimal numeral of a finite double: digits with at most one point
and at least one digit, and an exponent. -/
def isDecimalNumeral (text : List Char) : Bool :=
  let whole := text.takeWhile Char.isDigit
  let rest := text.dropWhile Char.isDigit
  let (fraction, tail) := match rest with
    | '.' :: more => (more.takeWhile Char.isDigit, more.dropWhile Char.isDigit)
    | _ => ([], rest)
  match Text.ofDigits? 10 (whole ++ fraction), exponent? tail with
  | some digits, some exponent => isFiniteDecimal digits (exponent - fraction.length)
  | _, _ => false

/-- Whether a text is a number of floating point. -/
def isFloat (text : List Char) : Bool :=
  let special := [".inf".toList, ".Inf".toList, ".INF".toList]
  let nan := [".nan".toList, ".NaN".toList, ".NAN".toList]
  match text with
  | '+' :: digits => special.contains digits || isDecimalNumeral digits
  | '-' :: digits => special.contains digits || isDecimalNumeral digits
  | digits => special.contains digits || nan.contains digits || isDecimalNumeral digits

/-- The spellings of the absent value, the empty one aside. -/
def isNullWord (text : List Char) : Bool :=
  text = ['~'] || text = "null".toList || text = "Null".toList || text = "NULL".toList

/-- The boolean that a text writes. -/
def flag? (text : List Char) : Option Bool :=
  if text = "true".toList || text = "True".toList || text = "TRUE".toList then some true
  else if text = "false".toList || text = "False".toList || text = "FALSE".toList then some false
  else none

/-- What an integer is taken for.  A negative zero is a number of floating point, and
numbers beyond 128 bits are not integers. -/
def Plain.ofInteger? (negative : Bool) (value : Int) : Option Plain :=
  if negative && value = 0 then some .decimal
  else if Data.minWhole ≤ value && value ≤ Data.maxCount then some (.whole value)
  else if -(Nat.pow 2 127 : Nat) ≤ value && value < (Nat.pow 2 128 : Nat) then some .wide
  else none

/-- What a plain scalar is taken for. -/
def Plain.ofText (text : List Char) : Plain :=
  if text.isEmpty || isNullWord text then .null
  else match flag? text with
    | some value => .flag value
    | none =>
      match (integer? text).bind (Plain.ofInteger? (text.head? = some '-')) with
      | some plain => plain
      | none => if !hasLeadingZero text && isFloat text then .decimal else .text

/-- Whether a string would be taken for something else if it were written plain, or is a
run of digits that only just is a string. -/
def needsQuotes (text : List Char) : Bool := Plain.ofText text ≠ .text || hasLeadingZero text

end WorkspaceVolumes.Yaml
