import WorkspaceVolumes.Data.Reading

/-!
# Reading JSON

The value that a JSON text writes, or nothing if the text is not JSON.

**Order and repetitions.**  The entries of an object are kept in key order, whatever order
they are written in, and of several entries with one key the last counts.

**Strings** may escape a character by its UTF-16 units.  A unit that is half of a pair
without its other half is no character, and a string with one is refused.

## Main definitions

* `Json.unescape`, the body of a string; `Json.afterNumeral?`, the extent of a numeral.
* `Json.parse?`, the value of a text.
-/

namespace WorkspaceVolumes.Json

/-- Whether a character may stand between any two signs of a text. -/
def isSpace (c : Char) : Bool := c = ' ' || c = '\t' || c = '\n' || c = '\r'

/-- A text without the blanks before it. -/
def skipSpace (text : List Char) : List Char := text.dropWhile isSpace

/-! ### Strings -/

/-- The character that a letter stands for behind a backslash. -/
def escaped? : Char → Option Char
  | '"' => some '"'
  | '\\' => some '\\'
  | '/' => some '/'
  | 'b' => some '\x08'
  | 'f' => some '\x0c'
  | 'n' => some '\n'
  | 'r' => some '\r'
  | 't' => some '\t'
  | _ => none

/-- The units of a string from behind its opening quote, and the text behind its closing
quote.  A unit is a code point or half of a surrogate pair. -/
def stringUnits : List Char → Option (List Nat × List Char)
  | [] => none
  | '"' :: rest => some ([], rest)
  | '\\' :: 'u' :: a :: b :: c :: d :: rest => do
    let unit ← Text.ofDigits? 16 [a, b, c, d]
    let (units, rest) ← stringUnits rest
    return (unit :: units, rest)
  | '\\' :: letter :: rest => do
    let c ← escaped? letter
    let (units, rest) ← stringUnits rest
    return (c.toNat :: units, rest)
  | c :: rest =>
    if c < ' ' then none
    else do
      let (units, rest) ← stringUnits rest
      return (c.toNat :: units, rest)

/-- Whether a unit is the first half of a surrogate pair. -/
def isLeading (unit : Nat) : Bool := 0xD800 ≤ unit && unit < 0xDC00

/-- Whether a unit is the second half of a surrogate pair. -/
def isTrailing (unit : Nat) : Bool := 0xDC00 ≤ unit && unit < 0xE000

/-- The characters of a list of units, if every half has its other half. -/
def joinUnits : List Nat → Option (List Char)
  | [] => some []
  | [unit] => if isLeading unit || isTrailing unit then none else some [Char.ofNat unit]
  | first :: second :: rest =>
    if isLeading first then
      if isTrailing second then
        (joinUnits rest).map
          (Char.ofNat (0x10000 + (first - 0xD800) * 0x400 + (second - 0xDC00)) :: ·)
      else none
    else if isTrailing first then none
    else (joinUnits (second :: rest)).map (Char.ofNat first :: ·)

/-- A string from behind its opening quote, and the text behind its closing quote. -/
def unescape (text : List Char) : Option (String × List Char) := do
  let (units, rest) ← stringUnits text
  return (String.ofList (← joinUnits units), rest)

/-! ### Numerals -/

/-- What follows the digits at the start of a text, if there are any. -/
def afterDigits? (text : List Char) : Option (List Char) :=
  if text.head?.any Char.isDigit then some (text.dropWhile Char.isDigit) else none

/-- What follows the whole part of a numeral, which has no needless zero in front. -/
def afterWhole? : List Char → Option (List Char)
  | '0' :: rest => some rest
  | text => afterDigits? text

/-- What follows the fraction of a numeral, if it has one. -/
def afterFraction? : List Char → Option (List Char)
  | '.' :: rest => afterDigits? rest
  | text => some text

/-- What follows the exponent of a numeral, if it has one. -/
def afterExponent? : List Char → Option (List Char)
  | c :: rest =>
    if c = 'e' || c = 'E' then
      match rest with
      | '+' :: digits => afterDigits? digits
      | '-' :: digits => afterDigits? digits
      | digits => afterDigits? digits
    else some (c :: rest)
  | [] => some []

/-- What follows a numeral at the start of a text. -/
def afterNumeral? (text : List Char) : Option (List Char) := do
  let unsigned := match text with
    | '-' :: rest => rest
    | _ => text
  afterExponent? (← afterFraction? (← afterWhole? unsigned))

/-- The numeral at the start of a text, and the text behind it. -/
def numeral? (text : List Char) : Option (Data × List Char) := do
  let rest ← afterNumeral? text
  return (.ofNumeral (String.ofList (text.take (text.length - rest.length))), rest)

/-! ### Values -/

/-- An object of some entries, in key order. -/
def objectOf (entries : List (String × Data)) : Data :=
  .object (StringMap.ofList entries).entries

mutual

/-- The value at the start of a text, and the text behind it. -/
def value? : Nat → List Char → Option (Data × List Char)
  | 0, _ => none
  | fuel + 1, text =>
    match skipSpace text with
    | '"' :: rest => (unescape rest).map fun (string, rest) => (.text string, rest)
    | '[' :: rest =>
      match skipSpace rest with
      | ']' :: rest => some (.list [], rest)
      | rest => (items? fuel rest).map fun (items, rest) => (.list items, rest)
    | '{' :: rest =>
      match skipSpace rest with
      | '}' :: rest => some (.record [], rest)
      | rest => (entries? fuel rest).map fun (entries, rest) => (objectOf entries, rest)
    | 'n' :: 'u' :: 'l' :: 'l' :: rest => some (.null, rest)
    | 't' :: 'r' :: 'u' :: 'e' :: rest => some (.flag true, rest)
    | 'f' :: 'a' :: 'l' :: 's' :: 'e' :: rest => some (.flag false, rest)
    | text => numeral? text

/-- The elements of an array up to its closing bracket, and the text behind it. -/
def items? : Nat → List Char → Option (List Data × List Char)
  | 0, _ => none
  | fuel + 1, text => do
    let (item, rest) ← value? fuel text
    match skipSpace rest with
    | ',' :: rest =>
      let (items, rest) ← items? fuel rest
      return (item :: items, rest)
    | ']' :: rest => return ([item], rest)
    | _ => none

/-- The entries of an object up to its closing brace, and the text behind it. -/
def entries? : Nat → List Char → Option (List (String × Data) × List Char)
  | 0, _ => none
  | fuel + 1, text => do
    let '"' :: rest := skipSpace text | none
    let (key, rest) ← unescape rest
    let ':' :: rest := skipSpace rest | none
    let (value, rest) ← value? fuel rest
    match skipSpace rest with
    | ',' :: rest =>
      let (entries, rest) ← entries? fuel rest
      return ((key, value) :: entries, rest)
    | '}' :: rest => return ([(key, value)], rest)
    | _ => none

end

/-- The value that a text writes.  Of two successive calls of the readers one takes a
character, so twice the length of the text bounds their nesting. -/
def parse? (text : String) : Option Data := do
  let characters := text.toList
  let (value, rest) ← value? (2 * characters.length + 2) characters
  if (skipSpace rest).isEmpty then return value else none

end WorkspaceVolumes.Json
