/-!
# Blank characters and trimming

A field counts as blank when it holds nothing but white space, and tags are read with the
white space around them removed.  White space is the Unicode property `White_Space`, not
the ASCII blanks alone: an ideographic space is blank, a zero-width space and a byte order
mark are not.

## Main definitions

* `Text.isBlank`, the property.
* `Text.trim`, a list of characters without its leading and trailing blanks.
* `Text.isEmptyOrBlank`, `Text.lowered`, the two tests on strings built from it.
-/

namespace WorkspaceVolumes.Text

/-- Whether a character has the Unicode property `White_Space`. -/
def isBlank (c : Char) : Bool :=
  let code := c.toNat
  (0x09 ≤ code && code ≤ 0x0D) || code = 0x20 || code = 0x85 || code = 0xA0 || code = 0x1680 ||
    (0x2000 ≤ code && code ≤ 0x200A) || code = 0x2028 || code = 0x2029 || code = 0x202F ||
    code = 0x205F || code = 0x3000

/-- A text without its leading and trailing blanks. -/
def trim (text : List Char) : List Char :=
  ((text.dropWhile isBlank).reverse.dropWhile isBlank).reverse

/-- A string without its leading and trailing blanks. -/
def trimmed (text : String) : String := String.ofList (trim text.toList)

/-- Whether a string holds no character that is not blank. -/
def isEmptyOrBlank (text : String) : Bool := (trim text.toList).isEmpty

/-- A string with its ASCII capitals made small; all other characters stay. -/
def lowered (text : String) : String := String.ofList (text.toList.map Char.toLower)

end WorkspaceVolumes.Text
