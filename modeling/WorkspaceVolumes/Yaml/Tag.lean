import WorkspaceVolumes.Yaml.Lexeme

/-!
# Tags of a YAML text

A tag says what kind of value a node is.  It is written as a handle, which stands for the
beginning of the tag, and a suffix.

**Bytes.**  The text of a tag is bytes.  Escapes write octets one by one, and although
each group of octets has to have the shape of a character, it need not be one.  The text
ends at the first zero octet.

## Main definitions

* `TagText`: the bytes of a tag.
* `tagText`, `tagHandle`, `tagParts`: the readers.
-/

namespace WorkspaceVolumes.Yaml

/-- The text of a tag or of a part of it, as bytes. -/
abbrev TagText := List UInt8

namespace TagText

/-- The bytes of a text. -/
def ofString (text : String) : TagText := text.toUTF8.data.toList

/-- The exclamation mark, which begins the tags that a document makes up for itself. -/
def mark : UInt8 := 0x21

/-- The part in front of the first zero octet. -/
def beforeZero (text : TagText) : TagText := text.takeWhile (· ≠ 0)

end TagText

/-- The characters of the text of a tag, escapes aside. -/
def isTagChar (bracketed : Bool) (c : Char) : Bool :=
  isWordChar c || ";/?:@&=+$.!~*'()".toList.contains c ||
    (bracketed && (c = ',' || c = '[' || c = ']'))

/-- The octet that two hexadecimal digits write. -/
def octet? (high low : Char) : Option UInt8 :=
  let (high, low) := (Text.digitValue high, Text.digitValue low)
  if high < 16 && low < 16 then some (UInt8.ofNat (16 * high + low)) else none

/-- How many octets a character takes, by the first of them. -/
def octetWidth? (first : UInt8) : Option Nat :=
  if first < 0x80 then some 1
  else if first < 0xC0 then none
  else if first < 0xE0 then some 2
  else if first < 0xF0 then some 3
  else if first < 0xF8 then some 4
  else none

/-- How many octets of an escaped character come behind this one, if `pending` came behind
the one before. -/
def octetsBehind (pending : Nat) (octet : UInt8) : Except ReadFault Nat :=
  match pending with
  | 0 =>
    match octetWidth? octet with
    | some width => .ok (width - 1)
    | none => .error (.malformed "found an incorrect leading UTF-8 octet")
  | pending + 1 =>
    if 0x80 ≤ octet && octet < 0xC0 then .ok pending
    else .error (.malformed "found an incorrect trailing UTF-8 octet")

/-- Reads the text of a tag, in which octets may be escaped; `pending` octets of an
escaped character are still to come. -/
def tagText (bracketed : Bool) (pending : Nat) (read : TagText) (position : Position) :
    List Char → Except ReadFault (TagText × Cursor)
  | '%' :: high :: low :: rest => do
    match octet? high low with
    | none => throw (.malformed "did not find URI escaped octet")
    | some octet =>
      let pending ← octetsBehind pending octet
      tagText bracketed pending (octet :: read) (position.afterAll ['%', high, low]) rest
  | '%' :: _ => .error (.malformed "did not find URI escaped octet")
  | c :: rest =>
    if pending ≠ 0 then .error (.malformed "did not find URI escaped octet")
    else if isTagChar bracketed c then
      tagText bracketed pending (c.toUInt8 :: read) (position.after c) rest
    else .ok (read.reverse, ⟨position, c :: rest⟩)
  | [] =>
    if pending ≠ 0 then .error (.malformed "did not find URI escaped octet")
    else .ok (read.reverse, ⟨position, []⟩)

/-- Reads an exclamation mark, word characters and a further exclamation mark, if there is
one. -/
def tagHandle (cursor : Cursor) : Except ReadFault (List Char × Cursor) :=
  match cursor.rest with
  | '!' :: _ =>
    let (word, behind) := (cursor.drop 1).takeWhile isWordChar
    match behind.rest with
    | '!' :: _ => .ok ('!' :: word ++ ['!'], behind.drop 1)
    | _ => .ok ('!' :: word, behind)
  | _ => .error (.malformed "did not find expected '!'")

/-- The handle and the suffix of a tag.  A tag in angle brackets has no handle, one with a
single exclamation mark has that mark as its handle, and the mark alone is a suffix. -/
def tagParts (cursor : Cursor) : Except ReadFault (List Char × TagText × Cursor) := do
  match cursor.rest with
  | '!' :: '<' :: _ =>
    let inside := cursor.drop 2
    let (suffix, behind) ← tagText true 0 [] inside.position inside.rest
    if suffix.isEmpty then throw (.malformed "did not find expected tag URI")
    match behind.rest with
    | '>' :: _ => return ([], suffix.beforeZero, behind.drop 1)
    | _ => throw (.malformed "did not find the expected '>'")
  | _ =>
    let (handle, behind) ← tagHandle cursor
    if 1 < handle.length && handle.getLast? = some '!' then
      let (suffix, behind) ← tagText false 0 [] behind.position behind.rest
      if suffix.isEmpty then throw (.malformed "did not find expected tag URI")
      return (handle, suffix.beforeZero, behind)
    else
      let word := handle.tail.map Char.toUInt8
      let (suffix, behind) ← tagText false 0 word.reverse behind.position behind.rest
      let suffix := suffix.beforeZero
      if suffix.isEmpty then return ([], [TagText.mark], behind) else return (['!'], suffix, behind)

end WorkspaceVolumes.Yaml
