import WorkspaceVolumes.Text.Blank

/-!
# Tags

A tag is a key and a value that an event must carry in order to be shown.  A list of tags
is written `key:value,key:value`.  The value runs from the first colon of its segment, so
it may hold further colons.

**Malformed segments** are passed over: those without a colon and those whose key is
blank.

## Main definitions

* `Tag`, `Tag.parseList`: tags and their reading.
* `splitAt`: a text cut at every occurrence of a character.
-/

namespace WorkspaceVolumes

/-- A text cut at every occurrence of a character.  There is always at least one piece. -/
def splitAt (separator : Char) : List Char → List (List Char)
  | [] => [[]]
  | c :: rest =>
    if c = separator then [] :: splitAt separator rest
    else match splitAt separator rest with
      | piece :: pieces => (c :: piece) :: pieces
      | [] => [[c]]

/-- A key and a value that an event must carry. -/
structure Tag where
  key : String
  value : String
  deriving DecidableEq

namespace Tag

/-- The tag that a segment writes, if it has a colon and a key. -/
def ofSegment? (segment : List Char) : Option Tag :=
  match segment.dropWhile (· ≠ ':') with
  | [] => none
  | _ :: value =>
    let key := Text.trim (segment.takeWhile (· ≠ ':'))
    if key.isEmpty then none else some ⟨String.ofList key, String.ofList (Text.trim value)⟩

/-- The tags that a text writes. -/
def parseList (raw : String) : List Tag := (splitAt ',' raw.toList).filterMap ofSegment?

end Tag

end WorkspaceVolumes
