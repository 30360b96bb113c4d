import WorkspaceVolumes.Yaml.Node

/-!
# YAML as a source of model types

A model type read from YAML is read from a place in a document.  The shape of the type
decides what a scalar means there: where a string is expected every scalar is one,
verbatim and whatever its style, so a version number needs no quotes.  Only a value read
for its own shape (`DataSource.content`) has plain scalars taken for nulls, booleans and
numbers.

**Nothing.**  An empty plain scalar is an empty sequence, table or record.  Where a value
is optional it means that there is none, and so does a null.

**Aliases** stand for the node that they name.  Following one is counted, and the count is
limited by the size of the document, so that nested aliases cannot unfold without bound.
Collections may be nested at most 128 deep.

**Tags.**  A tag of the form `!Name` names an alternative; a value read for its own shape
may not have one.  The mark alone is such a tag, too, but one whose name is not text is as
good as none.  The tags of the core schema decide the meaning of a scalar that is read for
its own shape, and under any other tag it is a string.
-/

namespace WorkspaceVolumes.Yaml

/-- What is known about a whole document: its anchored nodes, latest first, and how often
aliases may be followed. -/
structure Anchors where
  targets : List (Nat × Node)
  limit : Nat

/-- A node within its document. -/
structure Place where
  node : Node
  anchors : Anchors
  /-- How many more levels of collections may be entered. -/
  depth : Nat

/-- How deep collections may be nested. -/
def maxDepth : Nat := 128

/-- How often aliases may be followed for each event of a document. -/
def maxReferencesPerEvent : Nat := 100

/-- The document with a root node. -/
def Place.root (node : Node) : Place where
  node
  anchors := ⟨node.anchored.reverse, maxReferencesPerEvent * node.eventCount⟩
  depth := maxDepth

/-- The node itself, or the one that an alias stands for. -/
def Anchors.follow (anchors : Anchors) : Node → Reading Node
  | .alias target => do
    let followed ← get
    if anchors.limit < followed + 1 then throw .tooManyReferences
    set (followed + 1)
    match anchors.targets.find? (·.1 = target) with
    | some (_, node) => return node
    | none => throw (.malformed "unresolved alias")
  | node => pure node

/-- The tag of the core schema with a name. -/
def coreTag (name : String) : TagText := .ofString ("tag:yaml.org,2002:" ++ name)

/-- The name of the alternative that a tag selects: what follows an exclamation mark.
Bytes that are no text name nothing. -/
def alternativeOfTag? : Option TagText → Option String
  | some (first :: name) =>
    if first = TagText.mark then String.fromUTF8? ⟨name.toArray⟩ else none
  | _ => none

/-- Whether a scalar in this style, with this tag, is read by its plain meaning where a
value of a core type is expected. -/
def hasPlainMeaning (type : String) (style : ScalarStyle) (tag : Option TagText) : Bool :=
  style = .plain || (style = .literal && tag = some (coreTag type))

/-- The fault of a number that has no place in a self-describing value. -/
def tooWide : ReadFault := .expected "an integer of at most 64 bits"

/-- The value that a plain meaning stands for. -/
def Plain.toData (text : List Char) : Plain → Except ReadFault Data
  | .null => .ok .null
  | .flag value => .ok (.flag value)
  | .whole value => .ok (.whole value)
  | .wide => .error tooWide
  | .decimal => .ok (.decimal (String.ofList text))
  | .text => .ok (.text (String.ofList text))

/-- The value of a scalar that is read for its own shape. -/
def scalarData (tag : Option TagText) (style : ScalarStyle) (text : List Char) :
    Except ReadFault Data :=
  let untagged :=
    if style = .plain then (Plain.ofText text).toData text else .ok (.text (String.ofList text))
  match tag with
  | none => untagged
  | some tag =>
    if (alternativeOfTag? tag).isSome then .error (.expected "a value without an alternative")
    else if tag.head? = some TagText.mark then untagged
    else if tag = coreTag "bool" then
      match flag? text with
      | some value => .ok (.flag value)
      | none => .error (.expected "a boolean")
    else if tag = coreTag "int" then
      match (integer? text).bind (Plain.ofInteger? (text.head? = some '-')) with
      | some plain => plain.toData text
      | none => .error (.expected "an integer")
    else if tag = coreTag "float" then
      if isFloat text then .ok (.decimal (String.ofList text)) else .error (.expected "a float")
    else if tag = coreTag "null" then
      if isNullWord text then .ok .null else .error (.expected "null")
    else .ok (.text (String.ofList text))

/-- The value of a node that is read for its own shape, entering at most `depth`
levels. -/
def nodeData (anchors : Anchors) : Nat → Node → Reading Data
  | depth, node => do
    match ← anchors.follow node, depth with
    | .scalar _ tag style text, _ => liftM (scalarData tag style text)
    | .list _ tag items, depth + 1 => do
      if (alternativeOfTag? tag).isSome then throw (.expected "a value without an alternative")
      return .list (← items.mapM (nodeData anchors depth))
    | .record _ tag entries, depth + 1 => do
      if (alternativeOfTag? tag).isSome then throw (.expected "a value without an alternative")
      return .record (← entries.mapM fun entry => do
        let key ← nodeData anchors depth entry.1
        return (key, ← nodeData anchors depth entry.2))
    | .alias _, _ => throw (.malformed "unresolved alias")
    | _, 0 => throw .tooDeep

namespace Place

/-- The place with an alias followed. -/
def follow (place : Place) : Reading Place := do
  return { place with node := ← place.anchors.follow place.node }

/-- A node inside the collection at a place. -/
def inside (place : Place) (node : Node) : Place := { place with node, depth := place.depth - 1 }

/-- The text of a scalar, of any style and with any tag. -/
def text (place : Place) : Reading String := do
  match (← place.follow).node with
  | .scalar _ _ _ text => return String.ofList text
  | _ => throw (.expected "a string")

/-- The value of a boolean. -/
def flag (place : Place) : Reading Bool := do
  match (← place.follow).node with
  | .scalar _ tag style text =>
    match if hasPlainMeaning "bool" style tag then flag? text else none with
    | some value => return value
    | none => throw (.expected "a boolean")
  | _ => throw (.expected "a boolean")

/-- The value of a count. -/
def count (place : Place) : Reading Nat := do
  match (← place.follow).node with
  | .scalar _ tag style text =>
    match if hasPlainMeaning "int" style tag then Plain.ofText text else .text with
    | .whole (.ofNat value) => return value
    | _ => throw (.expected "a count")
  | _ => throw (.expected "a count")

/-- The place, unless it is a null or nothing at all. -/
def optional (place : Place) : Reading (Option Place) := do
  let place ← place.follow
  match place.node with
  | .scalar _ none .plain text =>
    return if text.isEmpty || isNullWord text then none else some place
  | .scalar _ (some tag) .plain text =>
    if tag = coreTag "null" then
      if isNullWord text then return none else throw (.expected "null")
    else return some place
  | _ => return some place

/-- Fails where no further level may be entered. -/
def enter (place : Place) : Reading Unit := if place.depth = 0 then throw .tooDeep else pure ()

/-- The elements of a sequence. -/
def items (place : Place) : Reading (List Place) := do
  let place ← place.follow
  match place.node with
  | .list _ _ items => do
    place.enter
    return items.map place.inside
  | .scalar _ _ .plain [] => return []
  | _ => throw (.expected "a sequence")

/-- The entries of a table. -/
def entries (place : Place) : Reading (List (String × Place)) := do
  let place ← place.follow
  match place.node with
  | .record _ _ entries => do
    place.enter
    entries.mapM fun entry => do return (← (place.inside entry.1).text, place.inside entry.2)
  | .scalar _ _ .plain [] => return []
  | _ => throw (.expected "a table")

/-- The name of an alternative: a scalar, or a tag on a null. -/
def variant (place : Place) : Reading String := do
  match (← place.follow).node with
  | .scalar _ tag style text =>
    match alternativeOfTag? tag with
    | none => return String.ofList text
    | some name =>
      if style = .plain && (text.isEmpty || isNullWord text) then return name
      else throw (.expected "null")
  | _ => throw (.expected "an alternative")

end Place

instance : DataSource Place where
  text := Place.text
  flag := Place.flag
  count := Place.count
  optional := Place.optional
  items := Place.items
  entries := Place.entries
  record names place := do liftM (Fields.pick names (← place.entries))
  variant := Place.variant
  content place := nodeData place.anchors place.depth place.node

/-- Reads a model type from a YAML text. -/
def readText {α : Type} (read : Place → Reading α) (text : String) : Except ReadFault α := do
  (read (Place.root (← Node.ofText text))).result

end WorkspaceVolumes.Yaml
