import WorkspaceVolumes.Yaml.Token

/-!
# Documents of a YAML text

The tokens of a text describe a tree of scalars, sequences and mappings.  This module
builds the tree.

**Anchors.**  An anchor is known by a number from where its node starts, and an alias
keeps the number that its name has at that point.  Numbers count the different names met
so far, so a name that is used again gives its new node a number that the next new name
will share; the later node then counts.

**Empty nodes.**  Where a node is left out, an empty plain scalar stands for it.

## Main definitions

* `Node`: the tree.
* `Node.ofTokens`, `Node.ofText`: the only document of a text.
* `Node.eventCount`, `Node.anchored`: the size of a tree, and its anchored nodes by
  number.
-/

namespace WorkspaceVolumes.Yaml

/-- A node of a YAML document, with its anchor and its tag. -/
inductive Node
  | scalar (anchor : Option Nat) (tag : Option TagText) (style : ScalarStyle) (text : List Char)
  | list (anchor : Option Nat) (tag : Option TagText) (items : List Node)
  | record (anchor : Option Nat) (tag : Option TagText) (entries : List (Node × Node))
  | alias (target : Nat)
  deriving Inhabited

namespace Node

/-- The node that stands where one is left out. -/
def empty : Node := .scalar none none .plain []

/-- The state of building a tree: the tokens that are left and the numbers of the anchors
met so far. -/
structure Building where
  tokens : List Token
  anchors : List (List Char × Nat)

/-- A step in building a tree. -/
abbrev Builder (α : Type) := StateT Building (Except ReadFault) α

namespace Builder

/-- The next token. -/
def peek : Builder (Option Token) := return (← get).tokens.head?

/-- Passes a token. -/
def skip : Builder Unit := modify fun s => { s with tokens := s.tokens.tail }

/-- Fails with a reason. -/
def refuse {α : Type} (reason : String) : Builder α := throw (.malformed reason)

/-- Gives an anchor its number. -/
def enterAnchor (name : List Char) : Builder Nat := do
  let s ← get
  let number := s.anchors.length
  set { s with anchors := (name, number) :: s.anchors.filter (·.1 ≠ name) }
  return number

/-- The number of an anchor. -/
def anchorNumber (name : List Char) : Builder Nat := do
  match (← get).anchors.find? (·.1 = name) with
  | some (_, number) => return number
  | none => refuse "unknown anchor"

end Builder

open Builder

/-- What tag handles stand for. -/
abbrev TagHandles := List (List Char × TagText)

/-- The tag handles of every document. -/
def defaultHandles : TagHandles :=
  [("!".toList, [TagText.mark]), ("!!".toList, .ofString "tag:yaml.org,2002:")]

/-- The tag that a handle and a suffix stand for. -/
def resolveTag (handles : TagHandles) (handle : List Char) (suffix : TagText) : Builder TagText :=
  if handle.isEmpty then pure suffix
  else match (handles ++ defaultHandles).find? (·.1 = handle) with
    | some (_, stem) => pure (stem ++ suffix)
    | none => refuse "found undefined tag handle"

/-- Reads the anchor in front of a node, if there is one. -/
def readAnchor : Builder (Option Nat) := do
  match ← peek with
  | some (.anchor name) => do
    skip
    return some (← enterAnchor name)
  | _ => return none

/-- Reads the tag in front of a node, if there is one. -/
def readTag (handles : TagHandles) : Builder (Option TagText) := do
  match ← peek with
  | some (.tag handle suffix) => do
    skip
    return some (← resolveTag handles handle suffix)
  | _ => return none

/-- Reads the anchor and the tag in front of a node, in either order. -/
def readProperties (handles : TagHandles) :
    Builder (Option Nat × Option TagText) := do
  match ← readAnchor with
  | some anchor => return (some anchor, ← readTag handles)
  | none =>
    let tag ← readTag handles
    return (← readAnchor, tag)

/-- Whether the end or a token of some kind comes next. -/
def comesNext (test : Token → Bool) : Builder Bool := return (← peek).all test

/-- Whether a token ends an element of a sequence in block style. -/
def endsItem : Token → Bool
  | .blockEntry | .blockEnd => true
  | _ => false

/-- Whether a token ends a key or a value of a mapping in block style. -/
def endsEntryPart : Token → Bool
  | .key | .value | .blockEnd => true
  | _ => false

/-- Whether a token ends an element of a sequence that stands at the indentation of its
key. -/
def endsIndentlessItem (token : Token) : Bool := endsItem token || endsEntryPart token

/-- Whether a token ends an element of a sequence in flow style. -/
def endsFlowItem : Token → Bool
  | .flowEntry | .flowSequenceEnd => true
  | _ => false

/-- Whether a token ends a value of a mapping in flow style. -/
def endsFlowValue : Token → Bool
  | .flowEntry | .flowMappingEnd => true
  | _ => false

mutual

/-- Reads a node.  Block collections are allowed in block context only; behind a key, a
sequence need not be indented. -/
def read (handles : TagHandles) : Nat → Bool → Bool → Builder Node
  | 0, _, _ => refuse "found more nodes than tokens"
  | fuel + 1, inBlock, indentless => do
    match ← peek with
    | some (.alias name) => do
      skip
      return .alias (← anchorNumber name)
    | _ =>
      let (anchor, tag) ← readProperties handles
      match inBlock, indentless, ← peek with
      | _, true, some .blockEntry =>
        return .list anchor tag (← readIndentless handles fuel)
      | _, _, some (.scalar style text) =>
        skip
        return .scalar anchor tag style text
      | _, _, some .flowSequenceStart =>
        skip
        return .list anchor tag (← readFlowItems handles fuel true)
      | _, _, some .flowMappingStart =>
        skip
        return .record anchor tag (← readFlowEntries handles fuel true)
      | true, _, some .blockSequenceStart =>
        skip
        return .list anchor tag (← readItems handles fuel)
      | true, _, some .blockMappingStart =>
        skip
        return .record anchor tag (← readEntries handles fuel)
      | _, _, _ =>
        if anchor.isSome || tag.isSome then return .scalar anchor tag .plain []
        else refuse "did not find expected node content"

/-- Reads the elements of a sequence in block style. -/
def readItems (handles : TagHandles) : Nat → Builder (List Node)
  | 0 => refuse "found more nodes than tokens"
  | fuel + 1 => do
    match ← peek with
    | some .blockEntry =>
      skip
      let item ← if ← comesNext endsItem then pure empty else read handles fuel true false
      return item :: (← readItems handles fuel)
    | some .blockEnd =>
      skip
      return []
    | _ => refuse "did not find expected '-' indicator"

/-- Reads the elements of a sequence that stands at the indentation of its key. -/
def readIndentless (handles : TagHandles) : Nat → Builder (List Node)
  | 0 => refuse "found more nodes than tokens"
  | fuel + 1 => do
    match ← peek with
    | some .blockEntry =>
      skip
      let item ← if ← comesNext endsIndentlessItem then pure empty else read handles fuel true false
      return item :: (← readIndentless handles fuel)
    | _ => return []

/-- Reads the entries of a mapping in block style. -/
def readEntries (handles : TagHandles) : Nat → Builder (List (Node × Node))
  | 0 => refuse "found more nodes than tokens"
  | fuel + 1 => do
    match ← peek with
    | some .key =>
      skip
      let key ← if ← comesNext endsEntryPart then pure empty else read handles fuel true true
      let value ← readValue handles fuel
      return (key, value) :: (← readEntries handles fuel)
    | some .blockEnd =>
      skip
      return []
    | _ => refuse "did not find expected key"

/-- Reads the value of an entry of a mapping in block style. -/
def readValue (handles : TagHandles) : Nat → Builder Node
  | 0 => refuse "found more nodes than tokens"
  | fuel + 1 => do
    match ← peek with
    | some .value =>
      skip
      if ← comesNext endsEntryPart then pure empty else read handles fuel true true
    | _ => pure empty

/-- Reads the elements of a sequence in flow style.  An element may be a mapping of one
entry without its braces. -/
def readFlowItems (handles : TagHandles) : Nat → Bool → Builder (List Node)
  | 0, _ => refuse "found more nodes than tokens"
  | fuel + 1, first => do
    match ← peek with
    | some .flowSequenceEnd =>
      skip
      return []
    | next =>
      if !first then
        if next = some .flowEntry then skip else refuse "did not find expected ',' or ']'"
      match ← peek with
      | some .flowSequenceEnd =>
        skip
        return []
      | some .key =>
        skip
        let key ← match ← peek with
          | some .value | some .flowEntry | some .flowSequenceEnd => do
            skip
            pure empty
          | _ => read handles fuel false false
        let value ← readFlowValue handles fuel endsFlowItem
        return .record none none [(key, value)] :: (← readFlowItems handles fuel false)
      | _ =>
        let item ← read handles fuel false false
        return item :: (← readFlowItems handles fuel false)

/-- Reads the value of an entry in flow style, up to a token that ends it. -/
def readFlowValue (handles : TagHandles) : Nat → (Token → Bool) → Builder Node
  | 0, _ => refuse "found more nodes than tokens"
  | fuel + 1, ends => do
    match ← peek with
    | some .value =>
      skip
      if ← comesNext ends then pure empty else read handles fuel false false
    | _ => pure empty

/-- Reads the entries of a mapping in flow style.  An entry may be a key alone. -/
def readFlowEntries (handles : TagHandles) :
    Nat → Bool → Builder (List (Node × Node))
  | 0, _ => refuse "found more nodes than tokens"
  | fuel + 1, first => do
    match ← peek with
    | some .flowMappingEnd =>
      skip
      return []
    | next =>
      if !first then
        if next = some .flowEntry then skip else refuse "did not find expected ',' or '\x7d'"
      match ← peek with
      | some .flowMappingEnd =>
        skip
        return []
      | some .key =>
        skip
        let key ← match ← peek with
          | some .value | some .flowEntry | some .flowMappingEnd => pure empty
          | _ => read handles fuel false false
        let value ← readFlowValue handles fuel endsFlowValue
        return (key, value) :: (← readFlowEntries handles fuel false)
      | _ =>
        let key ← read handles fuel false false
        return (key, empty) :: (← readFlowEntries handles fuel false)

end

/-! ### Documents -/

/-- Reads the directives in front of a document: at most one version, which has to be 1.1
or 1.2, and tag handles, none of them twice. -/
def readDirectives (versioned : Bool) (handles : TagHandles) :
    List Token → Except ReadFault (TagHandles × List Token)
  | .versionDirective major minor :: rest =>
    if versioned then .error (.malformed "found duplicate %YAML directive")
    else if major = 1 && (minor = 1 || minor = 2) then readDirectives true handles rest
    else .error (.malformed "found incompatible YAML document")
  | .tagDirective handle stem :: rest =>
    if handles.any (·.1 = handle) then .error (.malformed "found duplicate %TAG directive")
    else readDirectives versioned (handles ++ [(handle, stem)]) rest
  | tokens => .ok (handles, tokens)

/-- Whether a token ends a document that has not begun. -/
def endsEmptyDocument : Token → Bool
  | .versionDirective _ _ | .tagDirective _ _ | .documentStart | .documentEnd => true
  | _ => false

/-- Reads one node from tokens. -/
def ofTokensWith (handles : TagHandles) (tokens : List Token) :
    Except ReadFault (Node × List Token) := do
  let (node, state) ← (read handles (4 * tokens.length + 4) true false).run ⟨tokens, []⟩
  return (node, state.tokens)

/-- The document that tokens begin with, and the tokens behind it. -/
def firstDocument (tokens : List Token) : Except ReadFault (Node × List Token) := do
  match tokens with
  | .versionDirective _ _ :: _ | .tagDirective _ _ :: _ | .documentStart :: _ =>
    let (handles, rest) ← readDirectives false [] tokens
    match rest with
    | .documentStart :: content =>
      if content.head?.all endsEmptyDocument then return (empty, content)
      else ofTokensWith handles content
    | _ => throw (.malformed "did not find expected <document start>")
  | _ => ofTokensWith [] tokens

/-- The only document that tokens describe.  Without any token it is an empty node. -/
def ofTokens (tokens : List Token) : Except ReadFault Node := do
  if tokens.isEmpty then return empty
  let (node, rest) ← firstDocument tokens
  if rest.all (· = .documentEnd) then return node else throw .manyDocuments

/-- The only document of a text. -/
def ofText (text : String) : Except ReadFault Node := do
  ofTokens (← Token.scan text.toList)

/-! ### Views -/

mutual

/-- The number of scalars, aliases and ends of collections in a tree. -/
def eventCount : Node → Nat
  | .scalar .. | .alias _ => 1
  | .list _ _ items => 2 + eventCountItems items
  | .record _ _ entries => 2 + eventCountEntries entries

/-- The number of events of several nodes. -/
def eventCountItems : List Node → Nat
  | [] => 0
  | item :: rest => eventCount item + eventCountItems rest

/-- The number of events of an entry. -/
def eventCountEntry : Node × Node → Nat
  | (key, value) => eventCount key + eventCount value

/-- The number of events of several entries. -/
def eventCountEntries : List (Node × Node) → Nat
  | [] => 0
  | entry :: rest => eventCountEntry entry + eventCountEntries rest

end

mutual

/-- The anchored nodes of a tree by number, in the order in which they start. -/
def anchored : Node → List (Nat × Node)
  | .scalar anchor tag style text => anchor.toList.map (·, .scalar anchor tag style text)
  | .alias _ => []
  | .list anchor tag items => anchor.toList.map (·, .list anchor tag items) ++ anchoredItems items
  | .record anchor tag entries =>
    anchor.toList.map (·, .record anchor tag entries) ++ anchoredEntries entries

/-- The anchored nodes of several nodes. -/
def anchoredItems : List Node → List (Nat × Node)
  | [] => []
  | item :: rest => anchored item ++ anchoredItems rest

/-- The anchored nodes of an entry. -/
def anchoredEntry : Node × Node → List (Nat × Node)
  | (key, value) => anchored key ++ anchored value

/-- The anchored nodes of several entries. -/
def anchoredEntries : List (Node × Node) → List (Nat × Node)
  | [] => []
  | entry :: rest => anchoredEntry entry ++ anchoredEntries rest

end

end Node

end WorkspaceVolumes.Yaml
