import WorkspaceVolumes.Data.Basic
import WorkspaceVolumes.StringMap

/-!
# Reading model types from a notation

A model type is read by asking a source a few questions: the text of a scalar, the fields
of a record, the entries of a table.  What differs between notations is how a source
answers, not what is asked, so each model type has one reading and `DataSource` has one
instance for each notation.

**Records.**  A record is asked for by the names of its fields, in declaration order.
Unknown keys are passed over, a known key that occurs twice is a fault.  A self-describing
value may also give the fields by position, as a list; trailing fields may then be left
out when they have a default.

**References.**  A notation may let one value stand for another one written earlier.
Following such a reference is counted, so that a short text cannot unfold without bound.

## Main definitions

* `ReadFault`, `Reading`: the failures of reading, and readings that count references.
* `DataSource`: the questions; its instance for `Data` answers for JSON.
* `Fields.required`, `Fields.withDefault`, `readList`, `readTable`: what readings of model
  types are built of.
-/

namespace WorkspaceVolumes

/-- Why a text or value does not describe what it is read as. -/
inductive ReadFault
  /-- The text is not written in the notation. -/
  | malformed (reason : String)
  /-- Something else stands where a value of some form is expected. -/
  | expected (form : String)
  /-- A field without a default is absent. -/
  | missing (field : String)
  /-- A field is given twice. -/
  | repeated (field : String)
  /-- A text names none of the alternatives. -/
  | unknownVariant (text : String)
  /-- Values are nested too deeply. -/
  | tooDeep
  /-- References unfold into too much. -/
  | tooManyReferences
  /-- The text holds more than one document. -/
  | manyDocuments
  deriving DecidableEq

/-- The wording of a read fault. -/
def ReadFault.text : ReadFault → String
  | malformed reason => reason
  | expected form => s!"expected {form}"
  | missing field => s!"missing field '{field}'"
  | repeated field => s!"duplicate field '{field}'"
  | unknownVariant text => s!"unknown variant '{text}'"
  | tooDeep => "recursion limit exceeded"
  | tooManyReferences => "repetition limit exceeded"
  | manyDocuments => "more than one document"

/-- A reading counts the references it follows, and may fail. -/
abbrev Reading (α : Type) := StateT Nat (Except ReadFault) α

/-- The fields found in a record, under the names of its declaration. -/
abbrev Fields (ν : Type) := List (String × ν)

/-- The questions that readings of model types ask of a value in some notation. -/
class DataSource (ν : Type) where
  /-- The text of a string. -/
  text : ν → Reading String
  /-- The value of a boolean. -/
  flag : ν → Reading Bool
  /-- The value of a count. -/
  count : ν → Reading Nat
  /-- The value, unless it says that there is none. -/
  optional : ν → Reading (Option ν)
  /-- The elements of a sequence. -/
  items : ν → Reading (List ν)
  /-- The entries of a table, in order and with repetitions. -/
  entries : ν → Reading (List (String × ν))
  /-- The fields of a record whose names are given in declaration order. -/
  record : List String → ν → Reading (Fields ν)
  /-- The name of an alternative that carries nothing. -/
  variant : ν → Reading String
  /-- The value with the shape that its notation gives it. -/
  content : ν → Reading Data

namespace Fields

variable {ν α : Type}

/-- The value given for a field. -/
def find? (fields : Fields ν) (name : String) : Option ν := StringMap.lookup name fields

/-- Reads a field that has to be there. -/
def required (fields : Fields ν) (name : String) (read : ν → Reading α) : Reading α :=
  match fields.find? name with
  | some value => read value
  | none => throw (.missing name)

/-- Reads a field that has a default. -/
def withDefault (fields : Fields ν) (name : String) (default : α) (read : ν → Reading α) :
    Reading α :=
  match fields.find? name with
  | some value => read value
  | none => pure default

/-- Keeps the entries with known names, which may not be repeated. -/
def pick (names : List String) : List (String × ν) → Except ReadFault (Fields ν)
  | [] => .ok []
  | (name, value) :: rest => do
    let fields ← pick names rest
    if names.contains name then
      if fields.any (·.1 = name) then throw (.repeated name) else return (name, value) :: fields
    else return fields

end Fields

section
variable {ν α : Type} [DataSource ν]

/-- Reads a sequence, element by element. -/
def readList (read : ν → Reading α) (value : ν) : Reading (List α) := do
  (← DataSource.items value).mapM read

/-- Reads a table; of several entries with one key the last counts. -/
def readTable (read : ν → Reading α) (value : ν) : Reading (StringMap α) := do
  let entries ← (← DataSource.entries value).mapM fun entry => do
    return (entry.1, ← read entry.2)
  return StringMap.ofList entries

/-- Reads a set of strings, written as a sequence. -/
def readSet (value : ν) : Reading StringSet := do
  return StringSet.ofStrings (← readList DataSource.text value)

/-- Reads an optional string. -/
def readOptionalText (value : ν) : Reading (Option String) := do
  match ← DataSource.optional value with
  | some value => return some (← DataSource.text value)
  | none => return none

end

/-! ### Self-describing values as a source -/

namespace Data

/-- The field that a key of a mapping stands for: a text is its name, a count its
position.  `none` is a key that names no field, which is passed over. -/
def fieldOfKey (names : List String) : Data → Except ReadFault (Option String)
  | .text name => .ok (if names.contains name then some name else none)
  | .whole (.ofNat position) => .ok names[position]?
  | _ => .error (.expected "a field name")

/-- The entries of a mapping that stand for fields. -/
def namedEntries (names : List String) : List (Data × Data) → Except ReadFault (Fields Data)
  | [] => .ok []
  | (key, value) :: rest => do
    let field ← fieldOfKey names key
    let fields ← namedEntries names rest
    return match field with
      | some name => (name, value) :: fields
      | none => fields

/-- The fields of a record, given by name or by position. -/
def recordFields (names : List String) : Data → Except ReadFault (Fields Data)
  | .record entries => do Fields.pick names (← namedEntries names entries)
  | .list items =>
    if items.length ≤ names.length then .ok (names.zip items) else .error (.expected "fewer fields")
  | _ => .error (.expected "a record")

/-- The entry of a table, whose key has to be a text. -/
def textEntry : Data × Data → Except ReadFault (String × Data)
  | (.text key, value) => .ok (key, value)
  | _ => .error (.expected "a string key")

instance : DataSource Data where
  text
    | .text value => pure value
    | _ => throw (.expected "a string")
  flag
    | .flag value => pure value
    | _ => throw (.expected "a boolean")
  count
    | .whole (.ofNat value) => pure value
    | _ => throw (.expected "a count")
  optional
    | .null => pure none
    | value => pure (some value)
  items
    | .list items => pure items
    | _ => throw (.expected "a sequence")
  entries
    | .record entries => entries.mapM fun entry => liftM (textEntry entry)
    | _ => throw (.expected "a table")
  record names value := liftM (recordFields names value)
  variant
    | .text name => pure name
    | .record [(.text name, .null)] => pure name
    | _ => throw (.expected "an alternative")
  content := pure

end Data

/-- The result of a reading that starts with no reference followed. -/
def Reading.result {α : Type} (reading : Reading α) : Except ReadFault α :=
  (reading.run 0).map Prod.fst

end WorkspaceVolumes
