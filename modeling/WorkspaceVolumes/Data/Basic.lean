import WorkspaceVolumes.Text.Digits

/-!
# Self-describing values

JSON and YAML both write trees of tables, lists and scalars.  `Data` is that tree.  Every
model type has one encoding into it, from which both notations are written, and one
reading, which works on any notation that can answer the questions of `DataSource` (see
`WorkspaceVolumes.Data.Reading`).

**Order.**  A record keeps its entries in the order in which they are written.  For a
structure this is the order of its declaration, for a table the order of its keys.

**Keys.**  A key is itself a value, because a YAML mapping may be keyed by anything.  What
the library writes, and every JSON object, is keyed by texts (`Data.object`).
-/

namespace WorkspaceVolumes

/-- A value that carries its own shape. -/
inductive Data
  /-- The absent value. -/
  | null
  /-- A boolean. -/
  | flag (value : Bool)
  /-- An integer. -/
  | whole (value : Int)
  /-- A number of any other form, as it was written. -/
  | decimal (numeral : String)
  /-- A string. -/
  | text (value : String)
  /-- A sequence. -/
  | list (items : List Data)
  /-- A mapping, in the order in which it was written. -/
  | record (entries : List (Data × Data))
  deriving Inhabited

namespace Data

/-- The largest integer a count may be. -/
def maxCount : Nat := Nat.pow 2 64 - 1

/-- The smallest integer that is kept as one. -/
def minWhole : Int := -(Nat.pow 2 63 : Nat)

/-- A mapping keyed by texts. -/
def object (fields : List (String × Data)) : Data :=
  .record (fields.map fun field => (.text field.1, field.2))

/-- The value of a JSON numeral.  It is an integer when it is written with digits alone,
fits 64 bits and is not a negative zero; any other numeral is kept as it stands. -/
def ofNumeral (numeral : String) : Data :=
  match numeral.toList with
  | '-' :: digits =>
    match Text.ofDigits? 10 digits with
    | some value =>
      if value = 0 || -(value : Int) < minWhole then .decimal numeral else .whole (-(value : Int))
    | none => .decimal numeral
  | digits =>
    match Text.ofDigits? 10 digits with
    | some value => if value ≤ maxCount then .whole value else .decimal numeral
    | none => .decimal numeral

end Data

end WorkspaceVolumes
