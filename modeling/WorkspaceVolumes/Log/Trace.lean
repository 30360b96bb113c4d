/-!
# What happens, as data

The engine reports what it does as events, some of them within spans that name the
operation and the workspace.  A run returns this report with its result, and what of it is
shown is decided afterwards (`WorkspaceVolumes.Log.Display`).

## Main definitions

* `Level`, `FieldValue`, `TraceStep`, `Trace`.
-/

namespace WorkspaceVolumes

/-- How important an event or a span is. -/
inductive Level
  | trace | debug | info | warn | error
  deriving DecidableEq

/-- The rank of a level, increasing with importance. -/
def Level.rank : Level → Nat
  | trace => 0
  | debug => 1
  | info => 2
  | warn => 3
  | error => 4

/-- A value recorded on a span. -/
inductive FieldValue
  | text (value : String)
  | whole (value : Int)
  | flag (value : Bool)
  deriving DecidableEq

/-- The text of a recorded value. -/
def FieldValue.display : FieldValue → String
  | text value => value
  | whole value => toString value
  | flag value => if value then "true" else "false"

/-- One thing that happens. -/
inductive TraceStep
  /-- A span opens and is entered, with the fields known at its start. -/
  | openSpan (level : Level) (name : String) (fields : List (String × FieldValue))
  /-- Fields of an open span become known: of the innermost one, or of the one that so many
  spans further out is open. -/
  | record (fields : List (String × FieldValue)) (outward : Nat := 0)
  /-- The innermost open span is left and closed. -/
  | closeSpan
  /-- An event. -/
  | event (level : Level) (message : String)
  deriving DecidableEq

/-- What happens during a run, first to last. -/
abbrev Trace := List TraceStep

end WorkspaceVolumes
