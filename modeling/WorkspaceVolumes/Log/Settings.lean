import WorkspaceVolumes.Config.Loading
import WorkspaceVolumes.Log.Tag

/-!
# What is logged where

Logging is set up by the environment: how important an event has to be, where it goes, in
which form, and which tags it has to carry.

**Threshold.**  `RUST_LOG` decides if it can be read; an empty one lets nothing through.
Otherwise `LOG_LEVEL` decides, and errors alone are shown if it cannot be read either.

## Main definitions

* `LogOutput`, `LogSettings`, `LogSettings.ofEnvironment`.
* `LevelFilter`, `threshold`: how important an event has to be.
-/

namespace WorkspaceVolumes

/-- Where events are written. -/
inductive LogOutput
  | console | file | both | off
  deriving DecidableEq

namespace LogOutput

/-- The output that a word names; any other word names none. -/
def ofText (word : String) : LogOutput :=
  if word = "console" then console
  else if word = "file" then file
  else if word = "both" then both
  else off

/-- Whether events are written to the console. -/
def toConsole (output : LogOutput) : Bool := output = console || output = both

/-- Whether events are written to a file. -/
def toFile (output : LogOutput) : Bool := output = file || output = both

end LogOutput

/-- How logging is set up. -/
structure LogSettings where
  /-- The least important level that is shown, as it was written. -/
  level : String := "info"
  output : LogOutput := .console
  /-- Whether events are written with their spans, as records. -/
  json : Bool := false
  /-- The tags that an event has to carry. -/
  tags : List Tag := []
  filePath : String := "/tmp/vol.log"

/-- The settings of an environment. -/
def LogSettings.ofEnvironment (environment : Environment) : LogSettings :=
  let defaults : LogSettings := {}
  { level := (environment.text? "LOG_LEVEL").getD defaults.level
    output := ((environment.text? "LOG_OUTPUT").map LogOutput.ofText).getD defaults.output
    json := environment.text? "LOG_FORMAT" = some "json"
    tags := ((environment.text? "LOG_TAGS").map Tag.parseList).getD defaults.tags
    filePath := (environment.text? "LOG_FILE_PATH").getD defaults.filePath }

/-- The least important level that is shown, if any is. -/
abbrev LevelFilter := Option Level

/-- The filter that a word names, in any case. -/
def LevelFilter.ofText? (word : String) : Option LevelFilter :=
  let word := Text.lowered word
  if word = "trace" then some (some .trace)
  else if word = "debug" then some (some .debug)
  else if word = "info" then some (some .info)
  else if word = "warn" then some (some .warn)
  else if word = "error" then some (some .error)
  else if word = "off" then some none
  else none

/-- Whether a filter lets a level through. -/
def LevelFilter.shows (filter : LevelFilter) (level : Level) : Bool :=
  filter.any fun least => least.rank ≤ level.rank

/-- How important an event has to be. -/
def threshold (environment : Environment) (settings : LogSettings) : LevelFilter :=
  let fallback := (LevelFilter.ofText? settings.level).getD (some .error)
  match environment.text? "RUST_LOG" with
  | none => fallback
  | some word => if word.isEmpty then none else (LevelFilter.ofText? word).getD fallback

/-- The parts of a path: its root, a leading dot, and the names. -/
def pathComponents (path : String) : List (List Char) :=
  match splitAt '/' path.toList with
  | [] => []
  | first :: rest =>
    let names := rest.filter fun part => !part.isEmpty && part ≠ ['.']
    if first.isEmpty && rest.isEmpty then [] else first :: names

/-- Whether a path leads to a file in a directory relative to the working one. -/
def isInRelativeDirectory (path : String) : Bool :=
  2 ≤ (pathComponents path).length && !path.toList.head?.any (· = '/')

end WorkspaceVolumes
