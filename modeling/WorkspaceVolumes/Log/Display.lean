import WorkspaceVolumes.Log.Settings
import WorkspaceVolumes.Text.Inert

/-!
# What is shown of what happens

A trace becomes a list of shown events.  An event is shown if it is important enough and
carries every tag.

**Spans.**  A span that is not important enough is never opened, so nothing is seen of its
fields.  Of the others an event carries all fields; where two spans hold one field the
inner one counts, and where a field was recorded twice the later value.

**Tags.**  A tag is carried if its key is, with a value that contains the value of the
tag; the value `*` asks for the key alone.  Outside of all spans an event carries nothing,
so with any tag it is not shown.

**Messages.**  A record holds the message as it is.  A message for reading goes to a
terminal and is made inert (`Text.inert`).

## Main definitions

* `SpanFrame`, `spansAfter`: open spans, and what a step makes of them.
* `carriesTags`: the test of an event.
* `ShownEvent`, `shownEvents`: the events that pass.
* `LogReport`, `logReport`: what ends up on the console and in the file.
-/

namespace WorkspaceVolumes

/-- An open span. -/
structure SpanFrame where
  /-- Whether it was important enough to be opened. -/
  enabled : Bool
  name : String
  fields : StringMap FieldValue

/-- Records fields, later values over earlier ones. -/
def recordFields (fields : StringMap FieldValue) (values : List (String × FieldValue)) :
    StringMap FieldValue :=
  values.foldl (fun fields value => fields.insert value.1 value.2) fields

/-- A span on which further fields have become known. -/
def SpanFrame.recorded (values : List (String × FieldValue)) (span : SpanFrame) : SpanFrame :=
  { span with fields := recordFields span.fields values }

/-- Whether a text occurs within another. -/
def occursIn (part : List Char) : List Char → Bool
  | [] => part.isEmpty
  | c :: rest => part.isPrefixOf (c :: rest) || occursIn part rest

/-- Takes over fields that are not known yet. -/
def fillFields (fields : StringMap FieldValue) (values : List (String × FieldValue)) :
    StringMap FieldValue :=
  values.foldl (fun fields value =>
    if fields.contains value.1 then fields else fields.insert value.1 value.2) fields

/-- The fields of spans, given innermost first; inner fields hide outer ones. -/
def mergedFields (spans : List SpanFrame) : StringMap FieldValue :=
  spans.foldl (fun fields span => fillFields fields span.fields.entries) .empty

/-- Whether fields have a tag. -/
def hasTag (fields : StringMap FieldValue) (tag : Tag) : Bool :=
  (fields.get? tag.key).any fun value =>
    tag.value = "*" || occursIn tag.value.toList value.display.toList

/-- Whether an event within spans carries every tag. -/
def carriesTags (tags : List Tag) (spans : List SpanFrame) : Bool :=
  tags.isEmpty || (!spans.isEmpty && tags.all (hasTag (mergedFields spans)))

/-- An event as it is shown, with the spans around it, outermost first. -/
structure ShownEvent where
  level : Level
  message : String
  spans : List SpanFrame

/-- The open spans after a step, innermost first. -/
def spansAfter (filter : LevelFilter) (spans : List SpanFrame) : TraceStep → List SpanFrame
  | .openSpan level name fields => ⟨filter.shows level, name, .ofList fields⟩ :: spans
  | .record values outward => spans.modify outward (·.recorded values)
  | .closeSpan => spans.tail
  | .event _ _ => spans

/-- The event that a step shows, if it is one and passes. -/
def shownBy (filter : LevelFilter) (tags : List Tag) (spans : List SpanFrame) :
    TraceStep → List ShownEvent
  | .event level message =>
    let around := spans.filter (·.enabled)
    if filter.shows level && carriesTags tags around then [⟨level, message, around.reverse⟩] else []
  | _ => []

/-- The events of a trace that are shown, within open spans given innermost first. -/
def shownWithin (filter : LevelFilter) (tags : List Tag) : List SpanFrame → Trace → List ShownEvent
  | _, [] => []
  | spans, step :: rest =>
    shownBy filter tags spans step ++ shownWithin filter tags (spansAfter filter spans step) rest

/-- The events of a trace that are shown. -/
def shownEvents (filter : LevelFilter) (tags : List Tag) (trace : Trace) : List ShownEvent :=
  shownWithin filter tags [] trace

/-- An event as it is written, as a record or for reading. -/
def ShownEvent.written (json : Bool) (event : ShownEvent) : ShownEvent :=
  if json then event else { event with message := Text.inert event.message }

/-- What logging leaves behind. -/
structure LogReport where
  console : List ShownEvent
  /-- The events in the file, if there is one below the working directory. -/
  file : Option (List ShownEvent)
  /-- Whether a file is written, which has to be closed in the end. -/
  hasGuard : Bool

/-- What logging in an environment leaves behind of a trace. -/
def logReport (environment : Environment) (trace : Trace) : LogReport :=
  let settings := LogSettings.ofEnvironment environment
  let shown :=
    (shownEvents (threshold environment settings) settings.tags trace).map (.written settings.json)
  { console := if settings.output.toConsole then shown else []
    file :=
      if settings.output.toFile && isInRelativeDirectory settings.filePath then some shown else none
    hasGuard := settings.output.toFile }

end WorkspaceVolumes
