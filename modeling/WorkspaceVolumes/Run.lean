import WorkspaceVolumes.Error
import WorkspaceVolumes.Log.Trace

/-!
# Runs

An operation of the engine changes something, reports what it does and may fail.  A run is
that: a function of the subject that it changes, which hands back the subject as it is
afterwards, the report, and a result or an error.  A run that fails keeps the changes and
the report up to that point.

## Main definitions

* `Run`, `RunState`: runs and what they thread.
* `Run.note`, `Run.within`: reporting an event, and a run within a span.
* `Run.onPart`: a run on a part of a subject.
-/

namespace WorkspaceVolumes

/-- What a run threads: its subject, and what has happened so far. -/
structure RunState (σ : Type) where
  subject : σ
  trace : Trace := []

/-- An operation on a subject that reports what it does and may fail. -/
abbrev Run (σ α : Type) := ExceptT VolumeError (StateM (RunState σ)) α

namespace Run

variable {σ α : Type}

/-- What is left of a subject by a run. -/
structure Ending (σ α : Type) where
  outcome : Except VolumeError α
  subject : σ
  trace : Trace

/-- What a run makes of a state: its result, and the state afterwards. -/
def on (run : Run σ α) (state : RunState σ) : Except VolumeError α × RunState σ := run.run.run state

/-- Runs an operation on a subject. -/
def start (run : Run σ α) (subject : σ) : Ending σ α :=
  let (outcome, state) := run.on { subject }
  ⟨outcome, state.subject, state.trace⟩

/-- Reports something. -/
def report (steps : Trace) : Run σ Unit :=
  modify fun state => { state with trace := state.trace ++ steps }

/-- Reports an event. -/
def note (level : Level) (message : String) : Run σ Unit := report [.event level message]

/-- The subject. -/
def subject : Run σ σ := return (← get).subject

/-- Replaces the subject. -/
def setSubject (subject : σ) : Run σ Unit := modify fun state => { state with subject }

/-- Passes on the result of something that changes nothing. -/
def ofExcept (result : Except VolumeError α) : Run σ α := liftM result

/-- A run within a span, which is closed also when the run fails. -/
def within (level : Level) (name : String) (fields : List (String × FieldValue)) (run : Run σ α) :
    Run σ α := fun state =>
  let entered := { state with trace := state.trace ++ [.openSpan level name fields] }
  let (outcome, left) := run.on entered
  (outcome, { left with trace := left.trace ++ [.closeSpan] })

/-- Passes on a result together with what finding it has reported. -/
def ofReported (reported : Except VolumeError α × Trace) : Run σ α := do
  report reported.2
  ofExcept reported.1

/-- A run on a part of a subject. -/
def onPart {τ : Type} (part : σ → τ) (replace : τ → σ → σ) (run : Run τ α) : Run σ α := fun state =>
  let (outcome, left) := run.on ⟨part state.subject, state.trace⟩
  (outcome, ⟨replace left.subject state.subject, left.trace⟩)

/-! ### What the operations make of a state -/

section
variable {β τ : Type} (state : RunState σ)

@[simp] theorem on_pure (value : α) : (pure value : Run σ α).on state = (.ok value, state) := rfl

@[simp] theorem on_throw (fault : VolumeError) :
    (throw fault : Run σ α).on state = (.error fault, state) := rfl

/-- The second run starts where the first has succeeded, and not at all where it has
failed. -/
theorem on_bind (first : Run σ α) (second : α → Run σ β) :
    (first >>= second).on state =
      match first.on state with
      | (.ok value, left) => (second value).on left
      | (.error fault, left) => (.error fault, left) := by
  simp only [on, bind, ExceptT.run, ExceptT.bind, ExceptT.mk, StateT.run, StateT.bind]
  cases h : first state with
  | mk outcome left => cases outcome <;> rfl

@[simp] theorem on_report (steps : Trace) :
    (report steps : Run σ Unit).on state =
      (.ok (), { state with trace := state.trace ++ steps }) := rfl

@[simp] theorem on_note (level : Level) (message : String) :
    (note level message : Run σ Unit).on state =
      (.ok (), { state with trace := state.trace ++ [.event level message] }) := rfl

@[simp] theorem on_subject : (subject : Run σ σ).on state = (.ok state.subject, state) := rfl

@[simp] theorem on_setSubject (new : σ) :
    (setSubject new).on state = (.ok (), { state with subject := new }) := rfl

@[simp] theorem on_ofExcept (result : Except VolumeError α) :
    (ofExcept result : Run σ α).on state = (result, state) := by
  cases result <;> rfl

@[simp] theorem on_ofReported (reported : Except VolumeError α × Trace) :
    (ofReported reported : Run σ α).on state =
      (reported.1, { state with trace := state.trace ++ reported.2 }) := by
  simp [ofReported, on_bind]

/-- A span closes after the run within it, whether that has succeeded or failed. -/
theorem on_within (level : Level) (name : String) (fields : List (String × FieldValue))
    (run : Run σ α) :
    (within level name fields run).on state =
      let (outcome, left) :=
        run.on { state with trace := state.trace ++ [.openSpan level name fields] }
      (outcome, { left with trace := left.trace ++ [.closeSpan] }) := rfl

/-- What a run leaves of a part is put back, whether it has succeeded or failed. -/
theorem on_onPart (part : σ → τ) (replace : τ → σ → σ) (run : Run τ α) :
    (onPart part replace run).on state =
      let (outcome, left) := run.on ⟨part state.subject, state.trace⟩
      (outcome, ⟨replace left.subject state.subject, left.trace⟩) := rfl

end

end Run

end WorkspaceVolumes
