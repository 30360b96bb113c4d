import WorkspaceVolumes.Run

/-!
# What a run does to its subject

A run reports what it does, but nothing that it reports decides what it does next.  So a
run has an *action*: a function from the subject that it finds to its result and the
subject that it leaves.  This module says what the actions of the building blocks are;
every later statement about an operation of the engine goes through the action of that
operation and never opens the run again.

## Main definitions

* `Run.ActsAs`: a run does what a function says, whatever has been reported before.
* `Run.sequence`: one action after another, the second only where the first has succeeded.
* `Run.SameEffect`: runs that differ at most in what they report.

## Main statements

* `Run.ActsAs.bind`, `Run.ActsAs.within`: the actions of composite runs.
* `Run.ActsAs.start_eq`: the outcome and the subject of a whole run.
-/

namespace WorkspaceVolumes

namespace Run

variable {σ α β : Type}

/-- A run turns every subject into the result and the subject that a function gives for
it, whatever has been reported before. -/
def ActsAs (run : Run σ α) (action : σ → Except VolumeError α × σ) : Prop :=
  ∀ state : RunState σ, ((run.on state).1, (run.on state).2.subject) = action state.subject

/-- One action after another.  The second starts on what the first has left, and not at
all where the first has failed. -/
def sequence (first : σ → Except VolumeError α × σ)
    (second : α → σ → Except VolumeError β × σ) :
    σ → Except VolumeError β × σ := fun subject =>
  match first subject with
  | (.ok value, left) => second value left
  | (.error fault, left) => (.error fault, left)

theorem sequence_of_ok {first : σ → Except VolumeError α × σ}
    {second : α → σ → Except VolumeError β × σ} {subject left : σ} {value : α}
    (succeeds : first subject = (.ok value, left)) :
    sequence first second subject = second value left := by
  simp only [sequence, succeeds]

theorem sequence_of_error {first : σ → Except VolumeError α × σ}
    {second : α → σ → Except VolumeError β × σ} {subject left : σ} {fault : VolumeError}
    (fails : first subject = (.error fault, left)) :
    sequence first second subject = (.error fault, left) := by
  simp only [sequence, fails]

theorem ActsAs.of_eq {run : Run σ α} {action other : σ → Except VolumeError α × σ}
    (acts : run.ActsAs action) (same : ∀ subject, action subject = other subject) :
    run.ActsAs other := fun state => (acts state).trans (same state.subject)

/-! ### Building blocks -/

theorem actsAs_pure (value : α) :
    (pure value : Run σ α).ActsAs fun subject => (.ok value, subject) :=
  fun _ => rfl

/-- Reporting changes nothing. -/
theorem actsAs_report (steps : Trace) :
    (report steps : Run σ Unit).ActsAs fun subject => (.ok (), subject) := fun _ => rfl

theorem actsAs_subject :
    (subject : Run σ σ).ActsAs fun found => (.ok found, found) := fun _ => rfl

theorem actsAs_ofExcept (result : Except VolumeError α) :
    (ofExcept result : Run σ α).ActsAs fun subject => (result, subject) := by
  intro state
  rw [on_ofExcept]

/-! ### Composition -/

/-- The action of two runs in a row is the sequence of their actions. -/
theorem ActsAs.bind {first : Run σ α} {second : α → Run σ β}
    {firstAction : σ → Except VolumeError α × σ}
    {secondAction : α → σ → Except VolumeError β × σ}
    (acts : first.ActsAs firstAction)
    (follows : ∀ value, (second value).ActsAs (secondAction value)) :
    (first >>= second).ActsAs (sequence firstAction secondAction) := by
  intro state
  have here := acts state
  rw [on_bind]
  cases result : first.on state with
  | mk outcome left =>
    rw [result] at here
    cases outcome with
    | ok value =>
      rw [sequence_of_ok here.symm]
      exact follows value left
    | error fault => rw [sequence_of_error here.symm]

/-- A span changes nothing about what happens within it. -/
theorem ActsAs.within {run : Run σ α} {action : σ → Except VolumeError α × σ}
    (acts : run.ActsAs action)
    (level : Level) (name : String) (fields : List (String × FieldValue)) :
    (Run.within level name fields run).ActsAs action := by
  intro state
  rw [on_within]
  exact acts { state with trace := state.trace ++ [.openSpan level name fields] }

/-- What a whole run comes to, and what it leaves, is read off its action. -/
theorem ActsAs.start_eq {run : Run σ α} {action : σ → Except VolumeError α × σ}
    (acts : run.ActsAs action) (subject : σ) :
    ((run.start subject).outcome, (run.start subject).subject) = action subject :=
  acts { subject }

theorem ActsAs.outcome_start {run : Run σ α} {action : σ → Except VolumeError α × σ}
    (acts : run.ActsAs action) (subject : σ) :
    (run.start subject).outcome = (action subject).1 :=
  congrArg Prod.fst (acts.start_eq subject)

theorem ActsAs.subject_start {run : Run σ α} {action : σ → Except VolumeError α × σ}
    (acts : run.ActsAs action) (subject : σ) :
    (run.start subject).subject = (action subject).2 :=
  congrArg Prod.snd (acts.start_eq subject)

/-- Two runs come to the same result on every subject, and leave it the same.  They may
report different things. -/
def SameEffect (first second : Run σ α) : Prop :=
  ∀ subject, (first.start subject).outcome = (second.start subject).outcome ∧
    (first.start subject).subject = (second.start subject).subject

/-- Runs with one action have the same effect. -/
theorem ActsAs.sameEffect {first second : Run σ α} {action : σ → Except VolumeError α × σ}
    (acts : first.ActsAs action) (actsToo : second.ActsAs action) :
    SameEffect first second := by
  intro subject
  rw [acts.outcome_start, acts.subject_start, actsToo.outcome_start, actsToo.subject_start]
  exact ⟨rfl, rfl⟩

end Run

end WorkspaceVolumes
