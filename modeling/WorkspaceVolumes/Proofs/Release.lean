import WorkspaceVolumes.Proofs.Directory

/-!
# What a release deletes

A release of a workspace deletes the claims that carry its label, all of them and nothing
else, and it does so only if the workspace is served durably and the directory answers.
In every other case, be it a success or a failure, the directory stays as it is.

**One description.**  A release is therefore one of two functions of the directory:
`ClaimTable.without`, or nothing at all.  Which of the two it is depends on who serves the
workspace and on whether the directory answers, and neither is changed by a release.  So
releases can be repeated and exchanged as selections can.

## Main definitions

* `ClaimTable.without`: a directory without the claims of a workspace.
* `releaseOutcome`, `deletes`: when a release succeeds, and when it deletes.
* `afterRelease`: the directory after a release.

## Main statements

* `outcome_release`, `afterRelease_eq`: what a release comes to, and what it leaves.
* `afterRelease_self`, `afterRelease_comm`: releases that are repeated, and exchanged.
* `release_scoped`: what a release deletes, that it needs no repeating, and that the order
  of releases does not matter.
-/

namespace WorkspaceVolumes

namespace ClaimTable

/-- A directory without the claims of a workspace. -/
def without (table : ClaimTable) (workspaceId : String) : ClaimTable :=
  { table with claims := table.claims.filter fun _ claim =>
      claim.label? workspaceIdLabel ≠ some workspaceId }

variable (table : ClaimTable) (workspaceId other : String)

/-- What is left are the claims without the label of the workspace, each as it was. -/
theorem get?_claims_without {key : String} {claim : Claim} :
    (table.without workspaceId).claims.get? key = some claim ↔
      table.claims.get? key = some claim ∧
        claim.label? workspaceIdLabel ≠ some workspaceId := by
  rw [without, StringMap.get?_filter, Option.filter_eq_some_iff, decide_eq_true_iff]

theorem keyed_without {table : ClaimTable} (keyed : Keyed table.claims) (workspaceId : String) :
    Keyed (table.without workspaceId).claims :=
  fun key claim found => keyed key claim ((table.get?_claims_without workspaceId).1 found).1

theorem without_without_self :
    (table.without workspaceId).without workspaceId = table.without workspaceId := by
  simp only [without, StringMap.filter_filter, Bool.and_self]

theorem without_comm :
    (table.without workspaceId).without other = (table.without other).without workspaceId := by
  simp only [without, StringMap.filter_filter, Bool.and_comm]

theorem labelled_without :
    (table.without workspaceId).labelled workspaceIdLabel other =
      if other = workspaceId then [] else table.labelled workspaceIdLabel other := by
  rw [labelled, labelled, without, StringMap.values_filter, List.filter_filter]
  split
  case isTrue same =>
    refine List.filter_eq_nil_iff.2 fun claim _ => ?_
    simp [same]
  case isFalse different =>
    refine List.filter_congr fun claim _ => ?_
    -- A claim with the label of the other workspace has not the label of this one.
    by_cases label : claim.label? workspaceIdLabel = some other <;> simp [label, different]

/-- Nothing is listed for the workspace any more, and for every other one what was listed. -/
theorem list_without {table : ClaimTable} (answers : table.available = true) :
    (table.without workspaceId).list workspaceIdLabel other =
      if other = workspaceId then .ok [] else table.list workspaceIdLabel other := by
  rw [list, list, labelled_without, if_pos answers, show (table.without _).available = true from
    answers, if_pos rfl]
  split <;> rfl

end ClaimTable

/-! ## One release -/

/-- What a release comes to, by who serves the workspace and by whether the directory
answers. -/
def releaseOutcome (answer : Except VolumeError Provider) (available : Bool) :
    Except VolumeError Unit :=
  match answer with
  | .error fault => .error fault
  | .ok (.durable _) => if available then .ok () else .error .directoryUnavailable
  | .ok _ => .ok ()

/-- Whether a release deletes: the workspace is served durably, and the directory
answers. -/
def deletes (answer : Except VolumeError Provider) (available : Bool) : Bool :=
  match answer with
  | .ok (.durable _) => available
  | _ => false

/-- A release that succeeds for a workspace that is served durably deletes. -/
theorem deletes_of_ok {answer : Except VolumeError Provider} {available : Bool}
    {durable : DurableStrategy} (serves : answer = .ok (.durable durable))
    (succeeds : releaseOutcome answer available = .ok ()) : deletes answer available = true := by
  subst serves
  rw [releaseOutcome] at succeeds
  split at succeeds
  case isTrue answers => exact answers
  case isFalse => cases succeeds

/-- A release that fails does not delete. -/
theorem not_deletes_of_error {answer : Except VolumeError Provider} {available : Bool}
    {fault : VolumeError} (fails : releaseOutcome answer available = .error fault) :
    deletes answer available = false := by
  cases answer with
  | error fault => rfl
  | ok provider =>
    cases provider with
    | none | emptyDir transient => rfl
    | durable durable =>
      cases available with
      | false => rfl
      | true => cases fails

/-- A release deletes only for a workspace that is served durably. -/
theorem exists_durable_of_deletes {answer : Except VolumeError Provider} {available : Bool}
    (deleting : deletes answer available = true) : ∃ durable, answer = .ok (.durable durable) := by
  cases answer with
  | error fault => cases deleting
  | ok provider =>
    cases provider with
    | none | emptyDir transient => cases deleting
    | durable durable => exact ⟨durable, rfl⟩

section

variable {ω : Type} [WorkspaceStore ω]

/-- The directory after a release. -/
def afterRelease (store : ω) (strategy : Strategy) (workspaceId : String)
    (table : ClaimTable) : ClaimTable :=
  ((release store strategy workspaceId).start table).subject

theorem outcome_release (store : ω) (strategy : Strategy) (workspaceId : String)
    (table : ClaimTable) :
    ((release store strategy workspaceId).start table).outcome =
      releaseOutcome (strategy.served store workspaceId) table.available := by
  rw [(release_actsAs store strategy workspaceId).outcome_start]
  cases strategy.served store workspaceId with
  | error fault => rfl
  | ok provider =>
    cases provider with
    | none | emptyDir transient => rfl
    | durable durable =>
      show ((table.delete workspaceIdLabel workspaceId).1.map fun _ => ()) = _
      rw [ClaimTable.delete, releaseOutcome]
      cases table.available <;> rfl

variable {table : ClaimTable}

/-- A release leaves the claims of the other workspaces if it deletes, and otherwise the
directory as it is. -/
theorem afterRelease_eq (keyed : Keyed table.claims) (store : ω) (strategy : Strategy)
    (workspaceId : String) :
    afterRelease store strategy workspaceId table =
      if deletes (strategy.served store workspaceId) table.available
      then table.without workspaceId else table := by
  rw [afterRelease, (release_actsAs store strategy workspaceId).subject_start]
  cases strategy.served store workspaceId with
  | error fault => rfl
  | ok provider =>
    cases provider with
    | none | emptyDir transient => rfl
    | durable durable =>
      show (table.delete workspaceIdLabel workspaceId).2 = _
      cases answers : table.available with
      | false =>
        rw [ClaimTable.delete, if_neg (by simp [answers])]
        rfl
      | true =>
        rw [ClaimTable.delete_of_keyed keyed answers]
        rfl

/-! ## Several releases -/

/-- Whether a directory answers is not changed by a release, and its claims stay under their
names. -/
theorem sound_afterRelease (keyed : Keyed table.claims) (store : ω) (strategy : Strategy)
    (workspaceId : String) :
    (afterRelease store strategy workspaceId table).available = table.available ∧
      Keyed (afterRelease store strategy workspaceId table).claims := by
  rw [afterRelease_eq keyed]
  split
  · exact ⟨rfl, ClaimTable.keyed_without keyed workspaceId⟩
  · exact ⟨rfl, keyed⟩

/-- After a workspace has been released there is nothing left of it to delete. -/
theorem afterRelease_without (keyed : Keyed table.claims) (store : ω) (strategy : Strategy)
    (workspaceId : String) :
    afterRelease store strategy workspaceId (table.without workspaceId) =
      table.without workspaceId := by
  rw [afterRelease_eq (ClaimTable.keyed_without keyed workspaceId),
    ClaimTable.without_without_self, ite_self]

/-- Releasing a workspace once more changes nothing. -/
theorem afterRelease_self (keyed : Keyed table.claims) (store : ω) (strategy : Strategy)
    (workspaceId : String) :
    afterRelease store strategy workspaceId (afterRelease store strategy workspaceId table) =
      afterRelease store strategy workspaceId table := by
  rw [afterRelease_eq keyed]
  split
  case isTrue => exact afterRelease_without keyed store strategy workspaceId
  case isFalse spares => rw [afterRelease_eq keyed, if_neg spares]

/-- Releases of any workspaces, by any strategies, can be exchanged. -/
theorem afterRelease_comm (keyed : Keyed table.claims) (store otherStore : ω)
    (strategy otherStrategy : Strategy) (workspaceId other : String) :
    afterRelease otherStore otherStrategy other
        (afterRelease store strategy workspaceId table) =
      afterRelease store strategy workspaceId
        (afterRelease otherStore otherStrategy other table) := by
  have ⟨available, keyedAfter⟩ := sound_afterRelease keyed store strategy workspaceId
  have ⟨otherAvailable, keyedOther⟩ := sound_afterRelease keyed otherStore otherStrategy other
  rw [afterRelease_eq keyedAfter, afterRelease_eq keyedOther, available, otherAvailable,
    afterRelease_eq keyed, afterRelease_eq keyed]
  -- Which of the two delete is settled by now; where both do, the selections are exchanged.
  cases deletes (strategy.served store workspaceId) table.available <;>
    cases deletes (otherStrategy.served otherStore other) table.available <;>
      simp [ClaimTable.without_comm]

/-- **A release deletes the claims of its workspace and nothing else.**  Take a directory in
memory, however it has come about.

If a release succeeds and the workspace is served durably, what is left are exactly the
claims that do not carry its label, each as it was: nothing is listed for the workspace any
more, the same claims are listed in the same order for every other workspace, and no further
release of the workspace, by whomever, changes anything.  If a release succeeds and the
workspace is served otherwise, or if it fails, the directory is as before.

Releasing a workspace once more ends in the same way and changes nothing; and of two
releases, by any strategies and for any workspaces, it does not matter which comes first,
neither for what is left nor for whether they succeed. -/
theorem release_scoped (table : ClaimTable) (reached : table.Reached) (store : ω)
    (strategy : Strategy) (workspaceId : String) :
    let released := (release store strategy workspaceId).start table
    let left := released.subject
    let again := (release store strategy workspaceId).start left
    (∀ durable, strategy.served store workspaceId = .ok (.durable durable) →
      released.outcome = .ok () →
        (∀ key claim, left.claims.get? key = some claim ↔
          table.claims.get? key = some claim ∧
            claim.label? workspaceIdLabel ≠ some workspaceId) ∧
        left.list workspaceIdLabel workspaceId = .ok [] ∧
        (∀ other, other ≠ workspaceId →
          left.list workspaceIdLabel other = table.list workspaceIdLabel other) ∧
        ∀ (anyStore : ω) anyStrategy,
          ((release anyStore anyStrategy workspaceId).start left).subject = left) ∧
    ((∀ durable, strategy.served store workspaceId ≠ .ok (.durable durable)) → left = table) ∧
    (∀ fault, released.outcome = .error fault → left = table) ∧
    (again.outcome = released.outcome ∧ again.subject = left) ∧
    ∀ (otherStore : ω) otherStrategy other,
      let first := (release otherStore otherStrategy other).start table
      let second := (release otherStore otherStrategy other).start left
      second.outcome = first.outcome ∧
        second.subject = ((release store strategy workspaceId).start first.subject).subject := by
  intro released left again
  have keyed := reached.keyed
  have after : left = _ := afterRelease_eq keyed store strategy workspaceId
  have outcome : released.outcome = _ := outcome_release store strategy workspaceId table
  have available : left.available = table.available :=
    (sound_afterRelease keyed store strategy workspaceId).1
  refine ⟨?_, ?_, ?_, ⟨?_, ?_⟩, ?_⟩
  · intro durable serves succeeds
    rw [outcome] at succeeds
    have deleting := deletes_of_ok serves succeeds
    have answers : table.available = true := by
      rw [serves] at deleting
      exact deleting
    rw [if_pos deleting] at after
    rw [after]
    refine ⟨fun key claim => table.get?_claims_without workspaceId, ?_,
      fun other different => ?_, fun anyStore anyStrategy => ?_⟩
    · rw [ClaimTable.list_without _ _ answers, if_pos rfl]
    · rw [ClaimTable.list_without _ _ answers, if_neg different]
    · exact afterRelease_without keyed anyStore anyStrategy workspaceId
  · intro otherwise
    rw [after, if_neg]
    intro deleting
    obtain ⟨durable, serves⟩ := exists_durable_of_deletes deleting
    exact otherwise durable serves
  · intro fault fails
    rw [outcome] at fails
    rw [after, not_deletes_of_error fails, if_neg Bool.false_ne_true]
  · rw [outcome_release, available]
    exact outcome.symm
  · exact afterRelease_self keyed store strategy workspaceId
  · intro otherStore otherStrategy other first second
    refine ⟨?_, afterRelease_comm keyed store otherStore strategy otherStrategy workspaceId other⟩
    show ((release otherStore otherStrategy other).start left).outcome =
      ((release otherStore otherStrategy other).start table).outcome
    rw [outcome_release, outcome_release, available]

end

/-- A claim of the workspace that another one has taken over, under the same name, is not
deleted, nor is one without labels. -/
theorem release_scoped_relabelled :
    let table := (((({} : ClaimTable).insert
      (DurableStrategy.standard.newClaim "ws" "data" "a")).insert
      (DurableStrategy.standard.newClaim "ws" "logs" "b")).insert
      (DurableStrategy.standard.newClaim "other" "data" "a")).insert
      (Claim.named "c" .readWriteOnce "1Gi")
    let store := ({} : WorkspaceTable).setAttribute "ws" mountSourcesAttribute "true"
    let strategy := Strategy.override (.durable .standard) ⟨"scratch"⟩
    let left := ((release store strategy "ws").start table).subject
    left.names = ["a", "c"] ∧ left.list workspaceIdLabel "ws" = .ok [] ∧
      left.list workspaceIdLabel "other" = table.list workspaceIdLabel "other" ∧
      ((release store strategy "ws").start left).subject = left ∧
      ((release store (.durable .standard) "other").start left).subject =
        ((release store strategy "ws").start
          ((release store (.durable .standard) "other").start table).subject).subject := by
  intro table store strategy left
  have reached : table.Reached := .insert (.insert (.insert (.insert .new _) _) _) _
  obtain ⟨deleting, -, -, ⟨-, again⟩, exchanged⟩ :=
    release_scoped table reached store strategy "ws"
  obtain ⟨-, nothing, others, -⟩ := deleting .standard rfl rfl
  exact ⟨by decide, nothing, others "other" (by decide), again,
    (exchanged store (.durable .standard) "other").2⟩

end WorkspaceVolumes
