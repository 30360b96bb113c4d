import WorkspaceVolumes.Proofs.Provider

/-!
# What a failed reconciliation leaves behind

Reconciling prepares before it binds, and nothing is taken back.  A failure of the store
comes before both, and the directory is asked before anything is bound; but when the
directory does not answer, a durable strategy that creates sub-paths in advance has queued
them already.

**Two cases.**  Pods, machines, claims and random numbers are as before in either.  Unless the
reconciliation has prepared by the time it fails (`FailsPrepared`), the document is as before;
and if it has, exactly the sub-paths of the declared volumes are queued.

## Main definitions

* `FailsPrepared`: a reconciliation that fails behind its preparation.

## Main statements

* `Provider.reconciled_of_error`: a provider fails only where a directory does not answer.
* `reconcile_failure`: what is left in the two cases.
* `not_reconcile_failure_unchanged`: the queue does change.
-/

namespace WorkspaceVolumes

section

variable {δ ω : Type} [ClaimDirectory δ] [WorkspaceStore ω]

/-- A provider fails only if it is durable and its directory does not answer.  The plan is
left prepared. -/
theorem Provider.reconciled_of_error {directory : δ} {workspaceId : String}
    {provider : Provider} {plan : Plan} {fault : VolumeError}
    (fails : (provider.reconciled directory workspaceId plan).1 = .error fault) :
    ∃ strategy, provider = .durable strategy ∧
      ClaimDirectory.listByLabel directory workspaceIdLabel workspaceId = .error fault ∧
      (provider.reconciled directory workspaceId plan).2 =
        strategy.prepared workspaceId plan := by
  obtain ⟨strategy, rfl, listing, kept⟩ :=
    provisioned_of_error (reconciled_eq_error_iff_provisioned.1 fails)
  exact ⟨strategy, rfl, listing, kept⟩

/-- Whether sub-paths have been queued when a reconciliation fails: the workspace is served by
a durable strategy that creates them in advance, and the failure is that of its directory, which
does not list the claims of the workspace. -/
def FailsPrepared (cluster : Cluster δ ω) (strategy : Strategy) (workspaceId : String)
    (fault : VolumeError) : Prop :=
  ∃ durable, strategy.served cluster.store workspaceId = .ok (.durable durable) ∧
    durable.precreateSubpaths = true ∧
    ClaimDirectory.listByLabel cluster.directory workspaceIdLabel workspaceId = .error fault

/-- **A failed reconciliation changes nothing but the queue of sub-paths.**  Pods, machines and
claims are as before, and no random number has been drawn.  Unless the workspace is served by a
durable strategy that creates sub-paths in advance, whose directory has failed then, the
document is as before.  In that case the queue is what it was, together with the sub-paths of
the declared volumes. -/
theorem reconcile_failure (cluster : Cluster δ ω) (strategy : Strategy) (identity : Identity)
    (plan : Plan) (fault : VolumeError)
    (fails : ((reconcile cluster strategy identity).start plan).outcome = .error fault) :
    let workspaceId := identity.workspaceId
    let left := ((reconcile cluster strategy identity).start plan).subject
    left.draws = plan.draws ∧ left.document.pods = plan.document.pods ∧
    left.document.machines = plan.document.machines ∧
    left.document.claims = plan.document.claims ∧
    (¬ FailsPrepared cluster strategy workspaceId fault → left.document = plan.document) ∧
    (FailsPrepared cluster strategy workspaceId fault →
      ∀ path, path ∈ left.document.subpaths.toList ↔ path ∈ plan.document.subpaths.toList ∨
        ∃ declaration ∈ plan.document.declarations,
          declaration.subPath workspaceId = path) := by
  intro workspaceId left
  have acts := reconcile_actsAs cluster strategy identity
  have after : left = _ := acts.subject_start plan
  rw [acts.outcome_start] at fails
  cases serves : strategy.served cluster.store workspaceId with
  | error refusal =>
    rw [after, serves, Run.given_error]
    refine ⟨rfl, rfl, rfl, rfl, fun _ => rfl, ?_⟩
    rintro ⟨durable, served, -⟩
    cases serves.symm.trans served
  | ok provider =>
    rw [serves, Run.given_ok] at fails after
    obtain ⟨durable, rfl, listing, prepared⟩ := Provider.reconciled_of_error fails
    rw [after, prepared, DurableStrategy.prepared]
    split
    case isFalse skips =>
      refine ⟨rfl, rfl, rfl, rfl, fun _ => rfl, ?_⟩
      rintro ⟨other, served, creates, -⟩
      cases serves.symm.trans served
      exact absurd creates skips
    case isTrue creates =>
      have behind : FailsPrepared cluster strategy workspaceId fault :=
        ⟨durable, serves, creates, listing⟩
      exact ⟨rfl, rfl, rfl, rfl, fun ahead => absurd behind ahead, fun _ path => mem_queueAll⟩

end

/-- A directory that does not answer: nothing is bound, but sub-paths have been queued.  And a
store that does not answer: the document is as before. -/
theorem reconcile_failure_outage :
    let cluster : Cluster ClaimTable WorkspaceTable := ⟨{ available := false }, {}⟩
    let ending := (reconcile cluster (.durable .standard) { workspaceId := "ws" }).start
      ⟨.single, .cycling #[0]⟩
    let strategy : Strategy := .override (.durable .standard) ⟨"volume"⟩
    let unrouted : Cluster ClaimTable WorkspaceTable := ⟨{}, { available := false }⟩
    let refusal := (reconcile unrouted strategy { workspaceId := "ws" }).start
      ⟨.single, .cycling #[0]⟩
    ending.outcome = .error .directoryUnavailable ∧
      ending.subject.document.pods = Document.single.pods ∧
      ending.subject.document.subpaths.toList = ["ws/data"] ∧
      (∀ path, path ∈ ending.subject.document.subpaths.toList ↔
        path ∈ Document.single.subpaths.toList ∨
          ∃ declaration ∈ Document.single.declarations, declaration.subPath "ws" = path) ∧
      refusal.outcome = .error (.workspaceLookup "ws" .storeUnavailable) ∧
      refusal.subject.document = .single := by
  intro cluster ending strategy unrouted refusal
  obtain ⟨-, pods, -, -, -, queued⟩ := reconcile_failure cluster (.durable .standard)
    { workspaceId := "ws" } ⟨.single, .cycling #[0]⟩ .directoryUnavailable rfl
  obtain ⟨-, -, -, -, unchanged, -⟩ := reconcile_failure unrouted strategy
    { workspaceId := "ws" } ⟨.single, .cycling #[0]⟩
    (.workspaceLookup "ws" .storeUnavailable) rfl
  refine ⟨rfl, pods, by decide, queued ⟨.standard, rfl, rfl, rfl⟩, rfl, unchanged ?_⟩
  -- Nothing serves the workspace, so nothing has prepared.
  rintro ⟨durable, served, -⟩
  cases served

/-- A failed reconciliation by a strategy of the registry can change the document: a
directory that does not answer is asked too late. -/
theorem not_reconcile_failure_unchanged :
    ¬ ∀ (config : VolumesConfig) (strategy : Strategy)
      (cluster : Cluster ClaimTable WorkspaceTable) (identity : Identity) (plan : Plan)
      (fault : VolumeError),
      (strategyOf config).1 = .ok strategy →
      ((reconcile cluster strategy identity).start plan).outcome = .error fault →
      ((reconcile cluster strategy identity).start plan).subject.document = plan.document := by
  intro unchanged
  have same := unchanged { ephemeralOverride := false } (.durable .standard)
    ⟨{ available := false }, {}⟩ { workspaceId := "ws" } ⟨.single, .cycling #[0]⟩
    .directoryUnavailable rfl rfl
  exact absurd same (by decide)

end WorkspaceVolumes
