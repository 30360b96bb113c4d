import WorkspaceVolumes.Proofs.Routing

/-!
# Deciding once

Reconciling and releasing ask the store once who is to serve the workspace, and hand the
workspace over; every operation of a strategy asks for itself.  The two ways agree, however
deeply overrides are nested.

**Why they might not.**  Handing over takes one override off and leaves those below it to
decide again, in each of the operations that follow; called without handing over, all of
them decide in each operation.  But the store is only read, so it answers the same question
in the same way every time, and the provider at the end of all answers is one and the same
(`Strategy.served`).  An error of the store comes before anything has been changed, and one
of the directory behind the same preparations in both ways.

**Redundant overrides.**  An override within an override asks what has been answered
already.  With transient storage of the same name stem the outer one makes no difference.

## Main definitions

* `Strategy.reconcileDirectly`: preparing and binding without handing over.

## Main statements

* `Strategy.reconcileDirectly_actsAs`: the action of that.
* `deciding_once_agrees`: the two ways, and redundant overrides.
-/

namespace WorkspaceVolumes

section

variable {δ ω : Type} [ClaimDirectory δ] [WorkspaceStore ω]

namespace Strategy

/-- Preparing a document for a workspace and binding its volumes, by a strategy that is not
resolved first. -/
def reconcileDirectly (cluster : Cluster δ ω) (identity : Identity) (strategy : Strategy) :
    Run Plan Unit := do
  strategy.prepare cluster.store identity.workspaceId
  strategy.provision cluster identity

/-- Preparing and binding are routed by the same answers, and both are done by the provider
behind them. -/
theorem reconcileDirectly_actsAs (cluster : Cluster δ ω) (identity : Identity)
    (strategy : Strategy) :
    (strategy.reconcileDirectly cluster identity).ActsAs
      (Run.given (strategy.served cluster.store identity.workspaceId) fun provider plan =>
        provider.provisioned cluster.directory identity.workspaceId
          (provider.prepared identity.workspaceId plan)) := by
  refine Run.ActsAs.of_eq ((strategy.prepare_actsAs cluster.store identity.workspaceId).bind
    fun _ => strategy.provision_actsAs cluster identity) fun plan => ?_
  cases serves : strategy.served cluster.store identity.workspaceId with
  | error fault => rfl
  | ok provider => simp only [Run.sequence, Run.given_ok]

/-- An override around an override with the same transient storage is redundant: if the
store makes the workspace transient, both lead to that storage, and if it does not, neither
does. -/
theorem served_override_override (store : ω) (workspaceId : String) (persistent : Strategy)
    (transient : EmptyDirStrategy) :
    (override (override persistent transient) transient).served store workspaceId =
      (override persistent transient).served store workspaceId := by
  rw [served, served]
  cases transience store workspaceId with
  | error fault => rfl
  | ok ephemeral => cases ephemeral <;> rfl

end Strategy

/-- **Deciding once agrees with deciding every time.**  Take any strategy, with overrides
nested in it to any depth, and any document, directory, store and random numbers.

Reconciling succeeds or fails, and with the same error, as preparing and then binding with
the strategy itself, and leaves the same document and the same random numbers, also where it
fails half-way.  Releasing comes to the same, and leaves the same directory, as cleaning up
with the strategy itself.  And an override that is put around an override, with transient
storage of the same name stem, makes no difference in any operation, in reconciling with its
report, and in releasing; nor has it another name. -/
theorem deciding_once_agrees (cluster : Cluster δ ω) (strategy : Strategy)
    (identity : Identity) :
    (∀ plan,
      let once := (reconcile cluster strategy identity).start plan
      let direct := (strategy.reconcileDirectly cluster identity).start plan
      once.outcome.map (fun _ => ()) = direct.outcome ∧ once.subject = direct.subject) ∧
    (∀ directory : δ,
      let once := (release cluster.store strategy identity.workspaceId).start directory
      let direct := (strategy.cleanup cluster.store identity.workspaceId).start directory
      once.outcome = direct.outcome ∧ once.subject = direct.subject) ∧
    ∀ (persistent : Strategy) (stem : String),
      let inner := Strategy.override persistent ⟨stem⟩
      let outer := Strategy.override inner ⟨stem⟩
      ServesAs cluster.store identity outer inner ∧ outer.name = inner.name := by
  refine ⟨fun plan => ?_, fun directory => ?_, fun persistent stem => ⟨?_, rfl⟩⟩
  · intro once direct
    have reconciles := reconcile_actsAs cluster strategy identity
    have directly := strategy.reconcileDirectly_actsAs cluster identity
    rw [reconciles.outcome_start, reconciles.subject_start, directly.outcome_start,
      directly.subject_start]
    cases strategy.served cluster.store identity.workspaceId with
    | error fault => exact ⟨rfl, rfl⟩
    | ok provider =>
      -- Where binding fails the document has been prepared, and it is kept so in both ways.
      rw [Run.given_ok, Run.given_ok, Provider.reconciled]
      generalize provider.provisioned cluster.directory identity.workspaceId
        (provider.prepared identity.workspaceId plan) = ending
      obtain ⟨outcome, later⟩ := ending
      cases outcome <;> exact ⟨rfl, rfl⟩
  · have releases := release_actsAs (δ := δ) cluster.store strategy identity.workspaceId
    exact releases.sameEffect
      (strategy.cleanup_actsAs cluster.store identity.workspaceId) directory
  · exact servesAs_of_served_eq
      (Strategy.served_override_override cluster.store identity.workspaceId persistent ⟨stem⟩)

end

end WorkspaceVolumes
