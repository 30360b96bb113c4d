import WorkspaceVolumes.Proofs.Provider

/-!
# Other workspaces make no difference

A directory may list more than it is asked for, and a store knows many workspaces.  What
becomes of a workspace must not depend on either: nothing in the directory but the claims
that carry its own label, and nothing in the store but the one answer about its storage.

**Two clusters.**  The statement compares two clusters that look the same to a workspace
and may differ in everything else, also in what kind of directory and store they have.
Reconciling the workspace is then one and the same run in both: not only the outcome and
the document agree, but also every random number that is taken and every event that is
reported.

## Main definitions

* `ownClaims`: the part of a listing that belongs to the workspace.
* `Cluster.SameFor`: clusters that look the same to a workspace.

## Main statements

* `DurableStrategy.provision_eq_ownClaims`: a durable strategy sees that part alone.
* `reconcile_noninterference`: reconciling in two clusters that look the same.
-/

namespace WorkspaceVolumes

/-! ## What a workspace sees -/

/-- The claims that a directory lists for a workspace, as far as they carry its label, in
the order of the listing. -/
def ownClaims {δ : Type} [ClaimDirectory δ] (directory : δ) (workspaceId : String) :
    Except VolumeError (List Claim) :=
  (ClaimDirectory.listByLabel directory workspaceIdLabel workspaceId).map fun listed =>
    listed.filter (·.label? workspaceIdLabel = some workspaceId)

section

variable {δ δ' ω ω' : Type} [ClaimDirectory δ] [ClaimDirectory δ'] [WorkspaceStore ω]
  [WorkspaceStore ω']

/-- Two clusters look the same to a workspace: the directories fail in the same way or
list the same claims of the workspace in the same order, and the stores give the same
answer to whether it asks for durable storage. -/
structure Cluster.SameFor (workspaceId : String) (first : Cluster δ ω)
    (second : Cluster δ' ω') : Prop where
  claims : ownClaims first.directory workspaceId = ownClaims second.directory workspaceId
  answer : WorkspaceStore.getAttribute first.store workspaceId mountSourcesAttribute =
    WorkspaceStore.getAttribute second.store workspaceId mountSourcesAttribute

/-- A result can be changed before it is passed on, or by what it is passed on to. -/
theorem Run.ofExcept_map_bind {σ α β γ : Type} (result : Except VolumeError α) (change : α → β)
    (next : β → Run σ γ) :
    Run.ofExcept (result.map change) >>= next =
      Run.ofExcept result >>= fun value => next (change value) := by
  cases result <;> rfl

/-- A durable strategy binds volumes by the claims of the workspace alone. -/
theorem DurableStrategy.provision_eq_ownClaims (directory : δ) (strategy : DurableStrategy)
    (identity : Identity) :
    strategy.provision directory identity =
      Run.ofExcept (ownClaims directory identity.workspaceId) >>= fun own =>
        bindAll identity.workspaceId
          (strategy.choose identity.workspaceId (claimsByVolume own)) PodVolume.claim := by
  rw [provision, ownClaims, Run.ofExcept_map_bind]
  rfl

/-! ## Routing -/

section

variable {σ : Type} {first : ω} {second : ω'} {workspaceId : String}
  (answer : WorkspaceStore.getAttribute first workspaceId mountSourcesAttribute =
    WorkspaceStore.getAttribute second workspaceId mountSourcesAttribute)

include answer

/-- Routing depends on one answer of the store. -/
theorem isEphemeral_congr :
    (isEphemeral first workspaceId : Run σ Bool) = isEphemeral second workspaceId := by
  rw [isEphemeral, isEphemeral, answer]

theorem effectiveStrategy_congr (strategy : Strategy) :
    (effectiveStrategy first strategy workspaceId : Run σ Strategy) =
      effectiveStrategy second strategy workspaceId := by
  cases strategy with
  | none | emptyDir strategy | durable strategy => rfl
  | override persistent transient =>
    rw [effectiveStrategy, effectiveStrategy, Strategy.resolve, Strategy.resolve,
      isEphemeral_congr answer]

theorem Strategy.prepare_congr (strategy : Strategy) :
    strategy.prepare first workspaceId = strategy.prepare second workspaceId := by
  induction strategy with
  | none | emptyDir strategy | durable strategy => rfl
  | override persistent transient ih =>
    rw [Strategy.prepare, Strategy.prepare, isEphemeral_congr answer, ih]

end

/-! ## Reconciling -/

variable {first : Cluster δ ω} {second : Cluster δ' ω'} {identity : Identity}

/-- Binding is the same run in clusters that look the same. -/
theorem Strategy.provision_congr (same : first.SameFor identity.workspaceId second)
    (strategy : Strategy) :
    strategy.provision first identity = strategy.provision second identity := by
  induction strategy with
  | none | emptyDir strategy => rfl
  | durable strategy =>
    rw [Strategy.provision, Strategy.provision, DurableStrategy.provision_eq_ownClaims,
      DurableStrategy.provision_eq_ownClaims, same.claims]
  | override persistent transient ih =>
    rw [Strategy.provision, Strategy.provision, isEphemeral_congr same.answer, ih]

/-- Reconciling is the same run in clusters that look the same. -/
theorem reconcile_congr (same : first.SameFor identity.workspaceId second)
    (strategy : Strategy) :
    reconcile first strategy identity = reconcile second strategy identity := by
  have prepares (effective : Strategy) := effective.prepare_congr same.answer
  have provisions (effective : Strategy) := effective.provision_congr same
  simp only [reconcile, effectiveStrategy_congr same.answer, prepares, provisions]

/-- **Other workspaces make no difference.**  Reconciling a workspace in two clusters that
look the same to it ends in the same way: with the same report or error, the same document,
as many random numbers taken, and the same events reported.  The directories may differ in
what they list of other workspaces, and the stores in all other answers. -/
theorem reconcile_noninterference (first : Cluster δ ω) (second : Cluster δ' ω')
    (strategy : Strategy) (identity : Identity) (plan : Plan)
    (same : first.SameFor identity.workspaceId second) :
    (reconcile first strategy identity).start plan =
      (reconcile second strategy identity).start plan := by
  rw [reconcile_congr same]

end

/-- A directory that lists all its claims, whatever it is asked for, and deletes none. -/
structure OpenDirectory where
  claims : List Claim

instance : ClaimDirectory OpenDirectory where
  listByLabel directory _ _ := .ok directory.claims
  deleteByLabel directory _ _ := (.ok [], directory)

/-- The directory of the second cluster also lists a claim of another workspace for the
volume, and lists it last; the claim of the workspace is mounted all the same. -/
theorem reconcile_noninterference_open :
    let own := DurableStrategy.standard.newClaim "ws" "data" "own"
    let foreign := DurableStrategy.standard.newClaim "other" "data" "foreign"
    let store := ({} : WorkspaceTable).setAttribute "ws" mountSourcesAttribute "true"
    let first : Cluster ClaimTable WorkspaceTable := ⟨.ofClaims [own], store⟩
    let second : Cluster OpenDirectory WorkspaceTable :=
      ⟨⟨[own, foreign]⟩, store.setAttribute "other" mountSourcesAttribute "true"⟩
    let strategy := Strategy.override (.durable .standard) ⟨"scratch"⟩
    let identity : Identity := { workspaceId := "ws" }
    let ending := (reconcile second strategy identity).start ⟨.single, .cycling #[0]⟩
    (reconcile first strategy identity).start ⟨.single, .cycling #[0]⟩ = ending ∧
      (gained .single ending.subject.document "web" 0).map (·.name) = ["own"] := by
  intro own foreign store first second strategy identity ending
  have same : first.SameFor "ws" second := ⟨by decide, by decide⟩
  exact ⟨reconcile_noninterference first second strategy identity _ same, by decide⟩

end WorkspaceVolumes
