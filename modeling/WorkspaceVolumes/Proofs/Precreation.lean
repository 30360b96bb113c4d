import WorkspaceVolumes.Proofs.Agenda

/-!
# What is created in advance is what is mounted

A sub-path that is mounted has to be there when the pod starts.  Durable storage can list
the sub-paths for creation beforehand; that is done by a walk of its own, which runs before
the volumes are bound and knows nothing of what will be.  This module says that the two
agree.

**Two walks, one layout.**  Where a walk stops, and with which machine and volume, is decided
by the layout of the pods and by the machines.  Binding changes neither.  So what is declared
is the same before and after (`Plan.declarations_bound`), and as the one walk writes the
sub-paths alone and the other everything else, it does not matter which is first.

**More than is mounted.**  The list goes by what is declared.  A volume whose path is bound
already is listed and gets no mount.

## Main definitions

* `Document.HasSubPath`: the sub-paths of the volumes that machines declare.

## Main statements

* `Plan.queued_bound`, `Provider.provisioned_prepared`: preparing and binding can be
  exchanged.
* `Provider.subpaths_reconciled`: what is listed after a reconciliation.
* `reconcile_lists_subpaths`: the list is exact, and every mount is on it.
-/

namespace WorkspaceVolumes

namespace Document

/-- Whether a path is the sub-path of a volume that is declared by the machine of some
container. -/
def HasSubPath (workspaceId : String) (document : Document) (path : String) : Prop :=
  ∃ key pod, document.pods.get? key = some pod ∧ ∃ container ∈ pod.containers,
    ∃ machine, document.machines.get? (pod.machineName container.name) = some machine ∧
      ∃ volumeName ∈ machine.paths.keys,
        subPath workspaceId volumeName (pod.machineName container.name) = path

variable {workspaceId : String} {document : Document}

theorem hasSubPath_iff {path : String} :
    document.HasSubPath workspaceId path ↔
      ∃ declaration ∈ document.declarations, declaration.subPath workspaceId = path := by
  constructor
  · rintro ⟨key, pod, found, container, member, machine, present, volumeName, isKey, rfl⟩
    obtain ⟨place, declares⟩ := Option.isSome_iff_exists.1 (StringMap.mem_keys_iff.1 isKey)
    exact ⟨⟨pod.machineName container.name, volumeName, place⟩,
      mem_declarations_iff.2 ⟨key, pod, found, container, member, rfl, machine, present, declares⟩,
      rfl⟩
  · rintro ⟨declaration, declared, rfl⟩
    obtain ⟨key, pod, found, container, member, named, machine, present, declares⟩ :=
      mem_declarations_iff.1 declared
    have isKey : declaration.volumeName ∈ machine.paths.keys :=
      StringMap.mem_keys_iff.2 (Option.isSome_iff_exists.2 ⟨_, declares⟩)
    rw [named] at present
    refine ⟨key, pod, found, container, member, machine, present, _, isKey, ?_⟩
    rw [Declaration.subPath, named]

/-- What is open has been declared. -/
theorem declaration_mem_declarations {site : Site} (isOpen : site ∈ document.openings) :
    site.declaration ∈ document.declarations := by
  obtain ⟨pod, found, -, first⟩ := mem_openings_iff.1 isOpen
  refine mem_declarations.2 ⟨site.pod, pod, found, ?_⟩
  exact List.mem_filterMap.2 ⟨_, List.mem_of_find?_eq_some first, rfl⟩

end Document

/-! ## Preparing and binding -/

/-- **Preparing and binding can be exchanged**, also for different workspaces. -/
theorem Plan.queued_bound (workspaceId other : String) (volumeOf : String → PodVolume)
    (choose : Chooser) (plan : Plan) :
    (plan.queued workspaceId).bound other choose volumeOf =
      (plan.bound other choose volumeOf).queued workspaceId := by
  have declared := plan.declarations_bound other volumeOf choose
  rw [queued, queued, declared]
  rfl

namespace Provider

variable {workspaceId : String} {provider : Provider} {plan : Plan}

section

variable {δ : Type} [ClaimDirectory δ] {directory : δ}

/-- It does not matter to a provider whether it prepares or binds first: binding comes to the
same, and so does what is left. -/
theorem provisioned_prepared :
    provider.provisioned directory workspaceId (provider.prepared workspaceId plan) =
      ((provider.provisioned directory workspaceId plan).1,
        provider.prepared workspaceId (provider.provisioned directory workspaceId plan).2) := by
  cases provider with
  | none | emptyDir strategy => rfl
  | durable strategy =>
    rw [provisioned, provisioned, prepared, prepared, DurableStrategy.prepared,
      DurableStrategy.prepared]
    cases ClaimDirectory.listByLabel directory workspaceIdLabel workspaceId with
    | error fault => rfl
    | ok listed =>
      cases strategy.precreateSubpaths with
      | false => rfl
      | true => exact congrArg (Prod.mk _) (Plan.queued_bound workspaceId workspaceId _ _ plan)

/-- Binding lists no sub-paths. -/
theorem subpaths_provisioned :
    (provider.provisioned directory workspaceId plan).2.document.subpaths =
      plan.document.subpaths := by
  obtain same | ⟨choose, volumeOf, same⟩ :=
    provider.provisioned_eq_self_or_bound directory workspaceId plan
  · rw [same]
  · rw [same]
    rfl

/-- What is gained when a provider binds volumes has the sub-path of one that is declared. -/
theorem exists_declaration_of_gained {key : String} {index : Nat} {mount : VolumeMount}
    (gains : mount ∈ gained plan.document
      (provider.provisioned directory workspaceId plan).2.document key index) :
    ∃ declaration ∈ plan.document.declarations,
      mount.subPath = some (declaration.subPath workspaceId) := by
  obtain same | ⟨choose, volumeOf, same⟩ :=
    provider.provisioned_eq_self_or_bound directory workspaceId plan
  · rw [same, gained_of_pods_eq rfl] at gains
    cases gains
  · rw [same] at gains
    obtain ⟨binding, bound, -, -, rfl⟩ := (Plan.mem_gained_bound workspaceId volumeOf).1 gains
    exact ⟨binding.site.declaration,
      Document.declaration_mem_declarations (Plan.site_mem_openings bound), rfl⟩

/-- Reconciling lists what preparing does. -/
theorem subpaths_reconciled :
    (provider.reconciled directory workspaceId plan).2.document.subpaths =
      (provider.prepared workspaceId plan).document.subpaths :=
  subpaths_provisioned

/-- A provider that lists no sub-paths in advance leaves the list alone. -/
theorem subpaths_reconciled_of_not_creates
    (spares : ∀ durable, provider = .durable durable → durable.precreateSubpaths = false) :
    (provider.reconciled directory workspaceId plan).2.document.subpaths =
      plan.document.subpaths := by
  rw [subpaths_reconciled]
  cases provider with
  | none | emptyDir strategy => rfl
  | durable strategy =>
    rw [prepared, DurableStrategy.prepared, spares strategy rfl, if_neg Bool.false_ne_true]

variable {strategy : DurableStrategy} (creates : strategy.precreateSubpaths = true)

include creates

/-- After a reconciliation that lists sub-paths in advance, the list has those of all volumes
that are declared. -/
theorem mem_subpaths_reconciled_iff {path : String} :
    path ∈ ((durable strategy).reconciled directory workspaceId
        plan).2.document.subpaths.toList ↔
      path ∈ plan.document.subpaths.toList ∨ plan.document.HasSubPath workspaceId path := by
  rw [subpaths_reconciled, prepared, DurableStrategy.prepared, if_pos creates,
    Document.hasSubPath_iff]
  exact mem_queueAll

/-- Whatever is mounted then has been listed. -/
theorem exists_listed_of_gained {key : String} {index : Nat} {mount : VolumeMount}
    (gains : mount ∈ gained plan.document
      ((durable strategy).reconciled directory workspaceId plan).2.document key index) :
    ∃ path ∈ ((durable strategy).reconciled directory workspaceId
      plan).2.document.subpaths.toList, mount.subPath = some path := by
  obtain ⟨subpaths, same, -⟩ := exists_prepared_eq workspaceId (.durable strategy) plan
  have pods : ((durable strategy).prepared workspaceId plan).document.pods =
      plan.document.pods := by rw [same]
  rw [← gained_congr pods] at gains
  obtain ⟨declaration, declared, place⟩ := exists_declaration_of_gained gains
  -- The binding walk starts on the prepared plan, which declares what the plan does.
  rw [prepared, strategy.declarations_prepared] at declared
  refine ⟨declaration.subPath workspaceId, ?_, place⟩
  rw [subpaths_reconciled]
  exact strategy.subPath_mem_prepared workspaceId creates declared

end

end Provider

/-! ## Strategies -/

section

variable {δ ω : Type} [ClaimDirectory δ] [WorkspaceStore ω]

/-- **Preparing and binding with a strategy can be exchanged**, whether they succeed or fail.
The same plan is left, and both come to the same. -/
theorem Strategy.provision_prepare_comm (cluster : Cluster δ ω) (strategy : Strategy)
    (identity : Identity) (plan : Plan) :
    let prepares := strategy.prepare cluster.store identity.workspaceId
    let provisions := strategy.provision cluster identity
    (provisions.start (prepares.start plan).subject).subject =
        (prepares.start (provisions.start plan).subject).subject ∧
      (provisions.start (prepares.start plan).subject).outcome =
        (provisions.start plan).outcome ∧
      (prepares.start (provisions.start plan).subject).outcome = (prepares.start plan).outcome := by
  intro prepares provisions
  have preparing : prepares.ActsAs _ :=
    strategy.prepare_actsAs cluster.store identity.workspaceId
  have provisioning : provisions.ActsAs _ := strategy.provision_actsAs cluster identity
  simp only [preparing.subject_start, provisioning.subject_start, preparing.outcome_start,
    provisioning.outcome_start]
  cases strategy.served cluster.store identity.workspaceId with
  | error fault => exact ⟨rfl, rfl, rfl⟩
  | ok provider =>
    simp only [Run.given_ok, Provider.provisioned_prepared, and_self]

/-- **What is created in advance is what is mounted.**  Suppose that a durable strategy serves
the workspace, perhaps behind overrides, and lists sub-paths for creation.  Reconciling
succeeds if the directory answers.  Afterwards the listed sub-paths are those that were listed
before and those of the volumes that the machines of the containers declare; and every mount
that was added has one of them.

Otherwise reconciling leaves the list alone.  In any case it does not matter whether a
strategy prepares before it binds, or after that. -/
theorem reconcile_lists_subpaths (cluster : Cluster δ ω) (strategy : Strategy)
    (identity : Identity) (plan : Plan) :
    let workspaceId := identity.workspaceId
    let ending := (reconcile cluster strategy identity).start plan
    let later := ending.subject.document
    let prepares := strategy.prepare cluster.store workspaceId
    let provisions := strategy.provision cluster identity
    (∀ durable, strategy.served cluster.store workspaceId = .ok (.durable durable) →
      durable.precreateSubpaths = true →
        ((∃ listed, ClaimDirectory.listByLabel cluster.directory workspaceIdLabel workspaceId =
            .ok listed) → ∃ report, ending.outcome = .ok report) ∧
        (∀ path, path ∈ later.subpaths.toList ↔
          path ∈ plan.document.subpaths.toList ∨ plan.document.HasSubPath workspaceId path) ∧
        ∀ key index, ∀ mount ∈ gained plan.document later key index,
          ∃ path ∈ later.subpaths.toList, mount.subPath = some path) ∧
    ((∀ durable, strategy.served cluster.store workspaceId = .ok (.durable durable) →
        durable.precreateSubpaths = false) →
      later.subpaths = plan.document.subpaths) ∧
    (provisions.start (prepares.start plan).subject).subject.document =
      (prepares.start (provisions.start plan).subject).subject.document := by
  intro workspaceId ending later prepares provisions
  have acts := reconcile_actsAs cluster strategy identity
  have outcome : ending.outcome = _ := acts.outcome_start plan
  have after : ending.subject = _ := acts.subject_start plan
  have exchanged := strategy.provision_prepare_comm cluster identity plan
  refine ⟨?_, ?_, congrArg Plan.document exchanged.1⟩
  · intro durable serves creates
    rw [serves, Run.given_ok] at outcome after
    simp only [later, outcome, after]
    refine ⟨?_, fun path => Provider.mem_subpaths_reconciled_iff creates,
      fun key index mount gains => Provider.exists_listed_of_gained creates gains⟩
    rintro ⟨listed, answers⟩
    rw [Provider.reconciled, Provider.provisioned, answers]
    exact ⟨_, rfl⟩
  · intro spares
    show ending.subject.document.subpaths = plan.document.subpaths
    rw [after]
    cases serves : strategy.served cluster.store workspaceId with
    | error fault => rfl
    | ok provider =>
      refine Provider.subpaths_reconciled_of_not_creates fun durable same => spares durable ?_
      rw [serves, same]

/-- Three volumes are declared and listed, of which one is bound already and one has the path
of another: one mount is added.  Binding first and preparing then comes to the same. -/
theorem reconcile_lists_subpaths_crowded :
    let store := ({} : WorkspaceTable).setAttribute "ws" mountSourcesAttribute "true"
    let cluster : Cluster ClaimTable WorkspaceTable := ⟨{}, store⟩
    let strategy := Strategy.override (.durable .standard) ⟨"scratch"⟩
    let identity : Identity := { workspaceId := "ws" }
    let plan : Plan := ⟨.crowded, .cycling #[0]⟩
    let ending := (reconcile cluster strategy identity).start plan
    let later := ending.subject.document
    (∃ report, ending.outcome = .ok report) ∧
      later.subpaths.toList = ["ws/cache", "ws/data", "ws/logs/web/app"] ∧
      Document.crowded.HasSubPath "ws" "ws/data" ∧
      (gained .crowded later "web" 0).map (·.subPath) = [some "ws/cache"] ∧
      ((strategy.provision cluster identity).start
          ((strategy.prepare cluster.store identity.workspaceId).start
            plan).subject).subject.document =
        ((strategy.prepare cluster.store identity.workspaceId).start
          ((strategy.provision cluster identity).start plan).subject).subject.document := by
  intro store cluster strategy identity plan ending later
  obtain ⟨listing, -, exchanged⟩ := reconcile_lists_subpaths cluster strategy identity plan
  obtain ⟨succeeds, exactly, -⟩ := listing .standard rfl rfl
  have listed : later.subpaths.toList = ["ws/cache", "ws/data", "ws/logs/web/app"] := by decide
  refine ⟨succeeds ⟨[], rfl⟩, listed, ?_, by decide, exchanged⟩
  have isListed : "ws/data" ∈ later.subpaths.toList := by
    rw [listed]
    decide
  exact ((exactly "ws/data").1 isListed).resolve_left (by decide)

end

end WorkspaceVolumes
