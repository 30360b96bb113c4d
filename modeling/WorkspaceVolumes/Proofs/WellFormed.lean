import WorkspaceVolumes.Proofs.Directory

/-!
# Documents stay well formed

Nothing stops a caller from putting together a document in which a container binds a path
twice, or mounts a volume that its pod does not have.  But the engine makes no such
document out of one that is in order: whatever is called, for whomever and with whatever
strategy, and whether it succeeds or fails.

**One pod.**  A binding adds a mount and a volume of the same name.  Each addition is
guarded, by the path and by the name, and after both the mount has its volume, be it the
new one or one that was there.

**Names that collide.**  Nothing here depends on the random numbers.  A name that is drawn
twice, or that the document has already, puts one claim in the place of another, but under
that name there is still a claim of that name.

## Main definitions

* `Pod.WellFormed`, `Document.WellFormed`.
* `Call`, `runCalls`: calls of the engine, each with collaborators of its own.
* `Call.Backs`: calls after which there is a claim behind all that they have added.
* `Backed`, `GainsClaims`: names behind which there is a claim, and gaining nothing but such
  names.

## Main statements

* `Pod.WellFormed.attach`: what one binding does to a pod.
* `Call.wellFormed_apply`, `Call.backs_apply`: what one call does to a document.
* `wellFormed_runCalls`: what any calls do.
-/

namespace WorkspaceVolumes

/-! ## One pod -/

/-- A pod in which no container binds a path twice, no two volumes have one name, and every
mount has its volume. -/
structure Pod.WellFormed (pod : Pod) : Prop where
  paths : ∀ container ∈ pod.containers, (container.mounts.map (·.mountPath)).Nodup
  names : (pod.volumes.map (·.name)).Nodup
  mounted : ∀ container ∈ pod.containers, ∀ mount ∈ container.mounts,
    mount.name ∈ pod.volumes.map (·.name)

/-- Keys stay distinct if an element is added whose key no element has. -/
theorem nodup_map_append_singleton {α : Type} {key : α → String} {items : List α} {item : α}
    (distinct : (items.map key).Nodup) (free : ¬ items.any (key · = key item) = true) :
    ((items ++ [item]).map key).Nodup := by
  have new : key item ∉ items.map key := by
    intro taken
    obtain ⟨other, member, same⟩ := List.mem_map.1 taken
    exact free (List.any_eq_true.2 ⟨other, member, decide_eq_true same⟩)
  rw [List.map_append, List.map_singleton, ← List.concat_eq_append]
  exact distinct.concat new

/-- Adding a mount binds no path twice. -/
theorem Container.nodup_paths_addMount {container : Container}
    (distinct : (container.mounts.map (·.mountPath)).Nodup) (mount : VolumeMount) :
    ((container.addMount mount).mounts.map (·.mountPath)).Nodup := by
  rw [mounts_addMount]
  split
  case isTrue => exact distinct
  case isFalse unbound => exact nodup_map_append_singleton distinct unbound

theorem Container.mem_mounts_addMount {container : Container} {mount other : VolumeMount}
    (member : other ∈ (container.addMount mount).mounts) :
    other ∈ container.mounts ∨ other = mount := by
  rw [mounts_addMount] at member
  split at member
  case isTrue => exact .inl member
  case isFalse => exact (List.mem_append.1 member).imp_right List.mem_singleton.1

namespace Pod

/-- A container of a pod that was given a mount is as before, or has been given it. -/
theorem exists_of_mem_containers_addMount {pod : Pod} {index : Nat} {mount : VolumeMount}
    {container : Container} (member : container ∈ (pod.addMount index mount).containers) :
    ∃ earlier ∈ pod.containers, container = earlier ∨ container = earlier.addMount mount := by
  obtain ⟨place, here⟩ := List.getElem?_of_mem member
  rw [addMount, List.getElem?_modify, Option.map_eq_map, Option.map_eq_some_iff] at here
  obtain ⟨earlier, there, rfl⟩ := here
  refine ⟨earlier, List.mem_of_getElem? there, ?_⟩
  split
  · exact .inr rfl
  · exact .inl rfl

/-- Adding a volume keeps the names of the volumes and adds its own. -/
theorem mem_names_addVolume {pod : Pod} {volume : PodVolume} {name : String} :
    name ∈ (pod.addVolume volume).volumes.map (·.name) ↔
      name ∈ pod.volumes.map (·.name) ∨ name = volume.name := by
  rw [volumes_addVolume]
  split
  case isTrue has =>
    obtain ⟨other, member, same⟩ := List.any_eq_true.1 has
    have taken : volume.name ∈ pod.volumes.map (·.name) :=
      List.mem_map.2 ⟨other, member, of_decide_eq_true same⟩
    constructor
    · exact .inl
    · rintro (before | rfl)
      · exact before
      · exact taken
  case isFalse => rw [List.map_append, List.mem_append, List.map_singleton, List.mem_singleton]

/-- Adding a volume gives no name twice. -/
theorem nodup_names_addVolume {pod : Pod} (distinct : (pod.volumes.map (·.name)).Nodup)
    (volume : PodVolume) : ((pod.addVolume volume).volumes.map (·.name)).Nodup := by
  rw [volumes_addVolume]
  split
  case isTrue => exact distinct
  case isFalse free => exact nodup_map_append_singleton distinct free

section

variable (workspaceId : String) {volumeOf : String → PodVolume}
  (named : ∀ name, (volumeOf name).name = name)

include named

/-- **A binding keeps a pod well formed.** -/
theorem WellFormed.attach {pod : Pod} (wellFormed : pod.WellFormed) (binding : Binding) :
    (binding.attach workspaceId volumeOf pod).WellFormed where
  paths container member := by
    rw [Binding.attach, containers_addVolume] at member
    obtain ⟨earlier, there, rfl | rfl⟩ := exists_of_mem_containers_addMount member
    · exact wellFormed.paths container there
    · exact Container.nodup_paths_addMount (wellFormed.paths earlier there) _
  names := by
    have before : ((pod.addMount binding.site.index
        (binding.mount workspaceId)).volumes.map (·.name)).Nodup := wellFormed.names
    exact nodup_names_addVolume before _
  mounted container member mount isMount := by
    rw [Binding.attach, containers_addVolume] at member
    rw [Binding.attach, mem_names_addVolume, named, volumes_addMount]
    obtain ⟨earlier, there, rfl | rfl⟩ := exists_of_mem_containers_addMount member
    · exact .inl (wellFormed.mounted container there mount isMount)
    · rcases Container.mem_mounts_addMount isMount with before | rfl
      · exact .inl (wellFormed.mounted earlier there mount before)
      · exact .inr rfl

theorem WellFormed.attachAll {pod : Pod} (wellFormed : pod.WellFormed)
    (bindings : List Binding) : (pod.attachAll workspaceId volumeOf bindings).WellFormed := by
  induction bindings generalizing pod with
  | nil => exact wellFormed
  | cons binding rest ih => exact ih (wellFormed.attach workspaceId named binding)

end

end Pod

/-! ## Whole documents -/

/-- A document with pods that are well formed, and with every claim under its own name. -/
structure Document.WellFormed (document : Document) : Prop where
  pods : ∀ key pod, document.pods.get? key = some pod → pod.WellFormed
  claims : Keyed document.claims

instance (pod : Pod) : Decidable pod.WellFormed :=
  decidable_of_iff
    ((∀ container ∈ pod.containers, (container.mounts.map (·.mountPath)).Nodup) ∧
      (pod.volumes.map (·.name)).Nodup ∧
      ∀ container ∈ pod.containers, ∀ mount ∈ container.mounts,
        mount.name ∈ pod.volumes.map (·.name))
    ⟨fun ⟨paths, names, mounted⟩ => ⟨paths, names, mounted⟩,
      fun ⟨paths, names, mounted⟩ => ⟨paths, names, mounted⟩⟩

instance (document : Document) : Decidable document.WellFormed :=
  decidable_of_iff
    ((∀ entry ∈ document.pods.entries, entry.2.WellFormed) ∧
      ∀ entry ∈ document.claims.entries, entry.2.name = entry.1)
    ⟨fun ⟨pods, claims⟩ =>
        ⟨fun key pod found => pods (key, pod) (StringMap.get?_eq_some_iff.1 found),
          fun key claim found => claims (key, claim) (StringMap.get?_eq_some_iff.1 found)⟩,
      fun ⟨pods, claims⟩ =>
        ⟨fun entry member => pods entry.1 entry.2 (StringMap.get?_eq_some_iff.2 member),
          fun entry member => claims entry.1 entry.2 (StringMap.get?_eq_some_iff.2 member)⟩⟩

/-- A pass keeps a document well formed, if it leaves the claims under their names. -/
theorem Plan.wellFormed_bound (workspaceId : String) {volumeOf : String → PodVolume}
    (named : ∀ name, (volumeOf name).name = name) {choose : Chooser} {plan : Plan}
    (wellFormed : plan.document.WellFormed) (keyed : Keyed (plan.left choose).claims) :
    (plan.bound workspaceId choose volumeOf).document.WellFormed where
  pods key after found := by
    rw [get?_pods_bound, Option.map_eq_some_iff] at found
    obtain ⟨pod, there, rfl⟩ := found
    exact (wellFormed.pods key pod there).attachAll workspaceId named _
  claims := keyed

/-! ## Claims behind names -/

/-- Whether there is a claim behind a name: one that is planned under it, or one of a
workspace that a directory lists. -/
def Backed {δ : Type} [ClaimDirectory δ] (directory : δ) (workspaceId : String)
    (claims : StringMap Claim) (name : String) : Prop :=
  name ∈ claims.keys ∨
    ∃ listed, ClaimDirectory.listByLabel directory workspaceIdLabel workspaceId = .ok listed ∧
      ∃ claim ∈ listed, claim.label? workspaceIdLabel = some workspaceId ∧ claim.name = name

/-- Whether every mount and every volume that was gained names a claim of some kind. -/
structure GainsClaims (kind : String → Prop) (earlier later : Document) : Prop where
  mounts : ∀ key index, ∀ mount ∈ gained earlier later key index, kind mount.name
  volumes : ∀ key, ∀ volume ∈ gainedVolumes earlier later key,
    ∃ name, volume = .claim name ∧ kind name

section

variable {kind : String → Prop} {earlier other later : Document}

/-- Where the pods are as they were, nothing has been gained. -/
theorem gainsClaims_of_pods_eq (same : later.pods = earlier.pods) :
    GainsClaims kind earlier later where
  mounts key index mount member := by
    rw [gained_of_pods_eq same] at member
    cases member
  volumes key volume member := by
    rw [gainedVolumes_of_pods_eq same] at member
    cases member

/-- What was gained over a document was gained over every document with its pods. -/
theorem GainsClaims.congr (gains : GainsClaims kind other later)
    (same : other.pods = earlier.pods) : GainsClaims kind earlier later where
  mounts := by
    rw [← gained_congr same]
    exact gains.mounts
  volumes := by
    rw [← gainedVolumes_congr same]
    exact gains.volumes

/-- A pass gains what its bindings name. -/
theorem gainsClaims_bound (workspaceId : String) {choose : Chooser} {plan : Plan}
    (named : ∀ binding ∈ plan.bindings choose, kind binding.name) :
    GainsClaims kind plan.document (plan.bound workspaceId choose PodVolume.claim).document where
  mounts key index mount member := by
    obtain ⟨binding, bound, -, -, rfl⟩ :=
      (Plan.mem_gained_bound workspaceId PodVolume.claim).1 member
    exact named binding bound
  volumes key volume member := by
    obtain ⟨binding, bound, rfl⟩ :=
      Plan.exists_of_mem_gainedVolumes_bound workspaceId PodVolume.claim member
    exact ⟨binding.name, rfl, named binding bound⟩

end

/-! ## Providers -/

section

variable {δ : Type} [ClaimDirectory δ] {directory : δ} {workspaceId : String}

/-- Every durable choice leaves the claims under their names, and has a claim behind it.
That a name may have been drawn before does not matter: a claim is found under it. -/
theorem invariant_backed {listed : List Claim}
    (answers : ClaimDirectory.listByLabel directory workspaceIdLabel workspaceId = .ok listed)
    (strategy : DurableStrategy) :
    strategy.Invariant workspaceId (DurableStrategy.existingClaims workspaceId listed) Keyed
      (Backed directory workspaceId) where
  listed claims volumeName name found := by
    obtain ⟨claim, isListed, owner, -, named⟩ :=
      DurableStrategy.exists_of_get?_existingClaims found
    exact .inr ⟨listed, answers, claim, isListed, owner, named⟩
  planned claims volumeName name keyed found := by
    obtain ⟨claim, isValue, -, rfl⟩ := exists_of_get?_claimsByVolume found
    obtain ⟨key, there⟩ := StringMap.mem_values_iff.1 isValue
    have isKey : claim.name = key := keyed key claim there
    refine .inl (StringMap.mem_keys_iff.2 ?_)
    rw [isKey, there, Option.isSome_some]
  made claims volumeName name keyed := by
    intro after
    have grows (other : String) : other ∈ claims.keys ∨ other = name → other ∈ after.keys := by
      rw [StringMap.mem_keys_iff, StringMap.mem_keys_iff, StringMap.get?_insert]
      rintro (before | rfl)
      · split
        · rfl
        · exact before
      · rw [if_pos rfl, Option.isSome_some]
    refine ⟨keyed.insert (strategy.name_newClaim ..), .inl (grows name (.inr rfl)), ?_⟩
    intro other backed
    exact backed.imp_left fun before => grows other (.inl before)

/-- Where a durable provider binds volumes, the claims are under their names afterwards,
and there is a claim behind all that is gained. -/
theorem DurableStrategy.gainsClaims_pass {listed : List Claim}
    (answers : ClaimDirectory.listByLabel directory workspaceIdLabel workspaceId = .ok listed)
    (strategy : DurableStrategy) {plan : Plan} (keyed : Keyed plan.document.claims) :
    let later := (strategy.pass workspaceId listed plan).document
    Keyed later.claims ∧
      GainsClaims (Backed directory workspaceId later.claims) plan.document later := by
  intro later
  have ⟨table, names⟩ := (invariant_backed answers strategy).bindings keyed
  exact ⟨table, gainsClaims_bound workspaceId names⟩

namespace Provider

/-- Preparing leaves the pods and the claims alone. -/
theorem pods_claims_prepared (workspaceId : String) (provider : Provider) (plan : Plan) :
    (provider.prepared workspaceId plan).document.pods = plan.document.pods ∧
      (provider.prepared workspaceId plan).document.claims = plan.document.claims := by
  obtain ⟨subpaths, same, -⟩ := exists_prepared_eq workspaceId provider plan
  rw [same]
  exact ⟨rfl, rfl⟩

theorem wellFormed_prepared {provider : Provider} {plan : Plan}
    (wellFormed : plan.document.WellFormed) :
    (provider.prepared workspaceId plan).document.WellFormed := by
  obtain ⟨pods, claims⟩ := pods_claims_prepared workspaceId provider plan
  exact ⟨pods ▸ wellFormed.pods, claims ▸ wellFormed.claims⟩

theorem wellFormed_provisioned {provider : Provider} {plan : Plan}
    (wellFormed : plan.document.WellFormed) :
    (provider.provisioned directory workspaceId plan).2.document.WellFormed := by
  cases provider with
  | none => exact wellFormed
  | emptyDir strategy =>
    have keyed : Keyed (plan.left strategy.choose).claims :=
      (strategy.claims_left plan).symm ▸ wellFormed.claims
    exact Plan.wellFormed_bound workspaceId (fun _ => rfl) wellFormed keyed
  | durable strategy =>
    rw [provisioned]
    cases answers : ClaimDirectory.listByLabel directory workspaceIdLabel workspaceId with
    | error fault => exact wellFormed
    | ok listed =>
      obtain ⟨keyed, -⟩ := strategy.gainsClaims_pass answers wellFormed.claims
      exact Plan.wellFormed_bound workspaceId (fun _ => rfl) wellFormed keyed

/-- There is a claim behind everything that a durable provider adds. -/
theorem gainsClaims_provisioned {strategy : DurableStrategy} {plan : Plan}
    (keyed : Keyed plan.document.claims) :
    let later := ((durable strategy).provisioned directory workspaceId plan).2.document
    GainsClaims (Backed directory workspaceId later.claims) plan.document later := by
  rw [provisioned]
  cases answers : ClaimDirectory.listByLabel directory workspaceIdLabel workspaceId with
  | error fault => exact gainsClaims_of_pods_eq rfl
  | ok listed => exact (strategy.gainsClaims_pass answers keyed).2

end Provider

end

/-! ## Calls -/

/-- What the engine is called for. -/
inductive Operation
  | prepare
  | provision
  | reconcile
  deriving DecidableEq

/-- What a provider leaves of a plan. -/
def Provider.performed {δ : Type} [ClaimDirectory δ] (operation : Operation) (directory : δ)
    (workspaceId : String) (provider : Provider) (plan : Plan) : Plan :=
  match operation with
  | .prepare => provider.prepared workspaceId plan
  | .provision => (provider.provisioned directory workspaceId plan).2
  | .reconcile => (provider.reconciled directory workspaceId plan).2

/-- A call of the engine: the collaborators as they are by then, of whatever kind, who it
is by and for, and the random numbers. -/
structure Call where
  {δ ω : Type}
  [isDirectory : ClaimDirectory δ]
  [isStore : WorkspaceStore ω]
  operation : Operation
  cluster : Cluster δ ω
  strategy : Strategy
  identity : Identity
  draws : DrawStream

attribute [instance] Call.isDirectory Call.isStore

namespace Call

/-- The workspace that a call is for. -/
def workspaceId (call : Call) : String := call.identity.workspaceId

/-- What serves the workspace of a call. -/
def served (call : Call) : Except VolumeError Provider :=
  call.strategy.served call.cluster.store call.workspaceId

/-- The plan after a call, whether it has succeeded or failed. -/
def leaves (call : Call) (document : Document) : Plan :=
  let plan : Plan := ⟨document, call.draws⟩
  match call.operation with
  | .prepare => ((call.strategy.prepare call.cluster.store call.workspaceId).start plan).subject
  | .provision => ((call.strategy.provision call.cluster call.identity).start plan).subject
  | .reconcile => ((reconcile call.cluster call.strategy call.identity).start plan).subject

/-- The document after a call, whether it has succeeded or failed. -/
def apply (call : Call) (document : Document) : Document := (call.leaves document).document

/-- Whether there is a claim behind everything that a call adds to a document, as far as a
durable strategy has added it. -/
def Backs (call : Call) (document : Document) : Prop :=
  ∀ strategy, call.served = .ok (.durable strategy) →
    let later := call.apply document
    GainsClaims (Backed call.cluster.directory call.workspaceId later.claims) document later

/-- A call leaves what the provider leaves that it is routed to, and where routing fails it
changes nothing. -/
theorem leaves_eq (call : Call) (document : Document) :
    call.leaves document =
      match call.served with
      | .ok provider =>
        provider.performed call.operation call.cluster.directory call.workspaceId
          ⟨document, call.draws⟩
      | .error _ => ⟨document, call.draws⟩ := by
  have prepares := call.strategy.prepare_actsAs call.cluster.store call.workspaceId
  have provisions := call.strategy.provision_actsAs call.cluster call.identity
  have reconciles := reconcile_actsAs call.cluster call.strategy call.identity
  rw [leaves, served]
  cases call.operation with
  | prepare =>
    dsimp only
    rw [prepares.subject_start]
    cases call.strategy.served call.cluster.store call.workspaceId <;> rfl
  | provision =>
    dsimp only
    rw [provisions.subject_start, ← workspaceId]
    cases call.strategy.served call.cluster.store call.workspaceId <;> rfl
  | reconcile =>
    dsimp only
    rw [reconciles.subject_start, ← workspaceId]
    cases call.strategy.served call.cluster.store call.workspaceId <;> rfl

theorem apply_eq (call : Call) (document : Document) :
    call.apply document =
      match call.served with
      | .ok provider =>
        (provider.performed call.operation call.cluster.directory call.workspaceId
          ⟨document, call.draws⟩).document
      | .error _ => document := by
  rw [apply, leaves_eq]
  cases call.served <;> rfl

/-- **A call keeps a document well formed.** -/
theorem wellFormed_apply (call : Call) {document : Document}
    (wellFormed : document.WellFormed) : (call.apply document).WellFormed := by
  rw [apply_eq]
  cases call.served with
  | error fault => exact wellFormed
  | ok provider =>
    have ready : (⟨document, call.draws⟩ : Plan).document.WellFormed := wellFormed
    dsimp only
    cases call.operation with
    | prepare => exact Provider.wellFormed_prepared ready
    | provision => exact Provider.wellFormed_provisioned ready
    | reconcile => exact Provider.wellFormed_provisioned (Provider.wellFormed_prepared ready)

/-- There is a claim behind everything that a call adds by a durable strategy. -/
theorem backs_apply (call : Call) {document : Document} (wellFormed : document.WellFormed) :
    call.Backs document := by
  intro strategy serves later
  have after : later = _ := call.apply_eq document
  rw [after, serves]
  dsimp only
  cases call.operation with
  | prepare => exact gainsClaims_of_pods_eq (Provider.pods_claims_prepared ..).1
  | provision => exact Provider.gainsClaims_provisioned wellFormed.claims
  | reconcile =>
    -- Binding starts on the prepared plan, which has the pods and the claims of the document.
    obtain ⟨pods, claims⟩ := Provider.pods_claims_prepared call.workspaceId (.durable strategy)
      ⟨document, call.draws⟩
    have keyed := claims ▸ wellFormed.claims
    exact (Provider.gainsClaims_provisioned keyed).congr pods

end Call

/-- The document after some calls, each on what the one before has left. -/
def runCalls (calls : List Call) (document : Document) : Document :=
  calls.foldl (fun document call => call.apply document) document

/-- What every call keeps, all calls keep. -/
theorem Document.WellFormed.runCalls {document : Document} (wellFormed : document.WellFormed)
    (calls : List Call) : (runCalls calls document).WellFormed := by
  induction calls generalizing document with
  | nil => exact wellFormed
  | cons call rest ih => exact ih (call.wellFormed_apply wellFormed)

/-- **Documents stay well formed.**  Take a document that is well formed, and any calls to
prepare, provision and reconcile, by any strategies and for any workspaces, each with its
own directory, store and random numbers, whether they succeed or fail.  The document is
well formed after each of them; and behind everything that a durable strategy adds to it
there is a claim after the call, in the document or among those of the workspace that the
directory lists. -/
theorem wellFormed_runCalls (document : Document) (wellFormed : document.WellFormed)
    (calls : List Call) :
    (runCalls calls document).WellFormed ∧
    ∀ before call after, calls = before ++ call :: after →
      (runCalls before document).WellFormed ∧ call.Backs (runCalls before document) := by
  refine ⟨wellFormed.runCalls calls, ?_⟩
  rintro before call after -
  have here := wellFormed.runCalls before
  exact ⟨here, call.backs_apply here⟩

/-- One name is drawn for every volume, so that each new claim takes the place of the one
before; then the directory fails. -/
theorem wellFormed_runCalls_collision :
    let identity : Identity := { workspaceId := "ws" }
    let cluster (available : Bool) : Cluster ClaimTable WorkspaceTable := ⟨{ available }, {}⟩
    let call (operation : Operation) (available : Bool) : Call :=
      ⟨operation, cluster available, .durable .standard, identity, .cycling #[0]⟩
    let calls := [call .provision true, call .reconcile false]
    let provisioned := (call .provision true).apply .pair
    (runCalls calls .pair).WellFormed ∧
      provisioned.claimNames = ["claim-workspace-aaaaaaaa"] ∧
      (gained .pair provisioned "web" 0).map (·.name) =
        ["claim-workspace-aaaaaaaa", "claim-workspace-aaaaaaaa"] ∧
      GainsClaims (Backed (cluster true).directory "ws" provisioned.claims) .pair
        provisioned := by
  intro identity cluster call calls provisioned
  have wellFormed : Document.pair.WellFormed := by decide
  obtain ⟨later, during⟩ := wellFormed_runCalls .pair wellFormed calls
  obtain ⟨-, backs⟩ := during [] (call .provision true) [call .reconcile false] rfl
  exact ⟨later, by decide, by decide, backs .standard rfl⟩

end WorkspaceVolumes
