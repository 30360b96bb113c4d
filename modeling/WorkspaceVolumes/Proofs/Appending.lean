import WorkspaceVolumes.Proofs.Precreation
import WorkspaceVolumes.Proofs.WellFormed

/-!
# Strategies only append

The visit of a declared volume is handed a whole pod, and a pass the whole document.  This
module says how little becomes of that: mounts behind the mounts that a container has, volumes
behind those of its pod, claims under generated names, and sub-paths on the list.  Everything
else of the document is as it was, whatever is called, by whatever strategy, and whether it
succeeds or fails.

**One frame for all steps.**  What a step may do is said once for a pod (`Pod.Appends`) and
once for a document (`Document.Appends`).  Both are closed under doing nothing and under one
step after the other, so it is enough to look at one binding.

**No mount, no change.**  A pass gives a pod a volume only together with a mount.  So a pod
that has gained no mount is the pod that it was.  The frame keeps this as long as every step
adds behind what is there: mounts that are the same at both ends were the same in between.

## Main definitions

* `Pod.Appends`, `Document.Appends`: the frames.
* `Call.generated`: the names that are generated during a call.

## Main statements

* `Pod.Appends.attach`: what one binding does to a pod.
* `Plan.appends_bound`: what a pass does to a document.
* `call_appends`, `appends_runCalls`: what a call does, and what calls do one after another.
-/

namespace WorkspaceVolumes

/-! ## One pod -/

/-- The mounts of a container of a pod; one that is not there has none. -/
def Pod.mountsAt (pod : Pod) (index : Nat) : List VolumeMount :=
  (pod.containers[index]?.map (·.mounts)).getD []

/-- What a pod may become: it has the metadata and the containers that it had, mounts and
volumes are only added behind those that are there, and without a new mount it is the same
pod. -/
structure Pod.Appends (pod later : Pod) : Prop where
  layout : pod.SameLayout later
  mounts : ∀ index, pod.mountsAt index <+: later.mountsAt index
  volumes : pod.volumes <+: later.volumes
  still : (∀ index, later.mountsAt index = pod.mountsAt index) → later = pod

namespace Pod.Appends

variable {pod between later : Pod}

theorem refl (pod : Pod) : pod.Appends pod where
  layout := .refl pod
  mounts _ := List.prefix_rfl
  volumes := List.prefix_rfl
  still _ := rfl

theorem trans (first : pod.Appends between) (second : between.Appends later) :
    pod.Appends later where
  layout := first.layout.trans second.layout
  mounts index := (first.mounts index).trans (second.mounts index)
  volumes := first.volumes.trans second.volumes
  still same := by
    -- The mounts in between are caught between mounts that are the same.
    have middle (index : Nat) : between.mountsAt index = pod.mountsAt index := by
      have within := second.mounts index
      rw [same index] at within
      exact within.eq_of_length_le (first.mounts index).length_le
    obtain rfl := first.still middle
    exact second.still same

variable (workspaceId : String) (volumeOf : String → PodVolume)

/-- A binding that finds its path unbound adds a mount. -/
theorem attach {binding : Binding} (inside : binding.site.index < pod.containers.length)
    (free : pod.binds binding.site.index binding.site.declaration.path = false) :
    pod.Appends (binding.attach workspaceId volumeOf pod) := by
  have container (index : Nat) := getElem?_containers_attach workspaceId volumeOf free index
  constructor
  case layout => exact binding.sameLayout_attach workspaceId volumeOf pod
  case mounts =>
    intro index
    unfold mountsAt
    rw [container index]
    cases pod.containers[index]? with
    | none => exact List.prefix_rfl
    | some found => exact List.prefix_append _ _
  case volumes =>
    unfold Binding.attach
    rw [volumes_addVolume, volumes_addMount]
    split
    · exact List.prefix_rfl
    · exact List.prefix_append _ _
  case still =>
    intro same
    have here := same binding.site.index
    unfold mountsAt at here
    rw [container, List.getElem?_eq_getElem inside, if_pos rfl] at here
    simp at here

/-- **Bindings that a pod admits only add to it.** -/
theorem attachAll {bindings : List Binding} (admits : pod.Admits bindings) :
    pod.Appends (pod.attachAll workspaceId volumeOf bindings) := by
  induction bindings generalizing pod with
  | nil => exact .refl pod
  | cons binding rest ih =>
    have here : pod.Appends (binding.attach workspaceId volumeOf pod) :=
      attach workspaceId volumeOf (admits.inside binding List.mem_cons_self)
        (admits.free binding List.mem_cons_self)
    exact here.trans (ih (admits.attach workspaceId volumeOf))

end Pod.Appends

/-! ## One document -/

/-- What a document may become while some names are generated: it has the pods and machines
that it had, and pods are only added to; sub-paths and keys of claims are only added; and a
claim may only change if its key is a generated name. -/
structure Document.Appends (generated : List String) (earlier later : Document) : Prop where
  keys : later.pods.keys = earlier.pods.keys
  pods : ∀ key pod, earlier.pods.get? key = some pod →
    ∃ after, later.pods.get? key = some after ∧ pod.Appends after
  machines : later.machines = earlier.machines
  subpaths : ∀ path ∈ earlier.subpaths.toList, path ∈ later.subpaths.toList
  claimNames : ∀ key ∈ earlier.claimNames, key ∈ later.claimNames
  claims : ∀ key, key ∉ generated → later.claims.get? key = earlier.claims.get? key

namespace Document.Appends

variable {generated more : List String} {earlier between later : Document}

/-- Listing further sub-paths leaves everything else alone. -/
theorem of_subpaths (generated : List String) {document : Document} {subpaths : StringSet}
    (listed : ∀ path ∈ document.subpaths.toList, path ∈ subpaths.toList) :
    document.Appends generated { document with subpaths } where
  keys := rfl
  pods _ pod found := ⟨pod, found, .refl pod⟩
  machines := rfl
  subpaths := listed
  claimNames _ member := member
  claims _ _ := rfl

theorem refl (generated : List String) (document : Document) :
    document.Appends generated document :=
  of_subpaths generated fun _ member => member

theorem trans (first : earlier.Appends generated between)
    (second : between.Appends more later) : earlier.Appends (generated ++ more) later where
  keys := second.keys.trans first.keys
  pods key pod found := by
    obtain ⟨middle, there, here⟩ := first.pods key pod found
    obtain ⟨after, last, next⟩ := second.pods key middle there
    exact ⟨after, last, here.trans next⟩
  machines := second.machines.trans first.machines
  subpaths path member := second.subpaths path (first.subpaths path member)
  claimNames key member := second.claimNames key (first.claimNames key member)
  claims key other := by
    obtain ⟨notFirst, notSecond⟩ := not_or.1 (mt List.mem_append.2 other)
    rw [second.claims key notSecond, first.claims key notFirst]

end Document.Appends

/-! ## Passes -/

/-- **A pass only appends**, if each of its choices makes at most one claim and no claim changes
but under generated names. -/
theorem Plan.appends_bound (workspaceId : String) (volumeOf : String → PodVolume)
    {choose : Chooser} {plan : Plan} {generated : List String} (frugal : choose.Frugal)
    (spares : ∀ key, key ∉ generated →
      (plan.left choose).claims.get? key = plan.document.claims.get? key) :
    plan.document.Appends generated (plan.bound workspaceId choose volumeOf).document where
  keys := keys_pods_bound workspaceId volumeOf
  pods key pod found := by
    rw [get?_pods_bound, found]
    exact ⟨_, rfl, .attachAll workspaceId volumeOf (admits_bindings choose found)⟩
  machines := rfl
  subpaths _ member := member
  claimNames := (frugal.claimsGrow_allot plan.document.openings plan.stock).kept
  claims := spares

/-- No claim changes in a durable pass but under the names that are drawn. -/
theorem DurableStrategy.get?_claims_pass (strategy : DurableStrategy) (workspaceId : String)
    (listed : List Claim) (plan : Plan) {key : String}
    (other : key ∉ namesDrawn strategy.stem plan.draws
      (strategy.pass workspaceId listed plan).draws) :
    (strategy.pass workspaceId listed plan).document.claims.get? key =
      plan.document.claims.get? key := by
  obtain ⟨issues, -, table, drawn⟩ := strategy.exists_ledger_pass workspaceId listed plan
  rw [drawn] at other
  rw [table]
  refine get?_issueAll_of_fresh fun issue member same => other ?_
  exact List.mem_map.2 ⟨issue, member, same⟩

/-! ## Providers -/

namespace Provider

variable {δ : Type} [ClaimDirectory δ] (directory : δ) (workspaceId : String)
  (provider : Provider) (plan : Plan)

theorem appends_prepared (generated : List String) :
    plan.document.Appends generated (provider.prepared workspaceId plan).document := by
  obtain ⟨subpaths, same, listed⟩ := exists_prepared_eq workspaceId provider plan
  rw [same]
  exact .of_subpaths generated listed

theorem draws_prepared : (provider.prepared workspaceId plan).draws = plan.draws := by
  obtain ⟨subpaths, same, -⟩ := exists_prepared_eq workspaceId provider plan
  rw [same]

theorem appends_provisioned :
    let later := (provider.provisioned directory workspaceId plan).2
    plan.document.Appends (provider.drawn plan.draws later.draws) later.document := by
  intro later
  cases provider with
  | none => exact .refl _ plan.document
  | emptyDir strategy =>
    refine Plan.appends_bound workspaceId PodVolume.emptyDir strategy.frugal_choose ?_
    intro key _
    rw [strategy.claims_left plan]
  | durable strategy =>
    unfold later provisioned
    cases ClaimDirectory.listByLabel directory workspaceIdLabel workspaceId with
    | error fault => exact .refl _ plan.document
    | ok listed =>
      refine Plan.appends_bound workspaceId PodVolume.claim (strategy.frugal_choose _ _) ?_
      intro key other
      exact strategy.get?_claims_pass workspaceId listed plan other

/-- Reconciling appends what preparing does and then what binding does. -/
theorem appends_reconciled :
    let later := (provider.reconciled directory workspaceId plan).2
    plan.document.Appends (provider.drawn plan.draws later.draws) later.document := by
  have preparing := provider.appends_prepared workspaceId plan []
  have binding := provider.appends_provisioned directory workspaceId
    (provider.prepared workspaceId plan)
  rw [draws_prepared] at binding
  exact preparing.trans binding

end Provider

/-! ## Calls -/

namespace Call

variable (call : Call) (document : Document)

/-- The names that are generated during a call. -/
def generated : List String :=
  match call.served with
  | .ok provider => provider.drawn call.draws (call.leaves document).draws
  | .error _ => []

theorem appends_apply : document.Appends (call.generated document) (call.apply document) := by
  unfold generated
  rw [apply, leaves_eq]
  cases call.served with
  | error fault => exact .refl [] document
  | ok provider =>
    dsimp only
    cases call.operation with
    | prepare => exact provider.appends_prepared call.workspaceId ⟨document, call.draws⟩ _
    | provision =>
      exact provider.appends_provisioned call.cluster.directory call.workspaceId
        ⟨document, call.draws⟩
    | reconcile =>
      exact provider.appends_reconciled call.cluster.directory call.workspaceId
        ⟨document, call.draws⟩

/-- Binding leaves the list of sub-paths alone. -/
theorem subpaths_apply_of_provision (provisions : call.operation = .provision) :
    (call.apply document).subpaths = document.subpaths := by
  rw [apply_eq, provisions]
  cases call.served with
  | error fault => rfl
  | ok provider => exact Provider.subpaths_provisioned

/-- Preparing leaves everything else alone, also the random numbers. -/
theorem leaves_of_prepare (prepares : call.operation = .prepare) :
    call.leaves document =
      ⟨{ document with subpaths := (call.apply document).subpaths }, call.draws⟩ := by
  rw [apply, leaves_eq, prepares]
  cases call.served with
  | error fault => rfl
  | ok provider =>
    obtain ⟨subpaths, same, -⟩ :=
      Provider.exists_prepared_eq call.workspaceId provider ⟨document, call.draws⟩
    dsimp only [Provider.performed]
    rw [same]

end Call

/-- **Strategies only append.**  Take any call to prepare, to bind or to reconcile, by any
strategy, for any workspace, with any collaborators and random numbers, and let it succeed or
fail.  The document has the pods, the containers and the machines that it had; mounts, volumes,
sub-paths and keys of claims are only added to; a claim under a key that has not been generated
during the call is unchanged; and a pod of which no container has got a mount is the same pod.
Binding leaves the sub-paths alone, and preparing everything else. -/
theorem call_appends (call : Call) (document : Document) :
    document.Appends (call.generated document) (call.apply document) ∧
    (call.operation = .provision → (call.apply document).subpaths = document.subpaths) ∧
    (call.operation = .prepare → call.leaves document =
      ⟨{ document with subpaths := (call.apply document).subpaths }, call.draws⟩) :=
  ⟨call.appends_apply document, call.subpaths_apply_of_provision document,
    call.leaves_of_prepare document⟩

/-- One of two pods gets a mount, for a new claim under a name that is taken: the claim that was
there is replaced, and the other one and the other pod are as they were. -/
theorem call_appends_taken :
    let store := ({} : WorkspaceTable).setAttribute "ws" mountSourcesAttribute "true"
    let cluster : Cluster ClaimTable WorkspaceTable := ⟨{}, store⟩
    let strategy :=
      Strategy.override (.override (.durable .standard) ⟨"scratch"⟩) ⟨"volume"⟩
    let call : Call := ⟨.reconcile, cluster, strategy, { workspaceId := "ws" }, .cycling #[0]⟩
    let taken := "claim-workspace-aaaaaaaa"
    let planned (name : String) := DurableStrategy.standard.newClaim "other" "cache" name
    let document : Document :=
      { Document.pair with
        machines := .insert .empty "web/app" (Machine.withVolume {} "data" "/data")
        claims := (StringMap.empty.insert "old" (planned "old")).insert taken (planned taken) }
    let later := call.apply document
    document.Appends [taken] later ∧
      later.claims.get? "old" = some (planned "old") ∧
      later.claims.get? taken = some (DurableStrategy.standard.newClaim "ws" "data" taken) ∧
      later.pods.get? "db" = document.pods.get? "db" ∧
      (gained document later "web" 0).map (·.name) = [taken] := by
  intro store cluster strategy call taken planned document later
  obtain ⟨appends, -, -⟩ := call_appends call document
  have generated : call.generated document = [taken] := by decide
  rw [generated] at appends
  refine ⟨appends, ?_, by decide, by decide, by decide⟩
  have differs : "old" ∉ [taken] := by decide
  exact (appends.claims "old" differs).trans (by decide)

/-! ## Runs -/

/-- The names that are generated during some calls, each on what the one before has left. -/
def generatedNames : List Call → Document → List String
  | [], _ => []
  | call :: rest, document =>
    call.generated document ++ generatedNames rest (call.apply document)

/-- **What a call may do, all calls may do**, with all the names that they generate. -/
theorem appends_runCalls (calls : List Call) (document : Document) :
    document.Appends (generatedNames calls document) (runCalls calls document) := by
  induction calls generalizing document with
  | nil => exact .refl [] document
  | cons call rest ih => exact (call.appends_apply document).trans (ih (call.apply document))

end WorkspaceVolumes
