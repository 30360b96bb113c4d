import WorkspaceVolumes.Proofs.Distinctness
import WorkspaceVolumes.Proofs.Report
import WorkspaceVolumes.Proofs.WellFormed

/-!
# The kind of storage behind a mount

A pod has one volume for each name, and a volume is not added where the name is taken, whatever
the volume that has it is backed by.  So it is the names that decide whether a mount gets the
kind of storage that its pass has chosen: a claim under a name that was drawn for storage for
the life of a pod would leave data that should last on storage that does not.

**Kinds of names.**  If the drawn names differ and occur nowhere else, every name in a run is of
one kind: it was drawn for storage for the life of a pod, or it is that of a claim, be it made,
planned or listed.  `Document.InKind` says that the volumes of a document agree with the kinds
of their names.  Every pass keeps that, for all kinds that will be drawn are fixed beforehand.

**Runs.**  A pass leaves nothing open, so after it another pass has nothing to do, unless the
machines are declared anew.  So runs are considered in which that happens between the passes.

## Main definitions

* `BindingStep`, `runBindings`: passes of both strategies, and runs of them.
* `Drawn`, `runDraws`: the names that are drawn in a run, with their kinds.
* `Document.InKind`: a document whose volumes agree with the kinds of their names.
* `BindingStep.Provides`: what a step is to provide for a mount.

## Main statements

* `BindingStep.effect_apply`, `lasting_runBindings`: the invariant, for a step and for a run.
* `mounts_backed_in_kind`: every mount is backed by what its pass has chosen.
-/

namespace WorkspaceVolumes

/-! ## Runs -/

/-- A step in the life of a document: a pass of either strategy for a workspace, or new
declarations of the machines. -/
inductive BindingStep
  | transient (strategy : EmptyDirStrategy) (identity : Identity)
  | durable (strategy : DurableStrategy) (identity : Identity)
  | redeclare (machines : StringMap Machine)

/-- A name that was drawn, and whether it was for storage for the life of a pod. -/
structure Drawn where
  name : String
  brief : Bool
  deriving DecidableEq

section

variable {δ : Type} [ClaimDirectory δ] (directory : δ)

namespace BindingStep

/-- The document and the random numbers after a step.  A pass that fails changes nothing. -/
def apply (step : BindingStep) (plan : Plan) : Plan :=
  match step with
  | transient strategy identity => ((strategy.provision identity).start plan).subject
  | durable strategy identity => ((strategy.provision directory identity).start plan).subject
  | redeclare machines => { plan with document := { plan.document with machines } }

/-- The names that are drawn in a step. -/
def draws (step : BindingStep) (plan : Plan) : List Drawn :=
  let names (stem : String) := namesDrawn stem plan.draws (step.apply directory plan).draws
  match step with
  | transient strategy _ => (names strategy.stem).map (⟨·, true⟩)
  | durable strategy _ => (names strategy.stem).map (⟨·, false⟩)
  | redeclare _ => []

end BindingStep

/-- The document and the random numbers after some steps. -/
def runBindings (steps : List BindingStep) (plan : Plan) : Plan :=
  steps.foldl (fun plan step => step.apply directory plan) plan

/-- The names that are drawn in some steps. -/
def runDraws : List BindingStep → Plan → List Drawn
  | [], _ => []
  | step :: rest, plan => step.draws directory plan ++ runDraws rest (step.apply directory plan)

theorem runBindings_append (front back : List BindingStep) (plan : Plan) :
    runBindings directory (front ++ back) plan =
      runBindings directory back (runBindings directory front plan) :=
  List.foldl_append

theorem runDraws_append (front back : List BindingStep) (plan : Plan) :
    runDraws directory (front ++ back) plan =
      runDraws directory front plan ++
        runDraws directory back (runBindings directory front plan) := by
  induction front generalizing plan with
  | nil => rfl
  | cons step rest ih =>
    rw [List.cons_append, runDraws, runDraws, ih, List.append_assoc]
    rfl

end

/-! ## Mounts and volumes that are added -/

/-- The items with the key of an item are that item, if the keys differ. -/
theorem filter_key_eq_singleton {α κ : Type} [DecidableEq κ] {key : α → κ} {items : List α}
    {item : α} (distinct : (items.map key).Nodup) (member : item ∈ items) :
    items.filter (key · = key item) = [item] := by
  induction items with
  | nil => cases member
  | cons first rest ih =>
    obtain ⟨new, tail⟩ := List.nodup_cons.1 distinct
    rcases List.mem_cons.1 member with rfl | behind
    · have others : rest.filter (key · = key item) = [] := by
        refine List.filter_eq_nil_iff.2 fun other isOther same => new ?_
        exact List.mem_map.2 ⟨other, isOther, of_decide_eq_true same⟩
      rw [List.filter_cons_of_pos (by simp), others]
    · have differs : key first ≠ key item := fun same =>
        new (same ▸ List.mem_map_of_mem behind)
      rw [List.filter_cons_of_neg (by simpa using differs), ih tail behind]

/-- The mounts of a document, container by container. -/
def Document.allMounts (document : Document) : List VolumeMount :=
  document.places.flatMap fun place => document.mountsAt place.1 place.2

/-- The names of the mounts of a document that are among some names. -/
def Document.mountedAmong (document : Document) (names : List String) : List String :=
  (document.allMounts.map (·.name)).filter (· ∈ names)

namespace Document

variable {document : Document} {names : List String} {mount : VolumeMount}

theorem mem_allMounts {key : String} {index : Nat}
    (member : mount ∈ document.mountsAt key index) : mount ∈ document.allMounts := by
  have inside : (key, index) ∈ document.places := by
    rw [mem_places_iff]
    cases found : document.pods.get? key with
    | none =>
      rw [mountsAt_of_absent found] at member
      cases member
    | some pod =>
      refine ⟨pod, rfl, Nat.lt_of_not_le fun outside => ?_⟩
      rw [mountsAt_eq found, List.getElem?_eq_none outside] at member
      cases member
  exact List.mem_flatMap.2 ⟨(key, index), inside, member⟩

theorem exists_of_mem_allMounts (member : mount ∈ document.allMounts) :
    ∃ key index, mount ∈ document.mountsAt key index := by
  obtain ⟨⟨key, index⟩, -, here⟩ := List.mem_flatMap.1 member
  exact ⟨key, index, here⟩

theorem mountedAmong_eq_nil (unmounted : ∀ name ∈ names, ∀ key index,
    name ∉ document.mountNamesAt key index) : document.mountedAmong names = [] := by
  refine List.filter_eq_nil_iff.2 fun name isMounted among => ?_
  obtain ⟨mount, member, rfl⟩ := List.mem_map.1 isMounted
  obtain ⟨key, index, here⟩ := exists_of_mem_allMounts member
  exact unmounted _ (of_decide_eq_true among) key index (List.mem_map_of_mem here)

/-- A mount is the only one of its name, if the name is among some that are mounted at most
once. -/
theorem filter_allMounts (once : (document.mountedAmong names).Nodup)
    (member : mount ∈ document.allMounts) (among : mount.name ∈ names) :
    document.allMounts.filter (·.name = mount.name) = [mount] := by
  unfold mountedAmong at once
  rw [List.filter_map] at once
  have inside : mount ∈
      document.allMounts.filter ((fun name => decide (name ∈ names)) ∘ (·.name)) :=
    List.mem_filter.2 ⟨member, decide_eq_true among⟩
  rw [← filter_key_eq_singleton once inside, List.filter_filter]
  refine List.filter_congr fun other _ => ?_
  by_cases same : other.name = mount.name <;> simp [same, among]

end Document

/-- A document with the containers of another, and everything that is mounted in them and that
their pods have. -/
structure Document.Adds (earlier later : Document) : Prop where
  places : later.places = earlier.places
  mounts : ∀ key index, earlier.mountsAt key index <+: later.mountsAt key index
  volumes : ∀ key, earlier.volumesAt key <+: later.volumesAt key

namespace Document.Adds

variable {earlier between later : Document}

theorem of_pods_eq (same : later.pods = earlier.pods) : earlier.Adds later where
  places := by unfold Document.places; rw [same]
  mounts key index := Document.mountsAt_congr same ▸ List.prefix_rfl
  volumes key := Document.volumesAt_congr same ▸ List.prefix_rfl

theorem of_extends (kept : earlier.Extends later) : earlier.Adds later :=
  ⟨kept.places, kept.mounts, kept.volumes⟩

theorem trans (first : earlier.Adds between) (second : between.Adds later) :
    earlier.Adds later where
  places := second.places.trans first.places
  mounts key index := (first.mounts key index).trans (second.mounts key index)
  volumes key := (first.volumes key).trans (second.volumes key)

/-- The mounts are those that were there and those that were gained. -/
theorem perm_allMounts (adds : earlier.Adds later) :
    later.allMounts.Perm (earlier.allMounts ++ mountsGained earlier later) := by
  have here (key : String) (index : Nat) : later.mountsAt key index =
      earlier.mountsAt key index ++ gained earlier later key index := by
    obtain ⟨added, behind⟩ := adds.mounts key index
    rw [gained_of_append behind.symm, behind]
  unfold allMounts mountsGained
  rw [adds.places]
  simp only [here]
  exact (List.flatMap_append_perm _ _ _).symm

end Document.Adds

/-! ### Volumes in a pass -/

section

variable (workspaceId : String) {volumeOf : String → PodVolume}
  (named : ∀ name, (volumeOf name).name = name)

include named

/-- A pod with some bindings attached has a volume for each, and no two of one name. -/
theorem Pod.names_attachAll {pod : Pod} (distinct : (pod.volumes.map (·.name)).Nodup)
    (bindings : List Binding) :
    ((pod.attachAll workspaceId volumeOf bindings).volumes.map (·.name)).Nodup ∧
      ∀ binding ∈ bindings,
        binding.name ∈ (pod.attachAll workspaceId volumeOf bindings).volumes.map (·.name) := by
  -- The names that are there stay there, so the induction is on the bindings to come.
  suffices general : ((pod.attachAll workspaceId volumeOf bindings).volumes.map (·.name)).Nodup ∧
      ∀ name, name ∈ pod.volumes.map (·.name) ∨ name ∈ bindings.map (·.name) →
        name ∈ (pod.attachAll workspaceId volumeOf bindings).volumes.map (·.name) from
    ⟨general.1, fun binding member => general.2 _ (.inr (List.mem_map_of_mem member))⟩
  induction bindings generalizing pod with
  | nil => exact ⟨distinct, fun name before => by simpa [attachAll] using before⟩
  | cons binding rest ih =>
    have once : ((binding.attach workspaceId volumeOf pod).volumes.map (·.name)).Nodup := by
      rw [Binding.attach]
      exact nodup_names_addVolume (by rwa [Pod.volumes_addMount]) _
    obtain ⟨nodup, kept⟩ := ih once
    refine ⟨nodup, fun name => ?_⟩
    rintro (before | isBound)
    · exact kept name (.inl (mem_names_addVolume.2 (.inl before)))
    · rcases List.mem_cons.1 isBound with rfl | behind
      · exact kept _ (.inl (mem_names_addVolume.2 (.inr (named _).symm)))
      · exact kept name (.inr behind)

namespace Plan

variable {choose : Chooser} {plan : Plan} {key : String}

/-- After a pass no pod has two volumes of one name, if none had before. -/
theorem nodup_volumeNames_bound
    (distinct : ((plan.document.volumesAt key).map (·.name)).Nodup) :
    (((plan.bound workspaceId choose volumeOf).document.volumesAt key).map (·.name)).Nodup := by
  have after := get?_pods_bound workspaceId volumeOf choose plan key
  cases found : plan.document.pods.get? key with
  | none =>
    rw [found, Option.map_none] at after
    rw [Document.volumesAt_of_absent after]
    exact List.nodup_nil
  | some pod =>
    rw [found, Option.map_some] at after
    rw [Document.volumesAt_eq found] at distinct
    rw [Document.volumesAt_eq after]
    exact (Pod.names_attachAll workspaceId named distinct _).1

/-- Every mount that is gained in a pass has a volume of its name in its pod. -/
theorem exists_volume_of_mem_gained_bound
    (distinct : ((plan.document.volumesAt key).map (·.name)).Nodup) {index : Nat}
    {mount : VolumeMount} (gains : mount ∈
      gained plan.document (plan.bound workspaceId choose volumeOf).document key index) :
    mount.name ∈
      ((plan.bound workspaceId choose volumeOf).document.volumesAt key).map (·.name) := by
  obtain ⟨binding, bound, rfl, -, rfl⟩ := (mem_gained_bound workspaceId volumeOf).1 gains
  obtain ⟨pod, found, -⟩ := Document.mem_openings_iff.1 (site_mem_openings bound)
  have after := get?_pods_bound workspaceId volumeOf choose plan binding.site.pod
  rw [found, Option.map_some] at after
  rw [Document.volumesAt_eq found] at distinct
  rw [Document.volumesAt_eq after]
  exact (Pod.names_attachAll workspaceId named distinct _).2 binding
    (mem_bindingsIn.2 ⟨bound, rfl⟩)

end Plan

end

/-! ## The invariant -/

/-- The volume that goes with a name, where some names are for the life of a pod. -/
def volumeInKind (brief : List String) (name : String) : PodVolume :=
  if name ∈ brief then .emptyDir name else .claim name

/-- A document whose volumes are of the kinds of their names: no pod has two of one name, those
of brief names live as long as the pod, and the others are claims.  No claim that is planned
has a brief name. -/
structure Document.InKind (brief : List String) (document : Document) : Prop where
  volumes : ∀ key, ∀ volume ∈ document.volumesAt key, volume = volumeInKind brief volume.name
  names : ∀ key, ((document.volumesAt key).map (·.name)).Nodup
  keyed : Keyed document.claims
  claims : ∀ key ∈ document.claims.keys, key ∉ brief

/-- What some steps that have drawn some names make of a document: they only add to it, the
volumes are still of the kinds of their names, and the brief names that are mounted are those
that were, and those that were drawn. -/
structure Document.Lasting (brief : List String) (drawn : List Drawn)
    (earlier later : Document) : Prop where
  adds : earlier.Adds later
  inKind : later.InKind brief
  briefly : (later.mountedAmong brief).Perm
    (earlier.mountedAmong brief ++ (drawn.filter (·.brief)).map (·.name))

namespace Document

variable {brief : List String} {earlier between later : Document} {first second : List Drawn}

theorem InKind.of_pods_eq (inKind : earlier.InKind brief) (pods : later.pods = earlier.pods)
    (claims : later.claims = earlier.claims) : later.InKind brief where
  volumes := by rw [volumesAt_congr pods]; exact inKind.volumes
  names := by rw [volumesAt_congr pods]; exact inKind.names
  keyed := claims ▸ inKind.keyed
  claims := claims ▸ inKind.claims

/-- A name of a volume is that of one volume, which is of its kind. -/
theorem InKind.filter_volumesAt {document : Document} (inKind : document.InKind brief)
    {key name : String} (has : name ∈ (document.volumesAt key).map (·.name)) :
    (document.volumesAt key).filter (·.name = name) = [volumeInKind brief name] := by
  obtain ⟨volume, member, rfl⟩ := List.mem_map.1 has
  rw [filter_key_eq_singleton (inKind.names key) member, ← inKind.volumes key volume member]

theorem mountedAmong_congr (same : later.pods = earlier.pods) (names : List String) :
    later.mountedAmong names = earlier.mountedAmong names := by
  unfold mountedAmong allMounts places
  rw [same, mountsAt_congr same]

/-- Where the pods and the claims are as they were and no name was drawn, everything lasts. -/
theorem Lasting.of_pods_eq (inKind : earlier.InKind brief) (pods : later.pods = earlier.pods)
    (claims : later.claims = earlier.claims) : Lasting brief [] earlier later where
  adds := .of_pods_eq pods
  inKind := inKind.of_pods_eq pods claims
  briefly := by rw [mountedAmong_congr pods, List.filter_nil, List.map_nil, List.append_nil]

theorem Lasting.trans (one : Lasting brief first earlier between)
    (other : Lasting brief second between later) :
    Lasting brief (first ++ second) earlier later where
  adds := one.adds.trans other.adds
  inKind := other.inKind
  briefly := by
    rw [List.filter_append, List.map_append, ← List.append_assoc]
    exact other.briefly.trans (one.briefly.append_right _)

end Document

/-- **A pass keeps the volumes in kind**, if it gives every name that it binds a volume of its
kind, and plans no claim under a brief name. -/
theorem Plan.lasting_bound {brief : List String} {drawn : List Drawn} (workspaceId : String)
    {volumeOf : String → PodVolume} {choose : Chooser} {plan : Plan}
    (kept : plan.document.Extends (plan.bound workspaceId choose volumeOf).document)
    (named : ∀ name, (volumeOf name).name = name) (inKind : plan.document.InKind brief)
    (kinds : ∀ binding ∈ plan.bindings choose,
      volumeOf binding.name = volumeInKind brief binding.name)
    (keyed : Keyed (plan.left choose).claims)
    (claims : ∀ key ∈ (plan.left choose).claims.keys, key ∉ brief)
    (names : ((plan.bindings choose).map (·.name)).filter (· ∈ brief) =
      (drawn.filter (·.brief)).map (·.name)) :
    Document.Lasting brief drawn plan.document
      (plan.bound workspaceId choose volumeOf).document where
  adds := .of_extends kept
  inKind := {
    volumes := by
      intro key volume member
      rw [kept.volumesAt_eq_append, List.mem_append] at member
      rcases member with before | new
      · exact inKind.volumes key volume before
      · obtain ⟨binding, bound, rfl⟩ :=
          exists_of_mem_gainedVolumes_bound workspaceId volumeOf new
        rw [named, kinds binding bound]
    names := fun key => nodup_volumeNames_bound workspaceId named (inKind.names key)
    keyed := keyed
    claims := claims }
  briefly := by
    have gains := (Document.Adds.of_extends kept).perm_allMounts.trans
      ((perm_mountsGained_bound workspaceId volumeOf).append_left _)
    unfold Document.mountedAmong
    refine ((gains.map _).filter _).trans ?_
    rw [List.map_append, List.filter_append, List.map_map, ← names]
    exact List.Perm.refl _

/-! ## Steps -/

/-- What a step is to provide for a mount in a pod of a document.  For storage for the life of a
pod, the pod has one volume of the name of the mount, which lives as long as the pod, and no
other mount of the document has that name.  For durable storage, the pod has one volume of the
name, which stands for the claim of that name and can be written to.  Declaring machines gives
no mounts. -/
def BindingStep.Provides (step : BindingStep) (document : Document) (key : String)
    (mount : VolumeMount) : Prop :=
  match step with
  | transient _ _ =>
    (document.volumesAt key).filter (·.name = mount.name) = [⟨mount.name, .emptyDir {}⟩] ∧
      document.allMounts.filter (·.name = mount.name) = [mount]
  | durable _ _ =>
    (document.volumesAt key).filter (·.name = mount.name) =
      [⟨mount.name, .claim { claimName := mount.name, readOnly := false }⟩]
  | redeclare _ => False

/-- The kind of the names that a step mounts. -/
def BindingStep.OfKind (brief : List String) (step : BindingStep) (name : String) : Prop :=
  match step with
  | transient _ _ => name ∈ brief
  | durable _ _ => name ∉ brief
  | redeclare _ => False

/-- What a step makes of a document in kind: everything lasts, and what is mounted is of the kind
of the step and has a volume in its pod. -/
structure BindingStep.Effect (brief : List String) (step : BindingStep) (drawn : List Drawn)
    (earlier later : Document) : Prop where
  lasting : earlier.Lasting brief drawn later
  kind : ∀ key index, ∀ mount ∈ gained earlier later key index, step.OfKind brief mount.name
  mounted : ∀ key index, ∀ mount ∈ gained earlier later key index,
    mount.name ∈ (later.volumesAt key).map (·.name)

/-- A step that leaves the pods and the claims alone, and draws no name, has no effect. -/
theorem BindingStep.Effect.of_pods_eq {brief : List String} {step : BindingStep}
    {earlier later : Document} (inKind : earlier.InKind brief)
    (pods : later.pods = earlier.pods) (claims : later.claims = earlier.claims) :
    step.Effect brief [] earlier later where
  lasting := .of_pods_eq inKind pods claims
  kind key index mount gains := by
    rw [gained_of_pods_eq pods] at gains
    cases gains
  mounted key index mount gains := by
    rw [gained_of_pods_eq pods] at gains
    cases gains

/-- **What a pass makes of a document in kind**, if all names that it binds are of the kind of a
step. -/
theorem Plan.effect_bound {brief : List String} {step : BindingStep} {drawn : List Drawn}
    (workspaceId : String) {volumeOf : String → PodVolume} {choose : Chooser} {plan : Plan}
    (lasting : Document.Lasting brief drawn plan.document
      (plan.bound workspaceId choose volumeOf).document)
    (named : ∀ name, (volumeOf name).name = name) (inKind : plan.document.InKind brief)
    (kinds : ∀ binding ∈ plan.bindings choose, step.OfKind brief binding.name) :
    step.Effect brief drawn plan.document
      (plan.bound workspaceId choose volumeOf).document where
  lasting := lasting
  kind key index mount gains := by
    obtain ⟨binding, bound, -, -, rfl⟩ := (mem_gained_bound workspaceId volumeOf).1 gains
    exact kinds binding bound
  mounted key index mount gains :=
    exists_volume_of_mem_gained_bound workspaceId named (inKind.names key) gains

/-- No name is drawn between a state of a stream and itself. -/
theorem namesDrawn_self (stem : String) (draws : DrawStream) :
    namesDrawn stem draws draws = [] := by
  rw [namesDrawn, Nat.sub_self, Nat.zero_div]
  rfl

section

variable {δ : Type} [ClaimDirectory δ] {directory : δ} {brief : List String} {plan : Plan}

/-- A list of drawn names that are all of one kind. -/
theorem filter_brief_map (names : List String) (kind : Bool) :
    ((names.map fun name => (⟨name, kind⟩ : Drawn)).filter (·.brief)).map (·.name) =
      if kind then names else [] := by
  cases kind with
  | true => simp [List.filter_map, Function.comp_def]
  | false => simp [List.filter_map, Function.comp_def]

/-- Storage for the life of a pod is mounted under brief names. -/
theorem EmptyDirStrategy.effect_apply (strategy : EmptyDirStrategy) (identity : Identity)
    (inKind : plan.document.InKind brief)
    (tells : ∀ drawn ∈ (BindingStep.transient strategy identity).draws directory plan,
      (drawn.name ∈ brief ↔ drawn.brief = true)) :
    (BindingStep.transient strategy identity).Effect brief
      ((BindingStep.transient strategy identity).draws directory plan) plan.document
      ((BindingStep.transient strategy identity).apply directory plan).document := by
  have after : (BindingStep.transient strategy identity).apply directory plan =
      plan.bound identity.workspaceId strategy.choose PodVolume.emptyDir :=
    (strategy.start_provision identity plan).2
  have drawn : (BindingStep.transient strategy identity).draws directory plan =
      ((plan.bindings strategy.choose).map (·.name)).map (⟨·, true⟩) := by
    rw [strategy.map_name_bindings]
    show (namesDrawn _ _ (BindingStep.apply directory _ plan).draws).map _ = _
    rw [after]
    rfl
  rw [drawn] at tells ⊢
  rw [after]
  have isBrief : ∀ binding ∈ plan.bindings strategy.choose, binding.name ∈ brief :=
    fun binding bound => (tells ⟨binding.name, true⟩
      (List.mem_map_of_mem (List.mem_map_of_mem bound))).2 rfl
  have claims := strategy.claims_left plan
  refine Plan.effect_bound identity.workspaceId (Plan.lasting_bound identity.workspaceId
    (Plan.extends_bound identity.workspaceId _ strategy.frugal_choose) (fun _ => rfl) inKind
    (fun binding bound => ?_) (claims ▸ inKind.keyed) (claims ▸ inKind.claims) ?_)
    (fun _ => rfl) inKind isBrief
  · rw [volumeInKind, if_pos (isBrief binding bound)]
  · rw [filter_brief_map, if_pos rfl]
    refine List.filter_eq_self.2 fun name member => ?_
    obtain ⟨binding, bound, rfl⟩ := List.mem_map.1 member
    exact decide_eq_true (isBrief binding bound)

/-- Durable storage is mounted under other names: those of claims that are listed, that are
planned, or that are made under a name that was drawn for it. -/
theorem DurableStrategy.effect_apply (strategy : DurableStrategy) (identity : Identity)
    (inKind : plan.document.InKind brief)
    (unlisted : ∀ workspaceId listed,
      ClaimDirectory.listByLabel directory workspaceIdLabel workspaceId = .ok listed →
        ∀ claim ∈ listed, claim.name ∉ brief)
    (tells : ∀ drawn ∈ (BindingStep.durable strategy identity).draws directory plan,
      (drawn.name ∈ brief ↔ drawn.brief = true)) :
    (BindingStep.durable strategy identity).Effect brief
      ((BindingStep.durable strategy identity).draws directory plan) plan.document
      ((BindingStep.durable strategy identity).apply directory plan).document := by
  have acts := strategy.provision_actsAs directory identity
  have draws : (BindingStep.durable strategy identity).draws directory plan =
      (namesDrawn strategy.stem plan.draws ((BindingStep.durable strategy identity).apply
        directory plan).draws).map (⟨·, false⟩) := rfl
  have subject : (BindingStep.durable strategy identity).apply directory plan =
      ((Provider.durable strategy).provisioned directory identity.workspaceId plan).2 :=
    acts.subject_start plan
  rw [Provider.provisioned] at subject
  cases answers : ClaimDirectory.listByLabel directory workspaceIdLabel identity.workspaceId with
  | error fault =>
    rw [answers] at subject
    have nothing : (BindingStep.durable strategy identity).draws directory plan = [] := by
      rw [draws, subject]
      exact congrArg _ (namesDrawn_self strategy.stem plan.draws)
    rw [nothing, subject]
    exact .of_pods_eq inKind rfl rfl
  | ok listed =>
    rw [answers] at subject
    have after : (BindingStep.durable strategy identity).apply directory plan =
        strategy.pass identity.workspaceId listed plan := subject
    obtain ⟨issues, ledger, table, drawn⟩ :=
      strategy.exists_ledger_pass identity.workspaceId listed plan
    rw [draws, after, drawn] at tells ⊢
    obtain ⟨keyed, backed⟩ := (invariant_backed answers strategy).bindings inKind.keyed
    have keys : ∀ key ∈ (strategy.pass identity.workspaceId listed plan).document.claims.keys,
        key ∉ brief := by
      intro key isKey isBrief
      rw [table, mem_keys_issueAll] at isKey
      rcases isKey with made | planned
      · cases (tells ⟨key, false⟩ (List.mem_map_of_mem made)).1 isBrief
      · exact inKind.claims key planned isBrief
    have notBrief : ∀ binding ∈ plan.bindings (strategy.choose identity.workspaceId
        (existingClaims identity.workspaceId listed)), binding.name ∉ brief := by
      intro binding bound isBrief
      rcases backed binding bound with isKey | ⟨others, alsoAnswers, claim, isListed, -, named⟩
      · exact keys _ isKey isBrief
      · exact unlisted _ others alsoAnswers claim isListed (named ▸ isBrief)
    refine Plan.effect_bound identity.workspaceId (Plan.lasting_bound identity.workspaceId
      (Plan.extends_bound identity.workspaceId _ (strategy.frugal_choose _ _)) (fun _ => rfl)
      inKind (fun binding bound => ?_) keyed keys ?_) (fun _ => rfl) inKind notBrief
    · rw [volumeInKind, if_neg (notBrief binding bound)]
    · rw [filter_brief_map, if_neg Bool.false_ne_true]
      refine List.filter_eq_nil_iff.2 fun name member isBrief => ?_
      obtain ⟨binding, bound, rfl⟩ := List.mem_map.1 member
      exact notBrief binding bound (of_decide_eq_true isBrief)

/-- **What one step makes of a document in kind.** -/
theorem BindingStep.effect_apply (step : BindingStep) (inKind : plan.document.InKind brief)
    (unlisted : ∀ workspaceId listed,
      ClaimDirectory.listByLabel directory workspaceIdLabel workspaceId = .ok listed →
        ∀ claim ∈ listed, claim.name ∉ brief)
    (tells : ∀ drawn ∈ step.draws directory plan, (drawn.name ∈ brief ↔ drawn.brief = true)) :
    step.Effect brief (step.draws directory plan) plan.document
      (step.apply directory plan).document := by
  cases step with
  | transient strategy identity => exact strategy.effect_apply identity inKind tells
  | durable strategy identity => exact strategy.effect_apply identity inKind unlisted tells
  | redeclare machines => exact .of_pods_eq inKind rfl rfl

/-- **What a run makes of a document in kind.**  The kinds of all names that the run will draw
are fixed before it starts. -/
theorem lasting_runBindings (steps : List BindingStep) (inKind : plan.document.InKind brief)
    (unlisted : ∀ workspaceId listed,
      ClaimDirectory.listByLabel directory workspaceIdLabel workspaceId = .ok listed →
        ∀ claim ∈ listed, claim.name ∉ brief)
    (tells : ∀ drawn ∈ runDraws directory steps plan,
      (drawn.name ∈ brief ↔ drawn.brief = true)) :
    plan.document.Lasting brief (runDraws directory steps plan)
      (runBindings directory steps plan).document := by
  induction steps generalizing plan with
  | nil => exact .of_pods_eq inKind rfl rfl
  | cons step rest ih =>
    rw [runDraws, List.forall_mem_append] at tells
    have here := (step.effect_apply inKind unlisted tells.1).lasting
    exact here.trans (ih here.inKind tells.2)

/-- A run taken apart at a step: what the step makes of the document, and that it lasts. -/
theorem effect_of_split {before after : List BindingStep} {step : BindingStep}
    (inKind : plan.document.InKind brief)
    (unlisted : ∀ workspaceId listed,
      ClaimDirectory.listByLabel directory workspaceIdLabel workspaceId = .ok listed →
        ∀ claim ∈ listed, claim.name ∉ brief)
    (tells : ∀ drawn ∈ runDraws directory (before ++ step :: after) plan,
      (drawn.name ∈ brief ↔ drawn.brief = true)) :
    let earlier := runBindings directory before plan
    let later := step.apply directory earlier
    step.Effect brief (step.draws directory earlier) earlier.document later.document ∧
      later.document.Lasting brief (runDraws directory after later)
        (runBindings directory (before ++ step :: after) plan).document := by
  intro earlier later
  rw [runDraws_append, runDraws, List.forall_mem_append, List.forall_mem_append] at tells
  obtain ⟨tellsBefore, tellsHere, tellsAfter⟩ := tells
  have untilThen := lasting_runBindings before inKind unlisted tellsBefore
  have effect := step.effect_apply untilThen.inKind unlisted tellsHere
  rw [runBindings_append]
  exact ⟨effect, lasting_runBindings after effect.lasting.inKind unlisted tellsAfter⟩

end

/-- What a step has mounted is provided for at the end, if that lasts and no brief name is
mounted twice. -/
theorem BindingStep.Effect.provides {brief : List String} {step : BindingStep}
    {drawn others : List Drawn} {earlier later final : Document}
    (effect : step.Effect brief drawn earlier later) (lasts : later.Lasting brief others final)
    (once : (final.mountedAmong brief).Nodup) {key : String} {index : Nat} {mount : VolumeMount}
    (gains : mount ∈ gained earlier later key index) :
    mount ∈ final.mountsAt key index ∧ step.Provides final key mount := by
  have here : mount ∈ final.mountsAt key index :=
    (lasts.adds.mounts key index).subset (List.mem_of_mem_drop gains)
  have has : mount.name ∈ (final.volumesAt key).map (·.name) :=
    ((lasts.adds.volumes key).map _).subset (effect.mounted key index mount gains)
  have volume := lasts.inKind.filter_volumesAt has
  have kind := effect.kind key index mount gains
  refine ⟨here, ?_⟩
  cases step with
  | transient strategy identity =>
    have isBrief : mount.name ∈ brief := kind
    rw [volumeInKind, if_pos isBrief] at volume
    exact ⟨volume, Document.filter_allMounts once (Document.mem_allMounts here) isBrief⟩
  | durable strategy identity =>
    have notBrief : mount.name ∉ brief := kind
    rw [volumeInKind, if_neg notBrief] at volume
    exact volume
  | redeclare machines => exact kind

/-! ## The theorem -/

/-- The names that are drawn for storage for the life of a pod. -/
def briefNames (drawn : List Drawn) : List String := (drawn.filter (·.brief)).map (·.name)

/-- If the names differ, each is of one kind. -/
theorem mem_briefNames_iff {drawn : List Drawn} (differ : (drawn.map (·.name)).Nodup) :
    ∀ one ∈ drawn, (one.name ∈ briefNames drawn ↔ one.brief = true) := by
  intro one member
  constructor
  · intro isBrief
    obtain ⟨other, isOther, same⟩ := List.mem_map.1 isBrief
    obtain ⟨alsoDrawn, kind⟩ := List.mem_filter.1 isOther
    rw [← List.inj_on_of_nodup_map differ alsoDrawn member same]
    exact kind
  · exact fun kind => List.mem_map_of_mem (List.mem_filter.2 ⟨member, kind⟩)

/-- A document without volumes is in kind, if no claim that it plans has a brief name. -/
theorem Document.InKind.of_bare {document : Document} {brief : List String}
    (bare : ∀ key, document.volumesAt key = []) (keyed : Keyed document.claims)
    (unused : ∀ name ∈ brief, NewTo document.claims name) : document.InKind brief where
  volumes key volume member := by
    rw [bare] at member
    cases member
  names key := by
    rw [bare]
    exact List.nodup_nil
  keyed := keyed
  claims key isKey isBrief :=
    StringMap.notMem_keys_iff.2 (unused key isBrief).get?_eq_none isKey

/-- **Every mount is backed by the kind of storage that its pass has chosen.**  Take any document
whose pods have no volumes and whose claims are under their own names, any directory, and any
steps: passes of both strategies, with any settings and for any workspaces, and between them
new declarations of the machines.  Assume that the names which are drawn in the run differ, and
are not used in the document or the directory.

Then at the end every mount that was added by a step is still where it was added.  One that was
added as storage for the life of a pod has in its pod one volume of its name, which is of that
kind, and there is no other mount of the name in the document.  One that was added as durable
storage has in its pod one volume of its name, which stands for the claim of that name and can
be written to. -/
theorem mounts_backed_in_kind {δ : Type} [ClaimDirectory δ] (directory : δ)
    (steps : List BindingStep) (plan : Plan)
    (bare : ∀ key, plan.document.volumesAt key = []) (keyed : Keyed plan.document.claims)
    (new : NewNames [] plan.document ((runDraws directory steps plan).map (·.name)))
    (unlisted : ∀ workspaceId listed,
      ClaimDirectory.listByLabel directory workspaceIdLabel workspaceId = .ok listed →
        ∀ claim ∈ listed, claim.name ∉ (runDraws directory steps plan).map (·.name))
    (before after : List BindingStep) (step : BindingStep)
    (split : steps = before ++ step :: after) :
    let earlier := runBindings directory before plan
    let final := (runBindings directory steps plan).document
    ∀ key index,
      ∀ mount ∈ gained earlier.document (step.apply directory earlier).document key index,
        mount ∈ final.mountsAt key index ∧ step.Provides final key mount := by
  intro earlier final key index mount gains
  subst split
  let brief := briefNames (runDraws directory (before ++ step :: after) plan)
  have tells := mem_briefNames_iff new.differ
  have unused (name : String) (isBrief : name ∈ brief) : Unused [] plan.document name :=
    new.unused name ((List.filter_sublist.map _).subset isBrief)
  have notListed (workspaceId : String) (listed : List Claim)
      (answers : ClaimDirectory.listByLabel directory workspaceIdLabel workspaceId = .ok listed)
      (claim : Claim) (isListed : claim ∈ listed) : claim.name ∉ brief := fun isBrief =>
    unlisted workspaceId listed answers claim isListed ((List.filter_sublist.map _).subset isBrief)
  have inKind : plan.document.InKind brief :=
    .of_bare bare keyed fun name isBrief => (unused name isBrief).claims
  have once : (final.mountedAmong brief).Nodup := by
    have whole := lasting_runBindings (before ++ step :: after) inKind notListed tells
    have nothing : plan.document.mountedAmong brief = [] :=
      Document.mountedAmong_eq_nil fun name isBrief => (unused name isBrief).mounts
    refine whole.briefly.symm.nodup ?_
    rw [nothing, List.nil_append]
    exact new.differ.sublist (List.filter_sublist.map _)
  obtain ⟨effect, lasts⟩ := effect_of_split inKind notListed tells
  exact effect.provides lasts once gains

/-- The pod of the document with one volume has no volume yet. -/
theorem Document.volumesAt_single (key : String) : Document.single.volumesAt key = [] := by
  cases found : Document.single.pods.get? key with
  | none => exact volumesAt_of_absent found
  | some pod =>
    obtain ⟨rfl, rfl⟩ := Prod.mk.inj (List.mem_singleton.1 (StringMap.get?_eq_some_iff.1 found))
    exact volumesAt_eq found

theorem Document.mountNamesAt_single (key : String) (index : Nat) :
    Document.single.mountNamesAt key index = [] := by
  have bare : Document.single.mountNamesAt key index ∈ [[]] := by
    refine forall_mountNamesAt List.mem_cons_self (fun entry member container inside => ?_)
      key index
    obtain rfl := List.mem_singleton.1 member
    obtain rfl := List.mem_singleton.1 inside
    exact List.mem_cons_self
  exact List.mem_singleton.1 bare

/-- A volume is bound for the life of the pod; then the machine declares another, and that is
bound durably. -/
theorem mounts_backed_in_kind_redeclared :
    let machine := (Machine.withVolume {} "data" "/data").withVolume "logs" "/logs"
    let first : BindingStep := .transient ⟨"volume"⟩ { workspaceId := "ws" }
    let last : BindingStep := .durable .standard { workspaceId := "ws" }
    let steps := [first, .redeclare (.insert .empty "web/app" machine), last]
    let final := (runBindings ({} : ClaimTable) steps ⟨.single, .cycling #[0]⟩).document
    let brief : VolumeMount := ⟨"volume-aaaaaaaa", "/data", some "ws/data"⟩
    let lasting : VolumeMount := ⟨"claim-workspace-aaaaaaaa", "/logs", some "ws/logs/web/app"⟩
    final.mountsAt "web" 0 = [brief, lasting] ∧ first.Provides final "web" brief ∧
      last.Provides final "web" lasting := by
  intro machine first last steps final brief lasting
  have drawn : (runDraws ({} : ClaimTable) steps ⟨.single, .cycling #[0]⟩).map (·.name) =
      ["volume-aaaaaaaa", "claim-workspace-aaaaaaaa"] := by
    decide
  have new : NewNames [] .single
      ((runDraws ({} : ClaimTable) steps ⟨.single, .cycling #[0]⟩).map (·.name)) := by
    rw [drawn]
    refine ⟨by decide, fun name _ => ⟨fun key index => ?_, fun _ _ found => ?_, fun _ listed => ?_⟩⟩
    · rw [Document.mountNamesAt_single]
      exact List.not_mem_nil
    · cases found
    · cases listed
  have unlisted (workspaceId : String) (listed : List Claim)
      (answers : ClaimDirectory.listByLabel ({} : ClaimTable) workspaceIdLabel workspaceId =
        .ok listed) (claim : Claim) (isListed : claim ∈ listed) :
      claim.name ∉ (runDraws ({} : ClaimTable) steps ⟨.single, .cycling #[0]⟩).map (·.name) := by
    obtain rfl := Except.ok.inj answers
    cases isListed
  have provided := mounts_backed_in_kind ({} : ClaimTable) steps ⟨.single, .cycling #[0]⟩
    Document.volumesAt_single keyed_empty new unlisted
  have firstly := provided [] [.redeclare (.insert .empty "web/app" machine), last] first rfl
  have lastly := provided [first, .redeclare (.insert .empty "web/app" machine)] [] last rfl
  exact ⟨by decide, (firstly "web" 0 brief (by decide)).2, (lastly "web" 0 lasting (by decide)).2⟩

end WorkspaceVolumes
