import WorkspaceVolumes.Proofs.Retention

/-!
# Whether a container mounts an object twice

A container has at most one mount at a path, because that is what the additions are guarded
by.  Nothing guards the names: a container may mount one object at several paths, and a pass
makes such a container out of one that mounts every object once, if the claim that it finds
for a volume is mounted already, at a path that the volume had before.

**Exactly when.**  Objects that are made in a pass are new, so storage for the life of a pod
is never mounted twice.  A durable pass mounts nothing twice just if the claims that it finds
for the volumes of a container are not mounted in it, and differ
(`provision_mounts_once_iff`).

## Main definitions

* `Document.mountNamesAt`: the names that a container mounts.
* `Document.WantsAt`: a volume that a container is still to get.
* `Unused`, `NewNames`: names that occur nowhere, and drawn names of this kind.
* `FindsApart`: a container in which found claims get in the way of nothing.

## Main statements

* `Plan.mountNamesAt_bound`, `Plan.nodup_volumesAt`: what a pass mounts in a container, and
  that it mounts no volume twice.
* `provision_mounts_once_iff`: when a pass mounts every object once.
* `not_provision_mounts_once`: a claim that is mounted twice.
-/

namespace WorkspaceVolumes

/-! ## Containers -/

namespace Document

/-- The names of what a container mounts. -/
def mountNamesAt (document : Document) (key : String) (index : Nat) : List String :=
  (document.mountsAt key index).map (·.name)

/-- Whether a container is still to get a volume: a path of it is for the volume, and is not
bound. -/
def WantsAt (document : Document) (key : String) (index : Nat) (volumeName : String) : Prop :=
  ∃ pod path, document.pods.get? key = some pod ∧ pod.binds index path = false ∧
    document.volumeAt? key index path = some volumeName

theorem wantsAt_iff {document : Document} {key : String} {index : Nat} {volumeName : String} :
    document.WantsAt key index volumeName ↔ ∃ site ∈ document.openings,
      site.pod = key ∧ site.index = index ∧ site.declaration.volumeName = volumeName := by
  constructor
  · rintro ⟨pod, path, found, free, declared⟩
    obtain ⟨site, isOpen, atKey, atIndex, -, volume⟩ := exists_mem_openings found free declared
    exact ⟨site, isOpen, atKey, atIndex, volume⟩
  · rintro ⟨site, isOpen, rfl, rfl, rfl⟩
    obtain ⟨pod, found, free, -⟩ := mem_openings_iff.1 isOpen
    exact ⟨pod, site.declaration.path, found, free, volumeAt?_of_mem_openings isOpen⟩

/-- What holds of the names in every container can be looked up in the pods. -/
theorem forall_mountNamesAt {document : Document} {holds : List String → Prop}
    (nothing : holds [])
    (all : ∀ entry ∈ document.pods.entries, ∀ container ∈ entry.2.containers,
      holds (container.mounts.map (·.name))) (key : String) (index : Nat) :
    holds (document.mountNamesAt key index) := by
  rw [mountNamesAt]
  cases found : document.pods.get? key with
  | none => rwa [mountsAt_of_absent found]
  | some pod =>
    rw [mountsAt_eq found]
    cases here : pod.containers[index]? with
    | none => exact nothing
    | some container =>
      exact all (key, pod) (StringMap.get?_eq_some_iff.1 found) container
        (List.mem_of_getElem? here)

/-- A volume of a container is for one path. -/
theorem path_eq_of_mem_openings {document : Document} {site other : Site}
    (isOpen : site ∈ document.openings) (alsoOpen : other ∈ document.openings)
    (pod : site.pod = other.pod) (index : site.index = other.index)
    (volume : site.declaration.volumeName = other.declaration.volumeName) :
    site.declaration.path = other.declaration.path := by
  obtain ⟨_, found, -, first⟩ := mem_openings_iff.1 isOpen
  obtain ⟨_, again, -, second⟩ := mem_openings_iff.1 alsoOpen
  rw [pod] at found
  obtain rfl := Option.some.inj (found.symm.trans again)
  obtain ⟨container, machine, here, named, declares, path⟩ :=
    Pod.declared_mem_stops_iff.1 (List.mem_of_find?_eq_some first)
  obtain ⟨_, _, there, alsoNamed, alsoDeclares, otherPath⟩ :=
    Pod.declared_mem_stops_iff.1 (List.mem_of_find?_eq_some second)
  rw [index] at here
  obtain rfl := Option.some.inj (here.symm.trans there)
  rw [named] at declares
  rw [alsoNamed] at alsoDeclares
  obtain rfl := Option.some.inj (declares.symm.trans alsoDeclares)
  rw [volume] at path
  exact Option.some.inj (path.symm.trans otherPath)

end Document

/-! ## What a pass mounts in a container -/

/-- The bindings for one container of a document. -/
def bindingsAt (key : String) (index : Nat) (bindings : List Binding) : List Binding :=
  (bindingsIn key bindings).filter (·.site.index = index)

theorem mem_bindingsAt {key : String} {index : Nat} {bindings : List Binding}
    {binding : Binding} : binding ∈ bindingsAt key index bindings ↔
      binding ∈ bindings ∧ binding.site.pod = key ∧ binding.site.index = index := by
  rw [bindingsAt, List.mem_filter, mem_bindingsIn, decide_eq_true_iff, and_assoc]

theorem sublist_bindingsAt (key : String) (index : Nat) (bindings : List Binding) :
    (bindingsAt key index bindings).Sublist bindings :=
  List.filter_sublist.trans List.filter_sublist

namespace Plan

variable {workspaceId : String} {volumeOf : String → PodVolume} {choose : Chooser}
  {plan : Plan} {key : String} {index : Nat}

/-- After a pass a container mounts what it did and, behind that, what it was bound to. -/
theorem mountNamesAt_bound :
    (plan.bound workspaceId choose volumeOf).document.mountNamesAt key index =
      plan.document.mountNamesAt key index ++
        (bindingsAt key index (plan.bindings choose)).map (·.name) := by
  rw [Document.mountNamesAt, mountsAt_bound, List.map_append, List.map_map]
  rfl

/-- A pass binds no volume twice in a container. -/
theorem nodup_volumesAt (plan : Plan) (choose : Chooser) (key : String) (index : Nat) :
    ((bindingsAt key index (plan.bindings choose)).map
      (·.site.declaration.volumeName)).Nodup := by
  have apart := (pairwise_bindings choose plan).sublist (sublist_bindingsAt key index _)
  refine List.pairwise_map.2 (apart.imp_of_mem ?_)
  intro earlier later isEarlier isLater different same
  obtain ⟨bound, atKey, atIndex⟩ := mem_bindingsAt.1 isEarlier
  obtain ⟨alsoBound, alsoAtKey, alsoAtIndex⟩ := mem_bindingsAt.1 isLater
  have pod := atKey.trans alsoAtKey.symm
  have place := atIndex.trans alsoAtIndex.symm
  exact different pod place (Document.path_eq_of_mem_openings (site_mem_openings bound)
    (site_mem_openings alsoBound) pod place same)

/-- A pass binds a container for the volumes that it is still to get. -/
theorem wantsAt_iff_exists_binding {volumeName : String} :
    plan.document.WantsAt key index volumeName ↔
      ∃ binding ∈ bindingsAt key index (plan.bindings choose),
        binding.site.declaration.volumeName = volumeName := by
  rw [Document.wantsAt_iff]
  constructor
  · rintro ⟨site, isOpen, atKey, atIndex, volume⟩
    obtain ⟨binding, bound, rfl⟩ := choose.exists_mem_allot plan.stock isOpen
    exact ⟨binding, mem_bindingsAt.2 ⟨bound, atKey, atIndex⟩, volume⟩
  · rintro ⟨binding, member, volume⟩
    obtain ⟨bound, atKey, atIndex⟩ := mem_bindingsAt.1 member
    exact ⟨binding.site, site_mem_openings bound, atKey, atIndex, volume⟩

/-- A container mounts every object once after a pass if it did before, is bound to nothing
that it mounts, and not to one object for two volumes. -/
theorem nodup_mountNamesAt_bound_iff
    (distinct : (plan.document.mountNamesAt key index).Nodup) :
    ((plan.bound workspaceId choose volumeOf).document.mountNamesAt key index).Nodup ↔
      (∀ binding ∈ bindingsAt key index (plan.bindings choose),
        binding.name ∉ plan.document.mountNamesAt key index) ∧
      ∀ binding ∈ bindingsAt key index (plan.bindings choose),
        ∀ other ∈ bindingsAt key index (plan.bindings choose), binding.name = other.name →
          binding.site.declaration.volumeName = other.site.declaration.volumeName := by
  have volumes := plan.nodup_volumesAt choose key index
  rw [mountNamesAt_bound, List.nodup_append]
  constructor
  · rintro ⟨-, names, disjoint⟩
    refine ⟨fun binding member mounted => ?_, fun binding member other alsoMember same => ?_⟩
    · exact disjoint _ mounted _ (List.mem_map_of_mem member) rfl
    · rw [List.inj_on_of_nodup_map names member alsoMember same]
  · rintro ⟨unmounted, differ⟩
    refine ⟨distinct, (volumes.of_map _).map_on fun binding member other alsoMember same => ?_, ?_⟩
    · exact List.inj_on_of_nodup_map volumes member alsoMember
        (differ binding member other alsoMember same)
    · rintro name mounted _ isBound rfl
      obtain ⟨binding, member, rfl⟩ := List.mem_map.1 isBound
      exact unmounted binding member mounted

end Plan

/-! ## New names -/

/-- A name that no container of a document mounts, and that no claim has, be it planned or
listed. -/
structure Unused (listed : List Claim) (document : Document) (name : String) : Prop where
  mounts : ∀ key index, name ∉ document.mountNamesAt key index
  claims : NewTo document.claims name
  listed : ∀ claim ∈ listed, claim.name ≠ name

/-- Names that differ from each other, and that are not used. -/
structure NewNames (listed : List Claim) (document : Document) (names : List String) : Prop
    where
  differ : names.Nodup
  unused : ∀ name ∈ names, Unused listed document name

/-- A claim that is found for a volume has a name that is used. -/
theorem Unused.found?_ne {listed : List Claim} {document : Document} {name : String}
    (unused : Unused listed document name) (workspaceId volumeName : String) :
    DurableStrategy.found? workspaceId listed document.claims volumeName ≠ some name := by
  intro found
  rcases Option.or_eq_some_iff.1 found with isListed | ⟨-, isPlanned⟩
  · obtain ⟨claim, member, -, -, named⟩ := DurableStrategy.exists_of_get?_existingClaims isListed
    exact unused.listed claim member named
  · obtain ⟨claim, member, -, named⟩ := exists_of_get?_claimsByVolume isPlanned
    obtain ⟨key, there⟩ := StringMap.mem_values_iff.1 member
    exact (unused.claims key claim there).2 named

/-! ## Storage for the life of a pod -/

/-- Storage for the life of a pod is mounted under new names, each of them once. -/
theorem EmptyDirStrategy.nodup_mountNamesAt_bound (strategy : EmptyDirStrategy) {plan : Plan}
    (workspaceId : String) (volumeOf : String → PodVolume) {listed : List Claim}
    (new : NewNames listed plan.document
      (namesDrawn strategy.stem plan.draws (plan.left strategy.choose).draws))
    {key : String} {index : Nat} (distinct : (plan.document.mountNamesAt key index).Nodup) :
    ((plan.bound workspaceId strategy.choose volumeOf).document.mountNamesAt
      key index).Nodup := by
  rw [← strategy.map_name_bindings] at new
  refine (Plan.nodup_mountNamesAt_bound_iff distinct).2
    ⟨fun binding member => ?_, fun binding member other alsoMember same => ?_⟩
  · have bound := (mem_bindingsAt.1 member).1
    exact (new.unused binding.name (List.mem_map_of_mem bound)).mounts key index
  · have bound := (mem_bindingsAt.1 member).1
    have alsoBound := (mem_bindingsAt.1 alsoMember).1
    rw [List.inj_on_of_nodup_map new.differ bound alsoBound same]

/-! ## Durable storage -/

/-- A container that mounts none of the claims that are found for the volumes it is still to
get, and for which no claim is found twice. -/
structure FindsApart (workspaceId : String) (listed : List Claim) (document : Document)
    (key : String) (index : Nat) : Prop where
  unmounted : ∀ volumeName name, document.WantsAt key index volumeName →
    DurableStrategy.found? workspaceId listed document.claims volumeName = some name →
      name ∉ document.mountNamesAt key index
  differ : ∀ volumeName other name, document.WantsAt key index volumeName →
    document.WantsAt key index other →
    DurableStrategy.found? workspaceId listed document.claims volumeName = some name →
    DurableStrategy.found? workspaceId listed document.claims other = some name →
      volumeName = other

/-- **Exactly when a durable pass mounts a claim twice in a container**: where a claim that
is found is in the way, for one that is made is new. -/
theorem DurableStrategy.nodup_mountNamesAt_pass_iff (strategy : DurableStrategy)
    {workspaceId : String} {listed : List Claim} {plan : Plan}
    (new : NewNames listed plan.document (namesDrawn strategy.stem plan.draws
      (strategy.pass workspaceId listed plan).draws))
    {key : String} {index : Nat} (distinct : (plan.document.mountNamesAt key index).Nodup) :
    ((strategy.pass workspaceId listed plan).document.mountNamesAt key index).Nodup ↔
      FindsApart workspaceId listed plan.document key index := by
  obtain ⟨issues, ledger, -, drawn⟩ := strategy.exists_ledger_pass workspaceId listed plan
  rw [drawn] at new
  have unused (issue : Issue) (made : issue ∈ issues) : Unused listed plan.document issue.name :=
    new.unused issue.name (List.mem_map_of_mem made)
  have fresh : ∀ issue ∈ issues, plan.document.claims.get? issue.name = none :=
    fun issue made => (unused issue made).claims.get?_eq_none
  have origin (binding : Binding) (member : binding ∈ bindingsAt key index (plan.bindings
      (strategy.choose workspaceId (existingClaims workspaceId listed)))) :=
    (ledger.origin fresh binding (mem_bindingsAt.1 member).1).found_or_made
  -- The volume of a binding for which a claim is found has none made for it.
  have named_of_found {binding : Binding} (member : binding ∈ bindingsAt key index
      (plan.bindings (strategy.choose workspaceId (existingClaims workspaceId listed))))
      {name : String} (found : found? workspaceId listed plan.document.claims
        binding.site.declaration.volumeName = some name) : binding.name = name := by
    rcases origin binding member with other | made
    · exact Option.some.inj (other.symm.trans found)
    · cases (ledger.found?_eq_none fresh made).symm.trans found
  have wanted {binding : Binding} (member : binding ∈ bindingsAt key index (plan.bindings
      (strategy.choose workspaceId (existingClaims workspaceId listed)))) :
      plan.document.WantsAt key index binding.site.declaration.volumeName :=
    Plan.wantsAt_iff_exists_binding.2 ⟨binding, member, rfl⟩
  refine (Plan.nodup_mountNamesAt_bound_iff distinct).trans ⟨?_, ?_⟩
  · rintro ⟨unmounted, differ⟩
    constructor
    · intro volumeName name wants found
      obtain ⟨binding, member, rfl⟩ := Plan.wantsAt_iff_exists_binding.1 wants
      exact named_of_found member found ▸ unmounted binding member
    · intro volumeName otherVolume name wants alsoWants found alsoFound
      obtain ⟨binding, member, rfl⟩ := Plan.wantsAt_iff_exists_binding.1 wants
      obtain ⟨other, alsoMember, rfl⟩ := Plan.wantsAt_iff_exists_binding.1 alsoWants
      exact differ binding member other alsoMember
        ((named_of_found member found).trans (named_of_found alsoMember alsoFound).symm)
  · rintro ⟨unmounted, differ⟩
    refine ⟨fun binding member => ?_, fun binding member other alsoMember same => ?_⟩
    · rcases origin binding member with found | made
      · exact unmounted _ _ (wanted member) found
      · exact (unused _ made).mounts key index
    · rcases origin binding member with found | made <;>
        rcases origin other alsoMember with alsoFound | alsoMade
      case inl.inl =>
        rw [← same] at alsoFound
        exact differ _ _ _ (wanted member) (wanted alsoMember) found alsoFound
      case inl.inr =>
        rw [same] at found
        exact absurd found ((unused _ alsoMade).found?_ne workspaceId _)
      case inr.inl =>
        rw [← same] at alsoFound
        exact absurd alsoFound ((unused _ made).found?_ne workspaceId _)
      case inr.inr =>
        exact congrArg Issue.volumeName (List.inj_on_of_nodup_map new.differ made alsoMade same)

/-! ## The theorem -/

/-- **Exactly when a pass mounts every object once in every container** of a document whose
containers do so.  Storage for the life of a pod is new, and needs nothing else.  A durable
pass needs that the claims which are found for the volumes of a container are not mounted in
it, and differ. -/
theorem provision_mounts_once_iff {δ : Type} [ClaimDirectory δ] (directory : δ)
    (transient : EmptyDirStrategy) (durable : DurableStrategy) (identity : Identity)
    (plan : Plan) (distinct : ∀ key index, (plan.document.mountNamesAt key index).Nodup) :
    let brief := (transient.provision identity).start plan
    let lasting := (durable.provision directory identity).start plan
    (brief.outcome = .ok () ∧
      (NewNames [] plan.document
          (namesDrawn transient.stem plan.draws brief.subject.draws) →
        ∀ key index, (brief.subject.document.mountNamesAt key index).Nodup)) ∧
    ∀ listed : List Claim,
      ClaimDirectory.listByLabel directory workspaceIdLabel identity.workspaceId =
        .ok listed →
      lasting.outcome = .ok () ∧
        (NewNames listed plan.document
            (namesDrawn durable.stem plan.draws lasting.subject.draws) →
          ∀ key index, ((lasting.subject.document.mountNamesAt key index).Nodup ↔
            FindsApart identity.workspaceId listed plan.document key index)) := by
  intro brief lasting
  constructor
  · have acts := transient.provision_actsAs identity
    have after : brief.subject =
        plan.bound identity.workspaceId transient.choose PodVolume.emptyDir :=
      acts.subject_start plan
    refine ⟨acts.outcome_start plan, ?_⟩
    rw [after]
    exact fun new key index =>
      transient.nodup_mountNamesAt_bound identity.workspaceId _ new (distinct key index)
  · intro listed answers
    have ⟨succeeds, after⟩ := DurableStrategy.start_provision_of_listed answers durable plan
    refine ⟨succeeds, ?_⟩
    rw [after]
    exact fun new key index => durable.nodup_mountNamesAt_pass_iff new (distinct key index)

/-- A document whose container mounts a claim at a path at which no machine declares a volume. -/
def Document.moved (machines : StringMap Machine) (name : String) : Document :=
  let mount : VolumeMount := { name, mountPath := "/old", subPath := some "ws/data" }
  let pod : Pod :=
    { metadata := { name := "web" }, containers := [{ name := "app", mounts := [mount] }],
      volumes := [.claim name] }
  { empty with pods := .insert .empty "web" pod, machines }

/-- Where the document has a container, that mounts one object. -/
theorem Document.mem_mountNamesAt_moved (machines : StringMap Machine) (name key : String)
    (index : Nat) : (Document.moved machines name).mountNamesAt key index ∈ [[], [name]] := by
  refine forall_mountNamesAt List.mem_cons_self (fun entry member container inside => ?_) key index
  obtain rfl := List.mem_singleton.1 member
  obtain rfl := List.mem_singleton.1 inside
  exact List.mem_cons_of_mem _ List.mem_cons_self

theorem Document.nodup_mountNamesAt_moved (machines : StringMap Machine) (name key : String)
    (index : Nat) : ((Document.moved machines name).mountNamesAt key index).Nodup := by
  rcases List.mem_pair.1 (mem_mountNamesAt_moved machines name key index) with names | names <;>
    simp [names]

/-- The claim that is found for one volume is not the one that the container mounts, and that of
another volume is made. -/
theorem provision_mounts_once_iff_moved :
    let document := Document.moved Document.pair.machines "other"
    let directory :=
      ({} : ClaimTable).insert (DurableStrategy.standard.newClaim "ws" "data" "kept")
    let ending := (DurableStrategy.standard.provision directory { workspaceId := "ws" }).start
      ⟨document, .cycling #[0]⟩
    ending.outcome = .ok () ∧
      namesDrawn DurableStrategy.standard.stem (.cycling #[0]) ending.subject.draws =
        ["claim-workspace-aaaaaaaa"] ∧
      ending.subject.document.mountNamesAt "web" 0 =
        ["other", "kept", "claim-workspace-aaaaaaaa"] ∧
      ∀ key index, (ending.subject.document.mountNamesAt key index).Nodup := by
  intro document directory ending
  let listed := [DurableStrategy.standard.newClaim "ws" "data" "kept"]
  have ⟨_, durably⟩ := provision_mounts_once_iff directory ⟨"volume"⟩ .standard
    { workspaceId := "ws" } ⟨document, .cycling #[0]⟩ (Document.nodup_mountNamesAt_moved _ "other")
  have ⟨succeeds, exactly⟩ := durably listed rfl
  have drawn : namesDrawn DurableStrategy.standard.stem (.cycling #[0]) ending.subject.draws =
      ["claim-workspace-aaaaaaaa"] := by
    decide
  have mounted (key : String) (index : Nat) : document.mountNamesAt key index = [] ∨
      document.mountNamesAt key index = ["other"] :=
    List.mem_pair.1 (Document.mem_mountNamesAt_moved _ "other" key index)
  have found {volumeName name : String}
      (isFound : DurableStrategy.found? "ws" listed document.claims volumeName = some name) :
      volumeName = "data" ∧ name = "kept" := by
    rcases Option.or_eq_some_iff.1 isFound with isListed | ⟨-, isPlanned⟩
    · obtain ⟨claim, member, -, volume, rfl⟩ :=
        DurableStrategy.exists_of_get?_existingClaims isListed
      obtain rfl := List.mem_singleton.1 member
      exact ⟨(DurableStrategy.volumeName_eq_of_newClaim volume).symm, rfl⟩
    · obtain ⟨claim, member, -⟩ := exists_of_get?_claimsByVolume isPlanned
      exact absurd member List.not_mem_nil
  refine ⟨succeeds, drawn, by decide, fun key index => (exactly ?_ key index).2 ⟨?_, ?_⟩⟩
  · rw [show namesDrawn _ _ _ = _ from drawn]
    refine ⟨List.nodup_singleton _, List.forall_mem_singleton.2 ⟨fun key index => ?_, ?_, ?_⟩⟩
    · rcases mounted key index with names | names <;> simp [names]
    · intro key claim there
      cases there
    · exact List.forall_mem_singleton.2 (by decide)
  · intro volumeName name _ isFound
    obtain ⟨-, rfl⟩ := found isFound
    rcases mounted key index with names | names <;> simp [names]
  · intro volumeName other name _ _ isFound alsoFound
    rw [(found isFound).1, (found alsoFound).1]

/-- A pass can mount a claim a second time in a container, though it draws no name: the claim
that is listed for a volume whose path has changed. -/
theorem not_provision_mounts_once :
    ¬ ∀ (directory : ClaimTable) (strategy : DurableStrategy) (identity : Identity)
      (plan : Plan),
      (∀ key index, (plan.document.mountNamesAt key index).Nodup) →
      ((strategy.provision directory identity).start plan).outcome = .ok () →
      namesDrawn strategy.stem plan.draws
        ((strategy.provision directory identity).start plan).subject.draws = [] →
      ∀ key index, (((strategy.provision directory identity).start
        plan).subject.document.mountNamesAt key index).Nodup := by
  intro always
  let directory :=
    ({} : ClaimTable).insert (DurableStrategy.standard.newClaim "ws" "data" "kept")
  have once := always directory .standard { workspaceId := "ws" }
    ⟨.moved Document.single.machines "kept", .cycling #[0]⟩
    (Document.nodup_mountNamesAt_moved _ "kept") rfl (by decide) "web" 0
  exact absurd once (by decide)

end WorkspaceVolumes
