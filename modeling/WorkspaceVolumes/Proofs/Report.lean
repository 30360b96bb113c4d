import Mathlib.Algebra.Order.BigOperators.Group.List
import Mathlib.Algebra.Order.Group.Nat
import Mathlib.Data.List.Perm.Basic
import WorkspaceVolumes.Proofs.Absorption
import WorkspaceVolumes.Proofs.Ledger

/-!
# What a report says is what has happened

A report is made from the sizes of two documents and from their sub-paths.  Sizes alone do
not tell whether anything has changed: a claim that takes the place of another leaves the
number of claims as it was.  They do here, because nothing is ever taken away, and because a
pass changes claims and volumes only where it also adds a mount.

**One mount for each choice.**  Every choice of a pass becomes a mount.  It makes at most one
claim and at most one volume, so neither of these counts can go beyond the count of mounts;
and where no mount has been added nothing was open, and the pass has done nothing.

**Names that collide.**  All this holds whatever names are drawn.  A claim under a name that
is taken is not counted as a new one, by the report or by its keys.

## Main definitions

* `Document.places`: the containers of a document.
* `mountsGained`, `volumesGained`: all mounts and all volumes that were added.
* `Document.Extends`: a document with nothing taken away.
* `Document.Grows`: what a pass makes of a document, in numbers.
* `ReconcileReport.Exact`: a report that says what has happened.

## Main statements

* `Plan.grows_bound`: what a pass adds, in numbers.
* `report_exact`: the report of a run is exact.
-/

namespace WorkspaceVolumes

/-! ## Lists that are put together -/

section

variable {α β : Type}

/-- What the elements at all places have is what all elements have. -/
theorem flatMap_range_getElem? (parts : α → List β) (items : List α) :
    ((List.range items.length).flatMap fun index => (items[index]?.map parts).getD []) =
      items.flatMap parts := by
  induction items with
  | nil => rfl
  | cons item rest ih =>
    rw [List.length_cons, List.range_succ_eq_map, List.flatMap_cons, List.flatMap_map,
      List.flatMap_cons, ← ih]
    rfl

theorem length_flatMap_append (front back : α → List β) (items : List α) :
    (items.flatMap fun item => front item ++ back item).length =
      (items.flatMap front).length + (items.flatMap back).length := by
  rw [← (List.flatMap_append_perm items front back).length_eq, List.length_append]

/-- Items that are sorted into bins, of which no two are equal and none is missing, are the
items. -/
theorem perm_flatMap_filter [DecidableEq β] {key : α → β} {bins : List β} {items : List α}
    (distinct : bins.Nodup) (covered : ∀ item ∈ items, key item ∈ bins) :
    (bins.flatMap fun bin => items.filter (key · = bin)).Perm items := by
  induction bins generalizing items with
  | nil =>
    have none : items = [] :=
      List.eq_nil_iff_forall_not_mem.2 fun item member =>
        List.not_mem_nil (covered item member)
    rw [none, List.flatMap_nil]
  | cons bin rest ih =>
    have ⟨new, others⟩ := List.nodup_cons.1 distinct
    let left := items.filter fun item => !decide (key item = bin)
    -- The other bins sort the items that the first has left.
    have sorted : (rest.flatMap fun other => items.filter (key · = other)) =
        rest.flatMap fun other => left.filter (key · = other) := by
      refine List.flatMap_congr fun other member => ?_
      rw [List.filter_filter]
      refine List.filter_congr fun item _ => ?_
      have differs : other ≠ bin := fun same => new (same ▸ member)
      by_cases here : key item = other <;> simp [here, differs]
    have remaining : ∀ item ∈ left, key item ∈ rest := by
      intro item member
      obtain ⟨isItem, elsewhere⟩ := List.mem_filter.1 member
      exact (List.mem_cons.1 (covered item isItem)).resolve_left (by simpa using elsewhere)
    rw [List.flatMap_cons, sorted]
    exact ((ih others remaining).append_left _).trans (List.filter_append_perm _ items)

/-- Counts that are added up are the length of the parts put together. -/
theorem Document.countAll_eq_length_flatMap (parts : α → List β) (things : List α) :
    countAll (fun thing => (parts thing).length) things = (things.flatMap parts).length := by
  induction things with
  | nil => rfl
  | cons thing rest ih =>
    rw [List.flatMap_cons, List.length_append, ← ih]
    rfl

end

/-! ## Counts -/

/-- The container of a site: the key of its pod and its place in it. -/
def Site.place (site : Site) : String × Nat := (site.pod, site.index)

namespace Document

/-- The containers of a document, each by the key of its pod and its place in it. -/
def places (document : Document) : List (String × Nat) :=
  document.pods.entries.flatMap fun entry =>
    (List.range entry.2.containers.length).map (entry.1, ·)

theorem mem_places_iff {document : Document} {key : String} {index : Nat} :
    (key, index) ∈ document.places ↔
      ∃ pod, document.pods.get? key = some pod ∧ index < pod.containers.length := by
  simp only [places, List.mem_flatMap, List.mem_map, List.mem_range, Prod.mk.injEq]
  constructor
  · rintro ⟨⟨_, pod⟩, member, _, inside, rfl, rfl⟩
    exact ⟨pod, StringMap.get?_eq_some_iff.2 member, inside⟩
  · rintro ⟨pod, found, inside⟩
    exact ⟨(key, pod), StringMap.get?_eq_some_iff.1 found, index, inside, rfl, rfl⟩

/-- A container with an open site is one of the document. -/
theorem place_mem_places {document : Document} {site : Site}
    (isOpen : site ∈ document.openings) : site.place ∈ document.places := by
  obtain ⟨pod, found, -, first⟩ := mem_openings_iff.1 isOpen
  exact mem_places_iff.2
    ⟨pod, found, Pod.lt_length_of_declared_mem_stops (List.mem_of_find?_eq_some first)⟩

theorem nodup_places (document : Document) : document.places.Nodup := by
  refine List.nodup_flatMap.2 ⟨fun entry _ => ?_, ?_⟩
  · exact List.nodup_range.map fun _ _ same => congrArg Prod.snd same
  · refine document.pods.increasing.imp fun {earlier later} before place here there => ?_
    obtain ⟨_, -, rfl⟩ := List.mem_map.1 here
    obtain ⟨_, -, same⟩ := List.mem_map.1 there
    exact String.lt_irrefl _ (congrArg Prod.fst same ▸ before)

/-- The number of mounts, container by container. -/
theorem mountCount_eq (document : Document) :
    document.mountCount =
      (document.places.flatMap fun place => document.mountsAt place.1 place.2).length := by
  have inPod : document.mountCount =
      (document.pods.values.flatMap fun pod => pod.containers.flatMap (·.mounts)).length := by
    simp only [mountCount, countAll_eq_length_flatMap]
  rw [inPod, places, StringMap.values, List.flatMap_map, List.flatMap_assoc]
  refine congrArg List.length (List.flatMap_congr fun entry member => ?_)
  have found := StringMap.get?_eq_some_iff.2 member
  simp only [List.flatMap_map, mountsAt_eq found, flatMap_range_getElem?]

/-- The number of volumes, pod by pod. -/
theorem volumeCount_eq (document : Document) :
    document.volumeCount = (document.pods.keys.flatMap document.volumesAt).length := by
  rw [volumeCount, countAll_eq_length_flatMap, StringMap.values, StringMap.keys,
    List.flatMap_map, List.flatMap_map]
  refine congrArg List.length (List.flatMap_congr fun entry member => ?_)
  rw [volumesAt_eq (StringMap.get?_eq_some_iff.2 member)]

end Document

/-- The mounts that the containers of a document have gained, container by container. -/
def mountsGained (earlier later : Document) : List VolumeMount :=
  earlier.places.flatMap fun place => gained earlier later place.1 place.2

/-- The volumes that the pods of a document have gained, pod by pod. -/
def volumesGained (earlier later : Document) : List PodVolume :=
  earlier.pods.keys.flatMap (gainedVolumes earlier later)

/-! ## Documents that grow -/

/-- A document with everything that another has: the same machines and containers, the
mounts and volumes that were there with perhaps others behind them, and at least the same
claims and sub-paths. -/
structure Document.Extends (earlier later : Document) : Prop where
  machines : later.machines = earlier.machines
  pods : later.pods.keys = earlier.pods.keys
  places : later.places = earlier.places
  mounts : ∀ key index, earlier.mountsAt key index <+: later.mountsAt key index
  volumes : ∀ key, earlier.volumesAt key <+: later.volumesAt key
  claims : ∀ key ∈ earlier.claimNames, key ∈ later.claimNames
  subpaths : ∀ path ∈ earlier.subpaths.toList, path ∈ later.subpaths.toList

namespace Document.Extends

variable {earlier later : Document} (kept : earlier.Extends later)

include kept

theorem mountsAt_eq_append (key : String) (index : Nat) :
    later.mountsAt key index =
      earlier.mountsAt key index ++ gained earlier later key index := by
  obtain ⟨added, behind⟩ := kept.mounts key index
  rw [gained_of_append behind.symm, behind]

theorem volumesAt_eq_append (key : String) :
    later.volumesAt key = earlier.volumesAt key ++ gainedVolumes earlier later key := by
  obtain ⟨added, behind⟩ := kept.volumes key
  rw [gainedVolumes_of_append behind.symm, behind]

/-- Mounts are added up. -/
theorem mountCount_eq_add :
    later.mountCount = earlier.mountCount + (mountsGained earlier later).length := by
  rw [later.mountCount_eq, earlier.mountCount_eq, kept.places, mountsGained,
    ← length_flatMap_append]
  simp only [kept.mountsAt_eq_append]

/-- Volumes are added up. -/
theorem volumeCount_eq_add :
    later.volumeCount = earlier.volumeCount + (volumesGained earlier later).length := by
  rw [later.volumeCount_eq, earlier.volumeCount_eq, kept.pods, volumesGained,
    ← length_flatMap_append]
  simp only [← kept.volumesAt_eq_append]

/-- Claims are added up, key by key. -/
theorem size_claims_eq_add :
    later.claims.size = earlier.claims.size +
      (later.claimNames.filter (· ∉ earlier.claimNames)).length :=
  StringMap.size_eq_add_of_keys kept.claims

end Document.Extends

/-- What a pass makes of a document, in numbers: nothing is taken away, there are at most as
many new claims and new volumes as new mounts, and without a new mount the pods and the
claims are the same. -/
structure Document.Grows (earlier later : Document) : Prop where
  kept : earlier.Extends later
  claims : later.claims.size ≤ earlier.claims.size + (mountsGained earlier later).length
  volumes : (volumesGained earlier later).length ≤ (mountsGained earlier later).length
  still : mountsGained earlier later = [] →
    later.pods = earlier.pods ∧ later.claims = earlier.claims

namespace Document

theorem Extends.refl (document : Document) : document.Extends document where
  machines := rfl
  pods := rfl
  places := rfl
  mounts _ _ := List.prefix_rfl
  volumes _ := List.prefix_rfl
  claims _ member := member
  subpaths _ member := member

theorem Grows.refl (document : Document) : document.Grows document where
  kept := .refl document
  claims := Nat.le_add_right ..
  volumes := by
    have nothing : volumesGained document document = [] :=
      List.flatMap_eq_nil_iff.2 fun key _ => gainedVolumes_of_pods_eq rfl key
    rw [nothing]
    exact Nat.zero_le _
  still _ := ⟨rfl, rfl⟩

/-- A document that has grown since more sub-paths were listed has grown since before. -/
theorem Grows.of_subpaths {earlier later : Document} {subpaths : StringSet}
    (grows : ({ earlier with subpaths } : Document).Grows later)
    (listed : ∀ path ∈ earlier.subpaths.toList, path ∈ subpaths.toList) :
    earlier.Grows later where
  kept :=
    { machines := grows.kept.machines
      pods := grows.kept.pods
      places := grows.kept.places
      mounts := grows.kept.mounts
      volumes := grows.kept.volumes
      claims := grows.kept.claims
      subpaths := fun path member => grows.kept.subpaths path (listed path member) }
  claims := grows.claims
  volumes := grows.volumes
  still := grows.still

end Document

/-! ## Choices -/

/-- A table of claims with everything that another has, and at most a number of keys
more. -/
structure ClaimsGrow (count : Nat) (earlier later : StringMap Claim) : Prop where
  kept : ∀ key ∈ earlier.keys, key ∈ later.keys
  size : later.size ≤ earlier.size + count

namespace ClaimsGrow

variable {earlier later : StringMap Claim}

theorem of_eq (same : later = earlier) (count : Nat) : ClaimsGrow count earlier later :=
  ⟨fun _ member => same ▸ member, same ▸ Nat.le_add_right ..⟩

theorem insert (claims : StringMap Claim) (name : String) (claim : Claim) :
    ClaimsGrow 1 claims (claims.insert name claim) where
  kept _ member := StringMap.mem_keys_insert.2 (.inr member)
  size := claims.size_insert_le name claim

theorem trans {between : StringMap Claim} {first second : Nat}
    (grows : ClaimsGrow first earlier between) (further : ClaimsGrow second between later) :
    ClaimsGrow (first + second) earlier later where
  kept key member := further.kept key (grows.kept key member)
  size := by
    have first := grows.size
    have second := further.size
    omega

end ClaimsGrow

/-- Whether a choice makes at most one claim. -/
def Chooser.Frugal (choose : Chooser) : Prop :=
  ∀ volumeName stock, ClaimsGrow 1 stock.claims (choose.pick volumeName stock).2.claims

theorem EmptyDirStrategy.frugal_choose (strategy : EmptyDirStrategy) :
    strategy.choose.Frugal := fun _ _ => .of_eq rfl 1

theorem DurableStrategy.frugal_choose (strategy : DurableStrategy) (workspaceId : String)
    (existing : StringMap String) : (strategy.choose workspaceId existing).Frugal := by
  intro volumeName stock
  cases found : existing.get? volumeName with
  | some name =>
    rw [pick_of_existing found]
    exact .of_eq rfl 1
  | none =>
    cases planned : (claimsByVolume stock.claims.values).get? volumeName with
    | some name =>
      rw [pick_of_planned found planned]
      exact .of_eq rfl 1
    | none =>
      rw [pick_of_new found planned]
      exact .insert ..

/-- All choices together make at most one claim each. -/
theorem Chooser.Frugal.claimsGrow_allot {choose : Chooser} (frugal : choose.Frugal)
    (sites : List Site) (stock : Stock) :
    ClaimsGrow (choose.allot sites stock).1.length stock.claims
      (choose.allot sites stock).2.claims := by
  refine Chooser.allot_induction
    (motive := fun done left => ClaimsGrow done.length stock.claims left.claims)
    (.of_eq rfl 0) fun done left site _ grows => ?_
  rw [List.length_append, List.length_singleton]
  exact grows.trans (frugal site.declaration.volumeName left)

/-! ## Passes -/

namespace Plan

variable (workspaceId : String) (volumeOf : String → PodVolume) {choose : Chooser} {plan : Plan}

theorem keys_pods_bound :
    (plan.bound workspaceId choose volumeOf).document.pods.keys = plan.document.pods.keys :=
  StringMap.keys_mapWithKey ..

theorem places_bound :
    (plan.bound workspaceId choose volumeOf).document.places = plan.document.places := by
  rw [Document.places, entries_pods_bound, List.flatMap_map]
  refine List.flatMap_congr fun entry _ => ?_
  rw [(entry.2.sameLayout_attachAll workspaceId volumeOf _).length_eq]

/-- The mounts that a container gains in a pass are those of its bindings, in order. -/
theorem gained_bound (key : String) (index : Nat) :
    gained plan.document (plan.bound workspaceId choose volumeOf).document key index =
      ((plan.bindings choose).filter (·.site.place = (key, index))).map
        (·.mount workspaceId) := by
  rw [gained_of_append (mountsAt_bound workspaceId volumeOf key index), bindingsIn,
    List.filter_filter]
  refine congrArg (List.map _) (List.filter_congr fun binding _ => ?_)
  simp [Site.place, Bool.and_comm]

/-- The mounts that are gained are those of the bindings, container by container. -/
theorem mountsGained_bound_by_place :
    mountsGained plan.document (plan.bound workspaceId choose volumeOf).document =
      (plan.document.places.flatMap fun place =>
        (plan.bindings choose).filter (·.site.place = place)).map (·.mount workspaceId) := by
  rw [mountsGained, List.map_flatMap]
  exact List.flatMap_congr fun place _ => gained_bound workspaceId volumeOf place.1 place.2

/-- **Every binding becomes a mount.**  Of the mounts that are added, the containers and the
bindings make two lists, which differ at most in their order. -/
theorem perm_mountsGained_bound :
    (mountsGained plan.document (plan.bound workspaceId choose volumeOf).document).Perm
      ((plan.bindings choose).map (·.mount workspaceId)) := by
  have covered : ∀ binding ∈ plan.bindings choose,
      binding.site.place ∈ plan.document.places := fun binding member =>
    Document.place_mem_places (site_mem_openings member)
  have sorted := perm_flatMap_filter plan.document.nodup_places covered
  rw [mountsGained_bound_by_place]
  exact sorted.map _

theorem length_mountsGained_bound :
    (mountsGained plan.document (plan.bound workspaceId choose volumeOf).document).length =
      (plan.bindings choose).length := by
  rw [(perm_mountsGained_bound workspaceId volumeOf).length_eq, List.length_map]

/-- Every volume that is added is for a binding. -/
theorem length_volumesGained_bound_le :
    (volumesGained plan.document (plan.bound workspaceId choose volumeOf).document).length ≤
      (plan.bindings choose).length := by
  have here (key : String) :
      (gainedVolumes plan.document (plan.bound workspaceId choose volumeOf).document
        key).length ≤ (bindingsIn key (plan.bindings choose)).length := by
    obtain ⟨added, within, behind⟩ :=
      exists_volumesAt_bound workspaceId volumeOf choose plan key
    rw [gainedVolumes_of_append behind]
    have length := within.length_le
    rwa [List.length_map] at length
  have covered : ∀ binding ∈ plan.bindings choose,
      binding.site.pod ∈ plan.document.pods.keys := by
    intro binding member
    obtain ⟨pod, found, -⟩ := Document.mem_openings_iff.1 (site_mem_openings member)
    exact StringMap.mem_keys_iff.2 (Option.isSome_iff_exists.2 ⟨pod, found⟩)
  have sorted := perm_flatMap_filter plan.document.pods.nodup_keys covered
  rw [volumesGained, ← sorted.length_eq, List.length_flatMap, List.length_flatMap]
  exact List.sum_le_sum fun key _ => here key

theorem extends_bound (frugal : choose.Frugal) :
    plan.document.Extends (plan.bound workspaceId choose volumeOf).document where
  machines := rfl
  pods := keys_pods_bound workspaceId volumeOf
  places := places_bound workspaceId volumeOf
  mounts key index := ⟨_, (mountsAt_bound workspaceId volumeOf key index).symm⟩
  volumes key := by
    obtain ⟨added, -, behind⟩ := exists_volumesAt_bound workspaceId volumeOf choose plan key
    exact ⟨added, behind.symm⟩
  claims := (frugal.claimsGrow_allot plan.document.openings plan.stock).kept
  subpaths _ member := member

/-- **What a pass adds, in numbers**, if none of its choices makes more than one claim. -/
theorem grows_bound (frugal : choose.Frugal) :
    plan.document.Grows (plan.bound workspaceId choose volumeOf).document where
  kept := extends_bound workspaceId volumeOf frugal
  claims := by
    rw [length_mountsGained_bound]
    exact (frugal.claimsGrow_allot plan.document.openings plan.stock).size
  volumes := by
    rw [length_mountsGained_bound]
    exact length_volumesGained_bound_le workspaceId volumeOf
  still nothing := by
    -- Without a mount there is no binding, so nothing was open.
    have unbound : plan.bindings choose = [] := by
      rw [← List.length_eq_zero_iff, ← length_mountsGained_bound workspaceId volumeOf, nothing]
      rfl
    have closed : plan.document.openings = [] := by
      rw [← map_site_bindings choose, unbound, List.map_nil]
    rw [bound_of_closed workspaceId volumeOf closed]
    exact ⟨rfl, rfl⟩

end Plan

/-! ## Providers -/

namespace Provider

variable {δ : Type} [ClaimDirectory δ]

theorem grows_provisioned (directory : δ) (workspaceId : String) (provider : Provider)
    (plan : Plan) :
    plan.document.Grows (provider.provisioned directory workspaceId plan).2.document := by
  cases provider with
  | none => exact .refl _
  | emptyDir strategy =>
    exact Plan.grows_bound workspaceId PodVolume.emptyDir strategy.frugal_choose
  | durable strategy =>
    rw [provisioned]
    cases ClaimDirectory.listByLabel directory workspaceIdLabel workspaceId with
    | error fault => exact .refl _
    | ok listed =>
      exact Plan.grows_bound workspaceId PodVolume.claim (strategy.frugal_choose workspaceId _)

theorem grows_reconciled (directory : δ) (workspaceId : String) (provider : Provider)
    (plan : Plan) :
    plan.document.Grows (provider.reconciled directory workspaceId plan).2.document := by
  obtain ⟨subpaths, same, listed⟩ := exists_prepared_eq workspaceId provider plan
  have grows : (provider.prepared workspaceId plan).document.Grows
      (provider.reconciled directory workspaceId plan).2.document :=
    provider.grows_provisioned directory workspaceId (provider.prepared workspaceId plan)
  rw [same] at grows
  exact grows.of_subpaths listed

end Provider

/-! ## Reports -/

/-- A report that says what has happened between two documents: nothing was taken away; each
number is by how much a count has grown, and how many things of the kind were added; the
sub-paths are those that were not listed before; there are at most as many new claims and new
volumes as new mounts; and the report says that there was nothing to do just if the documents
are the same. -/
structure ReconcileReport.Exact (report : ReconcileReport) (earlier later : Document) :
    Prop where
  kept : earlier.Extends later
  claimCount : later.claims.size = earlier.claims.size + report.claimsAdded
  volumeCount : later.volumeCount = earlier.volumeCount + report.volumesAdded
  mountCount : later.mountCount = earlier.mountCount + report.mountsAdded
  claimsAdded : report.claimsAdded =
    (later.claimNames.filter (· ∉ earlier.claimNames)).length
  volumesAdded : report.volumesAdded = (volumesGained earlier later).length
  mountsAdded : report.mountsAdded = (mountsGained earlier later).length
  increasing : report.subpaths.Pairwise (· < ·)
  subpaths : ∀ path, path ∈ report.subpaths ↔
    path ∈ later.subpaths.toList ∧ path ∉ earlier.subpaths.toList
  fewerClaims : report.claimsAdded ≤ report.mountsAdded
  fewerVolumes : report.volumesAdded ≤ report.mountsAdded
  noop : report.isNoop = true ↔ later = earlier

section

variable {earlier later : Document}

/-- Where no mount and no sub-path was added, nothing was. -/
theorem Document.Grows.eq_of_nothing (grows : earlier.Grows later)
    (noMounts : mountsGained earlier later = [])
    (noSubpaths : later.subpaths.difference earlier.subpaths = []) : later = earlier := by
  obtain ⟨pods, claims⟩ := grows.still noMounts
  have subpaths : later.subpaths = earlier.subpaths := by
    refine StringSet.ext_mem fun path => ⟨fun listed => ?_, grows.kept.subpaths path⟩
    by_contra new
    have added := StringSet.mem_difference.2 ⟨listed, new⟩
    rw [noSubpaths] at added
    exact List.not_mem_nil added
  obtain ⟨pods', machines', claims', subpaths'⟩ := later
  obtain rfl : pods' = earlier.pods := pods
  obtain rfl : machines' = earlier.machines := grows.kept.machines
  obtain rfl : claims' = earlier.claims := claims
  obtain rfl : subpaths' = earlier.subpaths := subpaths
  rfl

/-- **What a report says of documents that grow is exact.** -/
theorem Document.Grows.exact_between (grows : earlier.Grows later)
    (workspaceId strategy : String) :
    (ReconcileReport.between workspaceId strategy earlier later).Exact earlier later := by
  have claims := grows.kept.size_claims_eq_add
  have volumes := grows.kept.volumeCount_eq_add
  have mounts := grows.kept.mountCount_eq_add
  -- Each number is a difference that has been seen to be a sum.
  have claimsAdded :
      (ReconcileReport.between workspaceId strategy earlier later).claimsAdded =
        (later.claimNames.filter (· ∉ earlier.claimNames)).length := by
    rw [ReconcileReport.between, claims, Nat.add_sub_cancel_left]
  have volumesAdded :
      (ReconcileReport.between workspaceId strategy earlier later).volumesAdded =
        (volumesGained earlier later).length := by
    rw [ReconcileReport.between, volumes, Nat.add_sub_cancel_left]
  have mountsAdded :
      (ReconcileReport.between workspaceId strategy earlier later).mountsAdded =
        (mountsGained earlier later).length := by
    rw [ReconcileReport.between, mounts, Nat.add_sub_cancel_left]
  exact {
    kept := grows.kept
    claimCount := by rw [claimsAdded, claims]
    volumeCount := by rw [volumesAdded, volumes]
    mountCount := by rw [mountsAdded, mounts]
    claimsAdded
    volumesAdded
    mountsAdded
    increasing := by
      have sorted : later.subpaths.toList.Pairwise (· < ·) :=
        List.pairwise_map.2 later.subpaths.increasing
      exact sorted.filter _
    subpaths := fun path => StringSet.mem_difference
    fewerClaims := by
      have atMost := grows.claims
      rw [claims, Nat.add_le_add_iff_left] at atMost
      rw [claimsAdded, mountsAdded]
      exact atMost
    fewerVolumes := by
      rw [volumesAdded, mountsAdded]
      exact grows.volumes
    noop := by
      constructor
      · intro noop
        simp only [ReconcileReport.isNoop, mountsAdded, Bool.and_eq_true, decide_eq_true_eq,
          List.isEmpty_iff] at noop
        obtain ⟨⟨-, noMounts⟩, noSubpaths⟩ := noop
        exact grows.eq_of_nothing (List.length_eq_zero_iff.1 noMounts) noSubpaths
      · rintro rfl
        exact ReconcileReport.isNoop_between_self .. }

end

/-- **Reports are exact.**  Whatever the document, the strategy, the workspace, the directory,
the store and the random numbers are, a report that comes of reconciling says what has
happened to the document. -/
theorem report_exact {δ ω : Type} [ClaimDirectory δ] [WorkspaceStore ω]
    (cluster : Cluster δ ω) (strategy : Strategy) (identity : Identity) (plan : Plan)
    (report : ReconcileReport)
    (succeeds : ((reconcile cluster strategy identity).start plan).outcome = .ok report) :
    report.Exact plan.document
      ((reconcile cluster strategy identity).start plan).subject.document := by
  have acts := reconcile_actsAs cluster strategy identity
  rw [acts.outcome_start] at succeeds
  rw [acts.subject_start]
  cases serves : strategy.served cluster.store identity.workspaceId with
  | error fault =>
    rw [serves] at succeeds
    cases succeeds
  | ok provider =>
    rw [serves, Run.given_ok] at succeeds
    rw [Run.given_ok, (Provider.eq_between_of_reconciled succeeds).2]
    exact (provider.grows_reconciled cluster.directory identity.workspaceId plan).exact_between ..

/-- One name is drawn for every volume, so the claim of the second volume takes the place of
that of the first: one claim is reported beside four mounts. -/
theorem report_exact_collision :
    let cluster : Cluster ClaimTable WorkspaceTable := ⟨{}, {}⟩
    let ending := (reconcile cluster (.durable .standard) { workspaceId := "ws" }).start
      ⟨.pair, .cycling #[0]⟩
    let report : ReconcileReport := {
      workspaceId := "ws", strategy := commonKey
      claimsAdded := 1, volumesAdded := 2, mountsAdded := 4
      subpaths := ["ws/data", "ws/logs/db/app", "ws/logs/web/app"] }
    ending.outcome = .ok report ∧ report.Exact .pair ending.subject.document := by
  intro cluster ending report
  have succeeds : ending.outcome = .ok report := by decide
  exact ⟨succeeds, report_exact cluster (.durable .standard) { workspaceId := "ws" }
    ⟨.pair, .cycling #[0]⟩ report succeeds⟩

end WorkspaceVolumes
