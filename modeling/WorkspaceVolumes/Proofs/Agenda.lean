import WorkspaceVolumes.Proofs.Report

/-!
# What a pass has to do

Both ways of providing storage change the document while they walk through it, and ask at
every declared volume what the container binds by then.  What they append is known
beforehand all the same.  It is the *agenda* of the container: of the volumes that its
machine declares, in name order, those whose path is not bound yet, and of several for one
path the first.

**One agenda.**  The agenda mentions no name, no claim and no random number.  So storage for
the life of a pod and durable storage append mounts at the same paths, with the same
sub-paths, in the same order, whatever names they draw and whatever the directory lists.

## Main definitions

* `firstAtPath`: of some declarations, the first for each path that is not taken.
* `Document.declaredAt`, `Document.agendaAt`: what is declared for a container, and what of
  that a pass binds.
* `Document.boundVolumes`: what has been bound to the volumes on an agenda.
* `Document.Follows`: a document after a pass that has done what was to be done.

## Main statements

* `Document.openings_eq_agenda`: what the walk finds open is the agenda.
* `Plan.map_spot_gained_bound`: a pass binds the agenda of every container.
* `Plan.boundVolumes_bound`: a pass goes through the agenda in order.
* `provision_follows_agenda`: both strategies follow one agenda.
-/

namespace WorkspaceVolumes

/-! ## Declarations -/

/-- The declarations whose path is not taken, and of several for one path the first. -/
def firstAtPath (taken : List String) : List Declaration → List Declaration
  | [] => []
  | declaration :: rest =>
    if declaration.path ∈ taken then firstAtPath taken rest
    else declaration :: firstAtPath (declaration.path :: taken) rest

section

variable {taken : List String} {declaration : Declaration} {rest : List Declaration}

theorem firstAtPath_cons_of_mem (isTaken : declaration.path ∈ taken) :
    firstAtPath taken (declaration :: rest) = firstAtPath taken rest := by
  rw [firstAtPath, if_pos isTaken]

theorem firstAtPath_cons_of_notMem (free : declaration.path ∉ taken) :
    firstAtPath taken (declaration :: rest) =
      declaration :: firstAtPath (declaration.path :: taken) rest := by
  rw [firstAtPath, if_neg free]

/-- Every path that is declared is taken, or is that of a declaration that is kept. -/
theorem mem_taken_or_exists_mem_firstAtPath {declared : List Declaration}
    (member : declaration ∈ declared) :
    declaration.path ∈ taken ∨
      ∃ kept ∈ firstAtPath taken declared, kept.path = declaration.path := by
  induction declared generalizing taken with
  | nil => exact absurd member List.not_mem_nil
  | cons first rest ih =>
    by_cases isTaken : first.path ∈ taken
    · rw [firstAtPath_cons_of_mem isTaken]
      rcases List.mem_cons.1 member with rfl | behind
      · exact .inl isTaken
      · exact ih behind
    · rw [firstAtPath_cons_of_notMem isTaken, List.exists_mem_cons_iff]
      rcases List.mem_cons.1 member with rfl | behind
      · exact .inr (.inl rfl)
      · -- Behind the first its path is taken, and then the first is the one that is kept.
        obtain nowTaken | later : declaration.path ∈ first.path :: taken ∨ _ := ih behind
        · rcases List.mem_cons.1 nowTaken with same | before
          · exact .inr (.inl same.symm)
          · exact .inl before
        · exact .inr (.inr later)

end

/-- The volumes that the machine of a container declares, in name order.  There are none if
the machine is not there. -/
def Pod.declaredAt (machines : StringMap Machine) (pod : Pod) (index : Nat) :
    List Declaration :=
  match pod.containers[index]? with
  | none => []
  | some container =>
    let machineName := pod.machineName container.name
    match machines.get? machineName with
    | none => []
    | some machine =>
      machine.paths.entries.map fun entry => ⟨machineName, entry.1, entry.2⟩

namespace Document

/-- The volumes that are declared for a container of a document. -/
def declaredAt (document : Document) (key : String) (index : Nat) : List Declaration :=
  ((document.pods.get? key).map (·.declaredAt document.machines index)).getD []

/-- The paths that a container binds. -/
def pathsAt (document : Document) (key : String) (index : Nat) : List String :=
  (document.mountsAt key index).map (·.mountPath)

/-- What a pass binds in a container, in order. -/
def agendaAt (document : Document) (key : String) (index : Nat) : List Declaration :=
  firstAtPath (document.pathsAt key index) (document.declaredAt key index)

/-- A container without a machine has nothing declared for it. -/
theorem declaredAt_of_unmatched {document : Document} {key machineName : String} {index : Nat}
    (named : document.machineNameAt? key index = some machineName)
    (unmatched : document.machines.get? machineName = none) :
    document.declaredAt key index = [] := by
  unfold machineNameAt? at named
  unfold declaredAt Pod.declaredAt
  cases found : document.pods.get? key with
  | none => rfl
  | some pod =>
    cases here : pod.containers[index]? with
    | none => simp [here]
    | some container =>
      have name : pod.machineName container.name = machineName := by
        simpa [found, here] using named
      simp [here, name, unmatched]

end Document

/-! ## Open sites, container by container -/

/-- All items of one bin are in it. -/
theorem filter_eq_self_of_key {α β : Type} [DecidableEq α] {key : β → α} {items : List β} {bin : α}
    (inside : ∀ item ∈ items, key item = bin) : items.filter (key · = bin) = items :=
  List.filter_eq_self.2 fun item member => decide_eq_true (inside item member)

/-- None of the items of other bins is in a bin. -/
theorem filter_eq_nil_of_key {α β : Type} [DecidableEq α] {key : β → α} {items : List β} {bin : α}
    (outside : ∀ item ∈ items, key item ≠ bin) : items.filter (key · = bin) = [] := by
  refine List.filter_eq_nil_iff.2 fun item member same => ?_
  exact outside item member (of_decide_eq_true same)

/-- Of items that are put together from bins, those of one bin. -/
theorem filter_flatMap_of_key {α β : Type} [DecidableEq α] {key : β → α} {parts : α → List β}
    {bins : List α} {bin : α} (distinct : bins.Nodup)
    (inside : ∀ bin, ∀ item ∈ parts bin, key item = bin) :
    (bins.flatMap parts).filter (key · = bin) = if bin ∈ bins then parts bin else [] := by
  induction bins with
  | nil => rfl
  | cons first rest ih =>
    obtain ⟨new, tail⟩ := List.nodup_cons.1 distinct
    rw [List.flatMap_cons, List.filter_append, ih tail]
    by_cases same : first = bin
    · subst same
      rw [filter_eq_self_of_key (inside first), if_neg new, List.append_nil,
        if_pos List.mem_cons_self]
    · have outside : ∀ item ∈ parts first, key item ≠ bin := by
        intro item member
        rwa [inside first item member]
      have further : bin ∈ first :: rest ↔ bin ∈ rest := by
        rw [List.mem_cons, or_iff_right (Ne.symm same)]
      rw [filter_eq_nil_of_key outside, List.nil_append]
      simp only [further]

/-- Items whose labels are put together from bins are in order: to sort them into the bins changes
nothing. -/
theorem flatMap_filter_of_map_eq {α β γ : Type} [DecidableEq α] {key : β → α} {parts : α → List β}
    {bins : List α} {label : γ → β} {items : List γ} (distinct : bins.Nodup)
    (inside : ∀ bin, ∀ part ∈ parts bin, key part = bin)
    (labels : items.map label = bins.flatMap parts) :
    (bins.flatMap fun bin => items.filter (fun item => key (label item) = bin)) = items := by
  induction bins generalizing items with
  | nil => exact (List.map_eq_nil_iff.1 labels).symm
  | cons first rest ih =>
    obtain ⟨new, tail⟩ := List.nodup_cons.1 distinct
    obtain ⟨front, back, rfl, here, behind⟩ := List.map_eq_append_iff.1 labels
    have inFront : ∀ item ∈ front, key (label item) = first := by
      intro item member
      exact inside first _ (here ▸ List.mem_map_of_mem member)
    have inBack : ∀ item ∈ back, key (label item) ∈ rest := by
      intro item member
      obtain ⟨bin, isBin, isPart⟩ := List.mem_flatMap.1 (behind ▸ List.mem_map_of_mem member)
      rwa [inside bin _ isPart]
    have apart : ∀ item ∈ back, key (label item) ≠ first := by
      rintro item member rfl
      exact new (inBack item member)
    -- The other bins have nothing from the front.
    have others : (rest.flatMap fun bin =>
          (front ++ back).filter (fun item => key (label item) = bin)) =
        rest.flatMap fun bin => back.filter (fun item => key (label item) = bin) := by
      refine List.flatMap_congr fun bin member => ?_
      have outside : ∀ item ∈ front, key (label item) ≠ bin := by
        rintro item isFront rfl
        rw [inFront item isFront] at member
        exact new member
      rw [List.filter_append, filter_eq_nil_of_key outside, List.nil_append]
    rw [List.flatMap_cons, others, ih tail behind, List.filter_append,
      filter_eq_self_of_key inFront, filter_eq_nil_of_key apart, List.append_nil]

section

variable {key : String} {bound other : Nat → String → Bool}

/-- What is open depends on the paths that are bound where the walk stops. -/
theorem openings_congr {stops : List Stop}
    (same : ∀ index declaration, .declared index declaration ∈ stops →
      ∀ path, bound index path = other index path) :
    openings key bound stops = openings key other stops := by
  induction stops generalizing bound other with
  | nil => rfl
  | cons stop rest ih =>
    have behind (index : Nat) (declaration : Declaration)
        (member : .declared index declaration ∈ rest) :=
      same index declaration (List.mem_cons_of_mem _ member)
    cases stop with
    | unmatched machineName =>
      unfold openings
      exact ih behind
    | declared index declaration =>
      have here := same index declaration List.mem_cons_self
      cases isBound : bound index declaration.path with
      | true =>
        rw [openings_declared_of_bound rest isBound,
          openings_declared_of_bound rest (here _ ▸ isBound), ih behind]
      | false =>
        rw [openings_declared_of_unbound rest isBound,
          openings_declared_of_unbound rest (here _ ▸ isBound)]
        refine congrArg _ (ih fun place later member path => ?_)
        rw [behind place later member]

/-- Stops for different containers do not get in the way of each other. -/
theorem openings_append_of_apart {front back : List Stop}
    (apart : ∀ index declaration place later, .declared index declaration ∈ front →
      .declared place later ∈ back → index ≠ place) :
    openings key bound (front ++ back) = openings key bound front ++ openings key bound back := by
  induction front generalizing bound with
  | nil => rfl
  | cons stop rest ih =>
    have further {bound : Nat → String → Bool} :
        openings key bound (rest ++ back) = openings key bound rest ++ openings key bound back :=
      ih fun index declaration place later member =>
        apart index declaration place later (List.mem_cons_of_mem _ member)
    rw [List.cons_append]
    cases stop with
    | unmatched machineName =>
      show openings key bound (rest ++ back) = openings key bound rest ++ openings key bound back
      exact further
    | declared index declaration =>
      cases isBound : bound index declaration.path with
      | true =>
        rw [openings_declared_of_bound _ isBound, openings_declared_of_bound _ isBound, further]
      | false =>
        -- The path that is taken here is one of a container that is not met again.
        have unseen : openings key
            (fun place path => bound place path || (place = index && path = declaration.path))
              back = openings key bound back := by
          refine openings_congr fun place later member path => ?_
          have differs := apart index declaration place later List.mem_cons_self member
          rw [decide_eq_false (Ne.symm differs), Bool.false_and, Bool.or_false]
        rw [openings_declared_of_unbound _ isBound, openings_declared_of_unbound _ isBound,
          further, unseen, List.cons_append]

/-- Along what is declared for one container, the first for each path is open. -/
theorem openings_map_declared {index : Nat} {taken : List String} {declared : List Declaration}
    (same : ∀ path, bound index path = true ↔ path ∈ taken) :
    openings key bound (declared.map (.declared index)) =
      (firstAtPath taken declared).map fun declaration => ⟨key, index, declaration⟩ := by
  induction declared generalizing bound taken with
  | nil => rfl
  | cons first rest ih =>
    rw [List.map_cons]
    cases isBound : bound index first.path with
    | true =>
      rw [openings_declared_of_bound _ isBound, firstAtPath_cons_of_mem ((same _).1 isBound),
        ih same]
    | false =>
      have free : first.path ∉ taken := by
        rw [← same, isBound]
        exact Bool.false_ne_true
      have now (path : String) :
          (bound index path || (index = index && path = first.path)) = true ↔
            path ∈ first.path :: taken := by
        rw [Bool.or_eq_true, same, List.mem_cons, or_comm]
        simp
      rw [openings_declared_of_unbound _ isBound, firstAtPath_cons_of_notMem free, List.map_cons,
        ih now]

end

namespace Pod

variable (machines : StringMap Machine) (pod : Pod)

/-- In one container, what is open is the first for each path that the container does not
bind. -/
theorem openings_stopsAt (key : String) {index : Nat} {taken : List String}
    (same : ∀ path, pod.binds index path = true ↔ path ∈ taken) :
    WorkspaceVolumes.openings key pod.binds (pod.stopsAt machines index) =
      (firstAtPath taken (pod.declaredAt machines index)).map
        fun declaration => ⟨key, index, declaration⟩ := by
  rw [← openings_map_declared same]
  unfold stopsAt declaredAt
  cases pod.containers[index]? with
  | none => rfl
  | some container =>
    cases found : machines.get? (pod.machineName container.name) with
    | none =>
      simp only [found]
      rfl
    | some machine =>
      simp only [found, List.map_map]
      rfl

/-- A pod has the open sites of its containers, one container after the other. -/
theorem openings_flatMap_stopsAt (key : String) {places : List Nat} (distinct : places.Nodup) :
    WorkspaceVolumes.openings key pod.binds (places.flatMap (pod.stopsAt machines)) =
      places.flatMap fun index =>
        WorkspaceVolumes.openings key pod.binds (pod.stopsAt machines index) := by
  induction places with
  | nil => rfl
  | cons place rest ih =>
    obtain ⟨new, tail⟩ := List.nodup_cons.1 distinct
    rw [List.flatMap_cons, List.flatMap_cons, ← ih tail]
    refine openings_append_of_apart fun index declaration later found here behind same => ?_
    obtain ⟨rfl, -⟩ := declared_mem_stopsAt_iff.1 here
    obtain ⟨other, inRest, there⟩ := List.mem_flatMap.1 behind
    obtain ⟨rfl, -⟩ := declared_mem_stopsAt_iff.1 there
    exact new (same ▸ inRest)

end Pod

namespace Document

variable (document : Document)

/-- What a pass has to do, container by container. -/
def agenda : List Site :=
  document.places.flatMap fun place =>
    (document.agendaAt place.1 place.2).map fun declaration => ⟨place.1, place.2, declaration⟩

/-- A container of a pod binds the paths of its mounts. -/
theorem binds_iff_mem_pathsAt {document : Document} {key : String} {pod : Pod}
    (found : document.pods.get? key = some pod) (index : Nat) (path : String) :
    pod.binds index path = true ↔ path ∈ document.pathsAt key index := by
  unfold pathsAt Pod.binds
  rw [mountsAt_eq found]
  cases pod.containers[index]? with
  | none => simp
  | some container => simp [Container.hasMountPath]

/-- **What the walk finds open is the agenda.**  The walk goes by what is bound in the pod
that it is in, and that grows on the way; but what is bound in one container does not bear on
another. -/
theorem openings_eq_agenda : document.openings = document.agenda := by
  rw [openings, agenda, places, List.flatMap_assoc]
  refine List.flatMap_congr fun entry member => ?_
  have found := StringMap.get?_eq_some_iff.2 member
  rw [Pod.openings, Pod.stops, Pod.openings_flatMap_stopsAt _ _ _ List.nodup_range,
    List.flatMap_map]
  refine List.flatMap_congr fun index _ => ?_
  rw [Pod.openings_stopsAt _ _ _ (binds_iff_mem_pathsAt found index), agendaAt, declaredAt, found]
  rfl

/-- Nothing is on the agenda of a container that is not there. -/
theorem agendaAt_of_absent {document : Document} {key : String} {index : Nat}
    (absent : (key, index) ∉ document.places) : document.agendaAt key index = [] := by
  have nothing : document.declaredAt key index = [] := by
    unfold declaredAt Pod.declaredAt
    cases found : document.pods.get? key with
    | none => rfl
    | some pod =>
      have outside : pod.containers[index]? = none :=
        List.getElem?_eq_none (Nat.le_of_not_lt fun inside =>
          absent (mem_places_iff.2 ⟨pod, found, inside⟩))
      rw [Option.map_some, Option.getD_some, outside]
  rw [agendaAt, nothing]
  rfl

/-- The part of the agenda that is for a container has its place. -/
theorem place_of_mem_agendaAt {document : Document} (place : String × Nat) :
    ∀ site ∈ (document.agendaAt place.1 place.2).map
      (fun declaration => (⟨place.1, place.2, declaration⟩ : Site)), site.place = place := by
  intro site member
  obtain ⟨declaration, -, rfl⟩ := List.mem_map.1 member
  rfl

/-- What is open in one container is on its agenda. -/
theorem filter_openings_of_place (key : String) (index : Nat) :
    document.openings.filter (·.place = (key, index)) =
      (document.agendaAt key index).map fun declaration => ⟨key, index, declaration⟩ := by
  rw [openings_eq_agenda, agenda,
    filter_flatMap_of_key document.nodup_places place_of_mem_agendaAt]
  split
  case isTrue => rfl
  case isFalse absent => rw [agendaAt_of_absent absent, List.map_nil]

end Document

/-! ## Passes -/

/-- Where a declared volume of a workspace is to be seen: the path of its mount, and the
sub-path. -/
def Declaration.spot (workspaceId : String) (declaration : Declaration) :
    String × Option String :=
  (declaration.path, some (declaration.subPath workspaceId))

/-- The volumes on the agenda of a document, in order, each with the name of the mount that a
later document has gained for it. -/
def Document.boundVolumes (earlier later : Document) : List Issue :=
  List.zipWith Issue.mk (earlier.agenda.map (·.declaration.volumeName))
    ((mountsGained earlier later).map (·.name))

/-- Where a mount is to be seen. -/
def VolumeMount.spot (mount : VolumeMount) : String × Option String :=
  (mount.mountPath, mount.subPath)

/-- A document after a pass for a workspace that has done what was to be done: every container
has its mounts and, behind them, those of its agenda; a container without a machine has got
nothing; and every path that is declared for a container is bound in it. -/
structure Document.Follows (workspaceId : String) (earlier later : Document) : Prop where
  kept : ∀ key index, earlier.mountsAt key index <+: later.mountsAt key index
  gained : ∀ key index, (gained earlier later key index).map (·.spot) =
    (earlier.agendaAt key index).map (·.spot workspaceId)
  unmatched : ∀ key index machineName, earlier.machineNameAt? key index = some machineName →
    earlier.machines.get? machineName = none →
      later.mountsAt key index = earlier.mountsAt key index
  covered : ∀ key index, ∀ declaration ∈ earlier.declaredAt key index,
    declaration.path ∈ later.pathsAt key index

namespace Plan

variable (workspaceId : String) (volumeOf : String → PodVolume) (choose : Chooser) (plan : Plan)

/-- **A container gains a mount for each volume on its agenda**, in order, to be seen where
the volume is to be seen. -/
theorem map_spot_gained_bound (key : String) (index : Nat) :
    (gained plan.document (plan.bound workspaceId choose volumeOf).document key index).map
        (·.spot) =
      (plan.document.agendaAt key index).map (·.spot workspaceId) := by
  have sites : ((plan.bindings choose).filter (·.site.place = (key, index))).map (·.site) =
      (plan.document.agendaAt key index).map fun declaration => ⟨key, index, declaration⟩ := by
    rw [← plan.document.filter_openings_of_place, ← map_site_bindings choose, List.filter_map]
    rfl
  have spots := congrArg (List.map fun site => site.declaration.spot workspaceId) sites
  rw [List.map_map, List.map_map] at spots
  rw [gained_bound, List.map_map]
  exact spots

/-- **A pass goes through the agenda in order**, so its bindings come in the order of the mounts
that are gained, container by container. -/
theorem mountsGained_bound :
    mountsGained plan.document (plan.bound workspaceId choose volumeOf).document =
      (plan.bindings choose).map (·.mount workspaceId) := by
  have sites : (plan.bindings choose).map (·.site) = plan.document.agenda := by
    rw [map_site_bindings, plan.document.openings_eq_agenda]
  rw [mountsGained_bound_by_place]
  exact congrArg _ (flatMap_filter_of_map_eq plan.document.nodup_places
    Document.place_of_mem_agendaAt sites)

theorem boundVolumes_bound :
    plan.document.boundVolumes (plan.bound workspaceId choose volumeOf).document =
      (plan.bindings choose).map (·.issue) := by
  unfold Document.boundVolumes
  rw [mountsGained_bound, ← plan.document.openings_eq_agenda, ← map_site_bindings choose,
    List.map_map, List.map_map, List.zipWith_map, List.zipWith_self]
  rfl

/-- After a pass a container binds the paths that it did and, behind them, those on its
agenda. -/
theorem pathsAt_bound (key : String) (index : Nat) :
    (plan.bound workspaceId choose volumeOf).document.pathsAt key index =
      plan.document.pathsAt key index ++ (plan.document.agendaAt key index).map (·.path) := by
  have spots := plan.map_spot_gained_bound workspaceId volumeOf choose key index
  rw [gained_of_append (mountsAt_bound workspaceId volumeOf key index)] at spots
  have paths := congrArg (List.map Prod.fst) spots
  simp only [List.map_map] at paths
  unfold Document.pathsAt
  rw [mountsAt_bound, List.map_append, List.map_map]
  exact congrArg _ paths

/-- Every pass follows the agenda, whatever it binds the volumes to. -/
theorem follows_bound :
    plan.document.Follows workspaceId (plan.bound workspaceId choose volumeOf).document where
  kept key index := ⟨_, (mountsAt_bound workspaceId volumeOf key index).symm⟩
  gained := plan.map_spot_gained_bound workspaceId volumeOf choose
  unmatched key index machineName named unmatched := by
    have spots := plan.map_spot_gained_bound workspaceId volumeOf choose key index
    rw [Document.agendaAt, Document.declaredAt_of_unmatched named unmatched] at spots
    have nothing := List.map_eq_nil_iff.1 spots
    rw [gained_of_append (mountsAt_bound workspaceId volumeOf key index)] at nothing
    rw [mountsAt_bound, nothing, List.append_nil]
  covered key index declaration declared := by
    rw [pathsAt_bound, List.mem_append, List.mem_map]
    exact mem_taken_or_exists_mem_firstAtPath declared

end Plan

/-! ## The theorem -/

/-- **Both strategies follow one agenda.**  Take any document, any workspace, any random
numbers for either strategy, and any directory that answers.  Storage for the life of a pod
and durable storage are both provided, without an error.  Both append to every container one
mount for each volume on the agenda of the container, at the path and with the sub-path that
go with the volume, in the order of the agenda; so what they append is to be seen at the same
places.  The mounts that were there stay in front, a container without a machine gets
nothing, and every path that is declared for a container is bound afterwards. -/
theorem provision_follows_agenda {δ : Type} [ClaimDirectory δ] (directory : δ)
    (transient : EmptyDirStrategy) (durable : DurableStrategy) (identity : Identity)
    (document : Document) (draws otherDraws : DrawStream) (listed : List Claim)
    (answers : ClaimDirectory.listByLabel directory workspaceIdLabel identity.workspaceId =
      .ok listed) :
    let brief := (transient.provision identity).start ⟨document, draws⟩
    let lasting := (durable.provision directory identity).start ⟨document, otherDraws⟩
    brief.outcome = .ok () ∧ lasting.outcome = .ok () ∧
      document.Follows identity.workspaceId brief.subject.document ∧
      document.Follows identity.workspaceId lasting.subject.document ∧
      ∀ key index,
        (gained document brief.subject.document key index).map (·.spot) =
          (gained document lasting.subject.document key index).map (·.spot) := by
  intro brief lasting
  have acts := transient.provision_actsAs identity
  have after : brief.subject =
      Plan.bound identity.workspaceId transient.choose PodVolume.emptyDir ⟨document, draws⟩ :=
    acts.subject_start ⟨document, draws⟩
  have ⟨succeeds, durablyAfter⟩ :=
    DurableStrategy.start_provision_of_listed answers durable ⟨document, otherDraws⟩
  have briefly : document.Follows identity.workspaceId brief.subject.document := by
    rw [after]
    exact Plan.follows_bound identity.workspaceId PodVolume.emptyDir transient.choose
      ⟨document, draws⟩
  have durably : document.Follows identity.workspaceId lasting.subject.document := by
    rw [durablyAfter]
    exact Plan.follows_bound identity.workspaceId PodVolume.claim _ ⟨document, otherDraws⟩
  refine ⟨acts.outcome_start _, succeeds, briefly, durably, fun key index => ?_⟩
  rw [briefly.gained, durably.gained]

/-- A document with one container that binds a path for logs.  Its machine declares a volume
for that path, and two others for one path; a second container has no machine. -/
def Document.crowded : Document :=
  let logs : VolumeMount := { name := "old", mountPath := "/logs" }
  let pod : Pod :=
    { metadata := { name := "web" }
      containers := [{ name := "app", mounts := [logs] }, { name := "side" }] }
  let machine :=
    ((Machine.withVolume {} "data" "/data").withVolume "cache" "/data").withVolume "logs" "/logs"
  (empty.addPod pod).addMachine "web/app" machine

/-- Of three volumes one is bound, and both strategies bind it, though one finds a claim for
another volume. -/
theorem provision_follows_agenda_crowded :
    let directory :=
      ({} : ClaimTable).insert (DurableStrategy.standard.newClaim "ws" "data" "kept")
    let brief := (EmptyDirStrategy.provision ⟨"volume"⟩ { workspaceId := "ws" }).start
      ⟨.crowded, .cycling #[0]⟩
    let lasting := (DurableStrategy.standard.provision directory { workspaceId := "ws" }).start
      ⟨.crowded, .cycling #[1]⟩
    (gained .crowded brief.subject.document "web" 0).map (·.spot) =
        [("/data", some "ws/cache")] ∧
      (gained .crowded lasting.subject.document "web" 0).map (·.spot) =
        [("/data", some "ws/cache")] ∧
      gained .crowded lasting.subject.document "web" 1 = [] := by
  intro directory brief lasting
  obtain ⟨-, -, briefly, durably, -⟩ := provision_follows_agenda directory ⟨"volume"⟩ .standard
    { workspaceId := "ws" } .crowded (.cycling #[0]) (.cycling #[1])
    [DurableStrategy.standard.newClaim "ws" "data" "kept"] rfl
  have agenda : (Document.crowded.agendaAt "web" 0).map (·.spot "ws") =
      [("/data", some "ws/cache")] := by
    decide
  refine ⟨(briefly.gained "web" 0).trans agenda, (durably.gained "web" 0).trans agenda, ?_⟩
  have nothing := durably.unmatched "web" 1 "web/side" (by decide) (by decide)
  unfold gained
  rw [nothing, List.drop_length]

end WorkspaceVolumes
