import WorkspaceVolumes.Proofs.Sharing

/-!
# Whether machines are confined to their logs

Of the volume for logs each machine has a directory of its own, which is called after the
machine.  No two machines have the same one.  But a directory also holds what is in it, and
the name of a machine may have slashes: a machine that is called after its pod and its
container has one, and a name that is noted on the pod may have any.  So a machine `web` has
the logs of a machine `web/app` within its own.

**Exactly when.**  The directories of two machines begin alike, and what decides is behind
that: one holds the other just if the name of the one machine goes on with a slash to the name
of the other (`encloses_subPath_iff`).  So a pass confines the machines if, and only if, that
is not so for two machines that get a mount for logs.  In particular it does where their names
have equally many slashes, as where all are called after their pods and containers, with names
that have none.

**Any storage.**  The directories do not depend on what the volumes are bound to.  So storage
for the life of a pod and durable storage confine the machines of the same documents.

## Main definitions

* `Encloses`, `VolumeMount.Holds`: directories within directories.
* `Confined`: passes after which no machine has the logs of another one.
* `Document.Logs`: the machines that are to get a mount for logs.

## Main statements

* `Plan.confined_bound_iff`: when a pass confines the machines.
* `provision_confined_iff`: the same for both ways of providing storage.
* `not_provision_confined`: two machines that are not confined.
-/

namespace WorkspaceVolumes

/-! ## Directories -/

/-- Whether a path goes on behind another one, with a slash between them. -/
def Encloses (outer inner : String) : Prop := ∃ rest, inner = outer ++ "/" ++ rest

/-- The number of slashes in a name. -/
def slashCount (name : String) : Nat := name.toList.count '/'

/-- A path that encloses another has fewer slashes. -/
theorem Encloses.slashCount_lt {outer inner : String} (encloses : Encloses outer inner) :
    slashCount outer < slashCount inner := by
  obtain ⟨rest, rfl⟩ := encloses
  have slash : "/".toList.count '/' = 1 := by decide
  unfold slashCount
  rw [String.toList_append, String.toList_append, List.count_append, List.count_append, slash]
  omega

/-- What two paths begin with does not matter. -/
theorem encloses_append_left (stem outer inner : String) :
    Encloses (stem ++ outer) (stem ++ inner) ↔ Encloses outer inner := by
  unfold Encloses
  simp only [String.append_assoc, String.append_right_inj]

/-- The logs of one machine hold those of another if its name goes on to the name of the
other. -/
theorem encloses_subPath_iff {workspaceId first second : String} :
    Encloses (subPath workspaceId logsVolumeName first)
        (subPath workspaceId logsVolumeName second) ↔ Encloses first second := by
  unfold subPath
  rw [if_pos rfl, if_pos rfl, encloses_append_left]

/-- Whether the directory of a mount is that of another, or has it within. -/
def VolumeMount.Holds (mount other : VolumeMount) : Prop :=
  ∃ outer inner, mount.subPath = some outer ∧ other.subPath = some inner ∧
    (outer = inner ∨ Encloses outer inner)

/-! ## Confinement -/

/-- Whether of the mounts that were gained for logs by different machines, none holds
another. -/
def Confined (earlier later : Document) : Prop :=
  ∀ machine other mount mount', GainedFor earlier later logsVolumeName machine mount →
    GainedFor earlier later logsVolumeName other mount' → machine ≠ other →
      ¬ mount.Holds mount'

/-- Whether a container of a machine is to get a mount for logs: a path of it is for logs, and
is not bound. -/
def Document.Logs (document : Document) (machineName : String) : Prop :=
  ∃ key pod index path, document.pods.get? key = some pod ∧ pod.binds index path = false ∧
    document.volumeAt? key index path = some logsVolumeName ∧
      document.machineNameAt? key index = some machineName

theorem Document.logs_iff {document : Document} {machineName : String} :
    document.Logs machineName ↔
      ∃ site ∈ document.openings, site.declaration.volumeName = logsVolumeName ∧
        site.declaration.machineName = machineName := by
  constructor
  · rintro ⟨key, pod, index, path, found, free, isFor, named⟩
    obtain ⟨site, isOpen, rfl, rfl, -, volume⟩ := exists_mem_openings found free isFor
    have same := (machineNameAt?_of_mem_openings isOpen).symm.trans named
    exact ⟨site, isOpen, volume, Option.some.inj same⟩
  · rintro ⟨site, isOpen, volume, rfl⟩
    obtain ⟨pod, found, free, -⟩ := mem_openings_iff.1 isOpen
    exact ⟨site.pod, pod, site.index, site.declaration.path, found, free,
      volume ▸ volumeAt?_of_mem_openings isOpen, machineNameAt?_of_mem_openings isOpen⟩

instance (document : Document) (machineName : String) : Decidable (document.Logs machineName) :=
  decidable_of_iff _ Document.logs_iff.symm

namespace Plan

variable {workspaceId : String} {volumeOf : String → PodVolume} {choose : Chooser} {plan : Plan}

/-- A mount that is gained for a volume and a machine has the sub-path of both. -/
theorem subPath_of_gainedFor {volumeName machineName : String} {mount : VolumeMount}
    (gains : GainedFor plan.document (plan.bound workspaceId choose volumeOf).document
      volumeName machineName mount) :
    mount.subPath = some (subPath workspaceId volumeName machineName) := by
  obtain ⟨key, index, member, isFor, named⟩ := gains
  obtain ⟨_, _, same, sameMachine, place⟩ :=
    exists_subPath_of_mem_gained_bound workspaceId volumeOf member
  obtain rfl := Option.some.inj (isFor.symm.trans same)
  obtain rfl := Option.some.inj (named.symm.trans sameMachine)
  exact place

/-- The machines that gain a mount for logs are those that were to get one. -/
theorem exists_gainedFor_logs_iff {machineName : String} :
    (∃ mount, GainedFor plan.document (plan.bound workspaceId choose volumeOf).document
        logsVolumeName machineName mount) ↔
      plan.document.Logs machineName := by
  constructor
  · rintro ⟨mount, key, index, member, isFor, named⟩
    obtain ⟨binding, bound, rfl, rfl, rfl⟩ := (mem_gained_bound workspaceId volumeOf).1 member
    obtain ⟨pod, found, free, -⟩ := Document.mem_openings_iff.1 (site_mem_openings bound)
    exact ⟨_, pod, _, _, found, free, isFor, named⟩
  · rintro ⟨key, pod, index, path, found, free, isFor, named⟩
    obtain ⟨mount, member, rfl⟩ := exists_gained_of_free workspaceId volumeOf found free isFor
    exact ⟨mount, key, index, member, isFor, named⟩

/-- The logs of two machines are at the same place just if they are one machine. -/
theorem subPath_eq_iff_of_gainedFor {machine other : String} {mount mount' : VolumeMount}
    (gains : GainedFor plan.document (plan.bound workspaceId choose volumeOf).document
      logsVolumeName machine mount)
    (gains' : GainedFor plan.document (plan.bound workspaceId choose volumeOf).document
      logsVolumeName other mount') :
    mount.subPath = mount'.subPath ↔ machine = other := by
  rw [subPath_of_gainedFor gains, subPath_of_gainedFor gains', Option.some_inj, subPath_eq_iff]
  exact or_iff_right (not_not_intro rfl)

/-- The directory of one machine holds that of another one just if its name does. -/
theorem holds_iff_of_gainedFor {machine other : String} {mount mount' : VolumeMount}
    (gains : GainedFor plan.document (plan.bound workspaceId choose volumeOf).document
      logsVolumeName machine mount)
    (gains' : GainedFor plan.document (plan.bound workspaceId choose volumeOf).document
      logsVolumeName other mount') :
    mount.Holds mount' ↔ machine = other ∨ Encloses machine other := by
  have place := subPath_of_gainedFor gains
  have place' := subPath_of_gainedFor gains'
  have further : Encloses (subPath workspaceId logsVolumeName machine)
      (subPath workspaceId logsVolumeName other) ↔ Encloses machine other :=
    encloses_subPath_iff
  rw [← subPath_eq_iff_of_gainedFor gains gains', ← further]
  unfold VolumeMount.Holds
  rw [place, place']
  simp

/-- **Exactly when a pass confines the machines**, whatever it binds the volumes to. -/
theorem confined_bound_iff :
    Confined plan.document (plan.bound workspaceId choose volumeOf).document ↔
      ∀ first second, plan.document.Logs first → plan.document.Logs second →
        ¬ Encloses first second := by
  constructor
  · intro confined first second logs logs' encloses
    obtain ⟨mount, gains⟩ := exists_gainedFor_logs_iff.2 logs
    obtain ⟨mount', gains'⟩ := exists_gainedFor_logs_iff.2 logs'
    have differ : first ≠ second := by
      rintro rfl
      exact Nat.lt_irrefl _ encloses.slashCount_lt
    exact confined _ _ _ _ gains gains' differ
      ((holds_iff_of_gainedFor gains gains').2 (.inr encloses))
  · intro apart machine other mount mount' gains gains' differ holds
    have logs := exists_gainedFor_logs_iff.1 ⟨mount, gains⟩
    have logs' := exists_gainedFor_logs_iff.1 ⟨mount', gains'⟩
    rcases (holds_iff_of_gainedFor gains gains').1 holds with same | encloses
    · exact differ same
    · exact apart machine other logs logs' encloses

end Plan

/-- A document after a pass that divides the logs among the machines: no two of them have the
same directory, and what it takes for none to have that of another within its own is that no
name goes on to another one. -/
structure DividesLogs (earlier later : Document) : Prop where
  apart : ∀ machine other mount mount', GainedFor earlier later logsVolumeName machine mount →
    GainedFor earlier later logsVolumeName other mount' →
      (mount.subPath = mount'.subPath ↔ machine = other)
  confined_iff : Confined earlier later ↔
    ∀ first second, earlier.Logs first → earlier.Logs second → ¬ Encloses first second

/-- Machines whose names have equally many slashes are confined. -/
theorem DividesLogs.confined_of_slashCount {earlier later : Document}
    (divides : DividesLogs earlier later)
    (same : ∀ first second, earlier.Logs first → earlier.Logs second →
      slashCount first = slashCount second) : Confined earlier later := by
  refine divides.confined_iff.2 fun first second logs logs' encloses => ?_
  have fewer := encloses.slashCount_lt
  rw [same first second logs logs'] at fewer
  exact Nat.lt_irrefl _ fewer

theorem Plan.dividesLogs_bound (workspaceId : String) (volumeOf : String → PodVolume)
    (choose : Chooser) (plan : Plan) :
    DividesLogs plan.document (plan.bound workspaceId choose volumeOf).document where
  apart _ _ _ _ gains gains' := subPath_eq_iff_of_gainedFor gains gains'
  confined_iff := confined_bound_iff

/-! ## Both ways of providing storage -/

/-- **Exactly when machines are confined to their logs.**  Take any document, any workspace, any
random numbers for either strategy, and any directory that answers.  Both ways of providing
storage succeed, and of the mounts that they add for logs, those of different machines are at
different places.  None of them has another one within if, and only if, no two machines that
were to get such a mount have names of which one goes on, with a slash, to the other.  That
is so where the names have equally many slashes. -/
theorem provision_confined_iff {δ : Type} [ClaimDirectory δ] (directory : δ)
    (transient : EmptyDirStrategy) (durable : DurableStrategy) (identity : Identity)
    (document : Document) (draws otherDraws : DrawStream) (listed : List Claim)
    (answers : ClaimDirectory.listByLabel directory workspaceIdLabel identity.workspaceId =
      .ok listed) :
    let brief := (transient.provision identity).start ⟨document, draws⟩
    let lasting := (durable.provision directory identity).start ⟨document, otherDraws⟩
    brief.outcome = .ok () ∧ lasting.outcome = .ok () ∧
      DividesLogs document brief.subject.document ∧
      DividesLogs document lasting.subject.document ∧
      ((∀ first second, document.Logs first → document.Logs second →
          slashCount first = slashCount second) →
        Confined document brief.subject.document ∧
          Confined document lasting.subject.document) := by
  intro brief lasting
  have ⟨brieflySucceeds, brieflyAfter⟩ := transient.start_provision identity ⟨document, draws⟩
  have ⟨durablySucceeds, durablyAfter⟩ :=
    DurableStrategy.start_provision_of_listed answers durable ⟨document, otherDraws⟩
  have briefly : DividesLogs document brief.subject.document := by
    rw [brieflyAfter]
    exact Plan.dividesLogs_bound _ PodVolume.emptyDir transient.choose ⟨document, draws⟩
  have durably : DividesLogs document lasting.subject.document := by
    rw [durablyAfter]
    exact Plan.dividesLogs_bound _ PodVolume.claim _ ⟨document, otherDraws⟩
  exact ⟨brieflySucceeds, durablySucceeds, briefly, durably, fun same =>
    ⟨briefly.confined_of_slashCount same, durably.confined_of_slashCount same⟩⟩

/-- Machines that are called after their pods and containers are confined, whichever way their
logs are stored. -/
theorem provision_confined_iff_pair :
    let brief := (EmptyDirStrategy.provision ⟨"volume"⟩ { workspaceId := "ws" }).start
      ⟨.pair, .cycling #[0]⟩
    let lasting := (DurableStrategy.standard.provision ({} : ClaimTable)
      { workspaceId := "ws" }).start ⟨.pair, .cycling #[1]⟩
    Document.pair.Logs "web/app" ∧ Document.pair.Logs "db/app" ∧
      Confined .pair brief.subject.document ∧ Confined .pair lasting.subject.document := by
  intro brief lasting
  obtain ⟨-, -, -, -, confined⟩ := provision_confined_iff ({} : ClaimTable) ⟨"volume"⟩ .standard
    { workspaceId := "ws" } .pair (.cycling #[0]) (.cycling #[1]) [] rfl
  have one : ∀ site ∈ Document.pair.openings,
      site.declaration.volumeName = logsVolumeName →
        slashCount site.declaration.machineName = 1 := by
    decide
  refine ⟨by decide, by decide, confined fun first second logs logs' => ?_⟩
  obtain ⟨site, isOpen, divided, rfl⟩ := Document.logs_iff.1 logs
  obtain ⟨other, otherOpen, again, rfl⟩ := Document.logs_iff.1 logs'
  rw [one site isOpen divided, one other otherOpen again]

/-- A pod with two machines that write logs: one has the name of the pod, which is noted for its
container, and the other is called after the pod and its container. -/
def Document.nested : Document :=
  let pod := (Pod.named "web" ["app", "side"]).withMachineName "side" "web"
  let machine := Machine.withVolume {} "logs" "/logs"
  ((empty.addPod pod).addMachine "web/app" machine).addMachine "web" machine

/-- A durable pass may give a machine a directory for its logs that has the logs of another
machine within. -/
theorem not_provision_confined :
    ¬ ∀ (directory : ClaimTable) (strategy : DurableStrategy) (identity : Identity)
      (plan : Plan),
      ((strategy.provision directory identity).start plan).outcome = .ok () →
      Confined plan.document
        ((strategy.provision directory identity).start plan).subject.document := by
  intro always
  let ending := (DurableStrategy.standard.provision ({} : ClaimTable)
    { workspaceId := "ws" }).start ⟨.nested, .cycling #[0]⟩
  let Gains := GainedFor .nested ending.subject.document logsVolumeName
  have confined : Confined .nested ending.subject.document :=
    always {} .standard { workspaceId := "ws" } ⟨.nested, .cycling #[0]⟩ rfl
  have outer : Gains "web" ⟨"claim-workspace-aaaaaaaa", "/logs", some "ws/logs/web"⟩ :=
    ⟨"web", 1, by decide, by decide, by decide⟩
  have inner : Gains "web/app" ⟨"claim-workspace-aaaaaaaa", "/logs", some "ws/logs/web/app"⟩ :=
    ⟨"web", 0, by decide, by decide, by decide⟩
  exact confined _ _ _ _ outer inner (by decide) ⟨_, _, rfl, rfl, .inr ⟨"app", by decide⟩⟩

end WorkspaceVolumes
