import WorkspaceVolumes.Proofs.Persistence

/-!
# Where volumes are stored

Two mounts see the same files if they name the same claim and the same directory of it.
This module says when that is so for the mounts that a pass adds: machines that declare a
volume of one name share it, volumes of different names have nothing in common, and of the
volume for logs each machine has a part of its own.

**Names with slashes.**  A sub-path is put together with slashes, and nothing keeps a
volume or a machine from having one in its name: the sub-path of a volume `logs/web` is
also that of the logs of a machine `web`.  So the sub-path alone does not tell volumes
apart.  The claim does, and between mounts of one volume the sub-path tells the rest.

## Main definitions

* `VolumeMount.location`: the claim and the sub-path of a mount.
* `StoragePass.Gets`: the claim that a volume gets.

## Main statements

* `subPath_eq_iff`: the sub-paths of one volume.
* `StoragePass.Account.name_eq_iff`: a pass keeps one claim for each volume.
* `location_eq_iff`: which of the mounts that a pass adds share their storage.
-/

namespace WorkspaceVolumes

/-- Where the files of a mount are: the claim, and the directory of it. -/
def VolumeMount.location (mount : VolumeMount) : String × Option String :=
  (mount.name, mount.subPath)

/-- Two machines have the same sub-path for a volume, unless it is divided and they
differ. -/
theorem subPath_eq_iff {workspaceId volumeName first second : String} :
    subPath workspaceId volumeName first = subPath workspaceId volumeName second ↔
      volumeName ≠ logsVolumeName ∨ first = second := by
  rw [subPath, subPath]
  by_cases divided : volumeName = logsVolumeName
  · rw [if_pos divided, if_pos divided, String.append_right_inj]
    simp [divided]
  · rw [if_neg divided, if_neg divided]
    simp [divided]

namespace StoragePass

/-- The claim that a volume gets in a pass: the one that the workspace has for it or, if
there is none, one that is made. -/
def Gets (pass : StoragePass) (table : ClaimTable) (issues : List Issue)
    (volumeName name : String) : Prop :=
  table.backing? pass.workspaceId volumeName = some name ∨
    table.backing? pass.workspaceId volumeName = none ∧ ⟨volumeName, name⟩ ∈ issues

variable {pass : StoragePass} {table : ClaimTable}

section

variable {issues : List Issue} {first second name other : String}

/-- A claim that was made is not one that was there. -/
theorem Account.ne_of_backing? (account : pass.Account table issues)
    (keyed : Keyed table.claims)
    (found : table.backing? pass.workspaceId first = some name)
    (made : ⟨second, other⟩ ∈ issues) : name ≠ other := by
  rintro rfl
  obtain ⟨claim, there, -⟩ := ClaimTable.get?_of_backing? keyed found
  exact account.new _ made (StringMap.mem_keys_iff.2 (by rw [there]; rfl))

/-- Two volumes get the same claim just if they are one volume. -/
theorem Account.name_eq_iff (account : pass.Account table issues) (keyed : Keyed table.claims)
    (isFirst : pass.Gets table issues first name)
    (isSecond : pass.Gets table issues second other) :
    name = other ↔ first = second := by
  rcases isFirst with found | ⟨missing, made⟩ <;> rcases isSecond with again | ⟨lacking, new⟩
  case inl.inl =>
    constructor
    · -- Under the name there is one claim, and it is labelled with both volumes.
      rintro rfl
      obtain ⟨claim, there, label⟩ := ClaimTable.get?_of_backing? keyed found
      obtain ⟨same, here, otherLabel⟩ := ClaimTable.get?_of_backing? keyed again
      obtain rfl := Option.some.inj (there.symm.trans here)
      exact Option.some.inj (label.symm.trans otherLabel)
    · rintro rfl
      exact Option.some.inj (found.symm.trans again)
  case inl.inr =>
    constructor
    · intro same
      exact absurd same (account.ne_of_backing? keyed found new)
    · rintro rfl
      cases found.symm.trans lacking
  case inr.inl =>
    constructor
    · intro same
      exact absurd same.symm (account.ne_of_backing? keyed again made)
    · rintro rfl
      cases again.symm.trans missing
  case inr.inr =>
    constructor
    · rintro rfl
      have same := List.inj_on_of_nodup_map account.different made new rfl
      exact congrArg Issue.volumeName same
    · rintro rfl
      have same := List.inj_on_of_nodup_map account.distinct made new rfl
      exact congrArg Issue.name same

end

/-- A gained mount is for a volume and a machine, and has the sub-path that goes with
them. -/
theorem exists_subPath_of_mem_gained (sound : table.Sound) {key : String} {index : Nat}
    {mount : VolumeMount}
    (gains : mount ∈ gained pass.document (pass.result table) key index) :
    ∃ volumeName machineName,
      pass.document.volumeAt? key index mount.mountPath = some volumeName ∧
        pass.document.machineNameAt? key index = some machineName ∧
        mount.subPath = some (subPath pass.workspaceId volumeName machineName) := by
  let plan : Plan := ⟨pass.document, pass.draws⟩
  have after : pass.result table = (plan.bound pass.workspaceId (pass.strategy.choose
      pass.workspaceId (DurableStrategy.existingClaims pass.workspaceId
        (table.labelled workspaceIdLabel pass.workspaceId))) PodVolume.claim).document :=
    congrArg Plan.document (pass.ending_eq sound).2
  rw [after, show pass.document = plan.document from rfl] at gains
  exact Plan.exists_subPath_of_mem_gained_bound pass.workspaceId PodVolume.claim gains

/-- A mount that is gained for a volume and a machine has the sub-path of both, and names
the claim of the volume. -/
theorem Account.served_gainedFor {issues : List Issue} (account : pass.Account table issues)
    (sound : table.Sound) {volumeName machineName : String} {mount : VolumeMount}
    (gains : GainedFor pass.document (pass.result table) volumeName machineName mount) :
    mount.subPath = some (subPath pass.workspaceId volumeName machineName) ∧
      pass.Gets table issues volumeName mount.name := by
  obtain ⟨key, index, member, isFor, named⟩ := gains
  obtain ⟨_, _, same, sameMachine, place⟩ := exists_subPath_of_mem_gained sound member
  obtain rfl := Option.some.inj (isFor.symm.trans same)
  obtain rfl := Option.some.inj (named.symm.trans sameMachine)
  obtain ⟨_, again, served⟩ := account.served key index mount member
  obtain rfl := Option.some.inj (same.symm.trans again)
  exact ⟨place, served⟩

end StoragePass

/-- **Storage is shared as declared.**  Take a directory in memory that answers, and a
document that plans no claims, and let the names that are drawn differ from each other and
from those in the directory.  Then the pass succeeds, every mount that it adds is for a
volume and a machine, and two of them have their files at the same place if, and only if,
they are for the same volume, and for the same machine where the volume is divided. -/
theorem location_eq_iff (pass : StoragePass) (table : ClaimTable) (reached : table.Reached)
    (available : table.available = true) (admissible : pass.Admissible table) :
    let Gains := GainedFor pass.document (pass.result table)
    (pass.ending table).outcome = .ok () ∧
    (∀ key index, ∀ mount ∈ gained pass.document (pass.result table) key index,
      ∃ volumeName machineName, Gains volumeName machineName mount) ∧
    ∀ volume volume' machine machine' mount mount',
      Gains volume machine mount → Gains volume' machine' mount' →
        (mount.location = mount'.location ↔
          volume = volume' ∧ (volume ≠ logsVolumeName ∨ machine = machine')) := by
  intro Gains
  have sound : table.Sound := ⟨reached.keyed, available⟩
  obtain ⟨issues, account⟩ := StoragePass.exists_account sound admissible
  refine ⟨(pass.ending_eq sound).1, ?_, ?_⟩
  · intro key index mount member
    obtain ⟨volumeName, machineName, isFor, named, -⟩ :=
      StoragePass.exists_subPath_of_mem_gained sound member
    exact ⟨volumeName, machineName, key, index, member, isFor, named⟩
  · intro volume volume' machine machine' mount mount' gains gains'
    obtain ⟨place, served⟩ := account.served_gainedFor sound gains
    obtain ⟨place', served'⟩ := account.served_gainedFor sound gains'
    have names := account.name_eq_iff sound.keyed served served'
    rw [VolumeMount.location, VolumeMount.location, Prod.mk.injEq, names, place, place',
      Option.some_inj]
    -- For one volume the sub-paths decide; for two volumes the claims already differ.
    refine and_congr_right fun same => ?_
    rw [same]
    exact subPath_eq_iff

/-- Two machines share the one volume, which has a claim already, and each has its own part
of the other, whose claim is made. -/
theorem location_eq_iff_pair :
    let pass : StoragePass := ⟨.standard, { workspaceId := "ws" }, .pair, .cycling #[0]⟩
    let table := ({} : ClaimTable).insert (DurableStrategy.standard.newClaim "ws" "data" "kept")
    let Gains := GainedFor .pair (pass.result table)
    (∃ web db, Gains "data" "web/app" web ∧ Gains "data" "db/app" db ∧
      web.name = "kept" ∧ web.location = db.location) ∧
    ∃ web db, Gains "logs" "web/app" web ∧ Gains "logs" "db/app" db ∧
      web.name = "claim-workspace-aaaaaaaa" ∧ web.location ≠ db.location := by
  intro pass table Gains
  have admissible : pass.Admissible table := ⟨rfl, by decide, by decide⟩
  obtain ⟨-, -, exactly⟩ := location_eq_iff pass table (.insert .new _) rfl admissible
  have webData : Gains "data" "web/app" ⟨"kept", "/data", some "ws/data"⟩ :=
    ⟨"web", 0, by decide, by decide, by decide⟩
  have dbData : Gains "data" "db/app" ⟨"kept", "/data", some "ws/data"⟩ :=
    ⟨"db", 0, by decide, by decide, by decide⟩
  have webLogs : Gains "logs" "web/app"
      ⟨"claim-workspace-aaaaaaaa", "/logs", some "ws/logs/web/app"⟩ :=
    ⟨"web", 0, by decide, by decide, by decide⟩
  have dbLogs : Gains "logs" "db/app"
      ⟨"claim-workspace-aaaaaaaa", "/logs", some "ws/logs/db/app"⟩ :=
    ⟨"db", 0, by decide, by decide, by decide⟩
  have shared := (exactly _ _ _ _ _ _ webData dbData).2 ⟨rfl, .inl (by decide)⟩
  have apart : ¬ ("logs" = "logs" ∧ ("logs" ≠ logsVolumeName ∨ "web/app" = "db/app")) := by
    decide
  have divided := mt (exactly _ _ _ _ _ _ webLogs dbLogs).1 apart
  exact ⟨⟨_, _, webData, dbData, rfl, shared⟩, ⟨_, _, webLogs, dbLogs, rfl, divided⟩⟩

end WorkspaceVolumes
