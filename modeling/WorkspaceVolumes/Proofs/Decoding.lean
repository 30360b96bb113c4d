import WorkspaceVolumes.Proofs.Shape
import WorkspaceVolumes.Reconciler

/-!
# Reading model types back

What is left out of an encoding is what the reading has a default for, and a reading asks a
record for nothing but the fields it knows.  So every value of a model type is read back
from its encoding, and also from one to which unknown keys have been added, in whatever
records of it (`decode_encode`).  The keys of a table are never unknown: there, another key
is another entry.

**Pod volumes.**  The source of a pod volume is found among the other keys of a record, by
its key.  An entry under another key is passed over, but another source would be a rival.
The shape of a pod volume has the keys of both sources, so neither is unknown.

**Any notation.**  The lemma of each type, `read_of_shows`, speaks of every notation whose
values present self-describing ones.

## Main definitions

* `shape` for each part of a document, for configurations and for reports.
* `ReadsBack`: a type whose values are read back from their encodings.

## Main statements

* `Document.read_of_shows`: a document is read back from a value that shows its encoding.
* `decode_encode`: every model type is read back, with and without unknown keys.
-/

namespace WorkspaceVolumes

section

variable {ν : Type} [DataSource ν] {shows : Shape → ν → Data → Prop} {value : ν}

namespace Metadata

/-- The shape of metadata. -/
def shape : Shape := .record ["name", "labels", "annotations"] fun
  | "labels" | "annotations" => .table .scalar
  | _ => .scalar

theorem read_of_shows (presents : Presents shows) {metadata : Metadata}
    (shown : shows shape value metadata.toData) : read value = pure metadata := by
  obtain ⟨fields, found, gives⟩ := presents.record shown (by
    unfold fieldUnless
    split <;> split <;> rfl)
  have name : fields.required "name" DataSource.text = pure metadata.name :=
    gives.required (by simp) fun _ => presents.text
  have labels : fields.withDefault "labels" .empty (readTable DataSource.text) =
      pure metadata.labels :=
    gives.withDefault (by simp) (fun omitted => (StringMap.eq_empty_of_isEmpty omitted).symm)
      fun _ shown => presents.readTable shown fun _ _ => presents.text
  have annotations : fields.withDefault "annotations" .empty (readTable DataSource.text) =
      pure metadata.annotations :=
    gives.withDefault (by simp) (fun omitted => (StringMap.eq_empty_of_isEmpty omitted).symm)
      fun _ shown => presents.readTable shown fun _ _ => presents.text
  simp only [read, found, name, labels, annotations, pure_bind]

end Metadata

namespace VolumeMount

/-- The shape of a mount. -/
def shape : Shape := .record ["name", "mountPath", "subPath"] fun _ => .scalar

theorem read_of_shows (presents : Presents shows) {mount : VolumeMount}
    (shown : shows shape value mount.toData) : read value = pure mount := by
  obtain ⟨fields, found, gives⟩ := presents.record shown (by cases mount.subPath <;> rfl)
  have name : fields.required "name" DataSource.text = pure mount.name :=
    gives.required (by simp) fun _ => presents.text
  have mountPath : fields.required "mountPath" DataSource.text = pure mount.mountPath :=
    gives.required (by simp) fun _ => presents.text
  have subPath : fields.withDefault "subPath" none readOptionalText = pure mount.subPath :=
    gives.optionalText presents (by simp) rfl
  simp only [read, found, name, mountPath, subPath, pure_bind]

end VolumeMount

namespace Container

/-- The shape of a container. -/
def shape : Shape := .record ["name", "volumeMounts"] fun
  | "volumeMounts" => .list VolumeMount.shape
  | _ => .scalar

theorem read_of_shows (presents : Presents shows) {container : Container}
    (shown : shows shape value container.toData) : read value = pure container := by
  obtain ⟨fields, found, gives⟩ := presents.record shown (by
    unfold fieldUnless
    split <;> rfl)
  have name : fields.required "name" DataSource.text = pure container.name :=
    gives.required (by simp) fun _ => presents.text
  have mounts : fields.withDefault "volumeMounts" [] (readList VolumeMount.read) =
      pure container.mounts :=
    gives.withDefault (by simp) (fun omitted => (List.isEmpty_iff.1 omitted).symm)
      fun _ shown => presents.readList shown fun _ _ => VolumeMount.read_of_shows presents
  simp only [read, found, name, mounts, pure_bind]

end Container

namespace EmptyDirSource

/-- The shape of a source for the life of a pod. -/
def shape : Shape := .record ["medium"] fun _ => .scalar

theorem read_of_shows (presents : Presents shows) {source : EmptyDirSource}
    (shown : shows shape value source.toData) : read value = pure source := by
  obtain ⟨fields, found, gives⟩ := presents.record shown (by cases source.medium <;> rfl)
  have medium : fields.withDefault "medium" none readOptionalText = pure source.medium :=
    gives.optionalText presents (by simp) rfl
  simp only [read, found, medium, pure_bind]

end EmptyDirSource

namespace ClaimSource

/-- The shape of a durable source. -/
def shape : Shape := .record ["claimName", "readOnly"] fun _ => .scalar

theorem read_of_shows (presents : Presents shows) {source : ClaimSource}
    (shown : shows shape value source.toData) : read value = pure source := by
  obtain ⟨fields, found, gives⟩ := presents.record shown (by
    unfold fieldUnless
    split <;> rfl)
  have claimName : fields.required "claimName" DataSource.text = pure source.claimName :=
    gives.required (by simp) fun _ => presents.text
  have readOnly : fields.withDefault "readOnly" false DataSource.flag = pure source.readOnly :=
    gives.withDefault (by simp) (fun omitted : !source.readOnly => by simpa using omitted)
      fun _ => presents.flag
  simp only [read, found, claimName, readOnly, pure_bind]

end ClaimSource

theorem Reading.pure_inj {α : Type} {first second : α}
    (same : (pure first : Reading α) = pure second) : first = second :=
  (Prod.mk.inj (Except.ok.inj (congrFun same 0))).1

@[simp] theorem Reading.liftM_ok {α : Type} (result : α) :
    (liftM (Except.ok result : Except ReadFault α) : Reading α) = pure result := rfl

namespace VolumeSource

/-- The keys that say what backs a volume. -/
def fieldNames : List String := [emptyDirField, claimField]

theorem claimField_ne : claimField ≠ emptyDirField := by decide

/-- Other entries are passed over. -/
theorem readFirst_filter (entries : List (String × Data)) :
    readFirst (entries.filter (fieldNames.contains ·.1)) = readFirst entries := by
  induction entries with
  | nil => rfl
  | cons entry rest ih =>
    rw [List.filter_cons]
    split
    case isTrue =>
      rw [readFirst, readFirst, ih]
    case isFalse other =>
      have others : entry.1 ≠ emptyDirField ∧ entry.1 ≠ claimField := by
        simpa [fieldNames] using other
      rw [ih, readFirst, if_neg others.1, if_neg others.2]

end VolumeSource

namespace PodVolume

/-- The shapes of what a pod volume holds. -/
def fieldShape : String → Shape
  | "emptyDir" => EmptyDirSource.shape
  | "persistentVolumeClaim" => ClaimSource.shape
  | _ => .scalar

/-- The shape of a pod volume, the source of which is found by its key. -/
def shape : Shape := .record ("name" :: VolumeSource.fieldNames) fieldShape

/-- Values that can all be read for their own shape. -/
theorem exists_contents (entries : List (String × ν))
    (contents : ∀ entry ∈ entries, ∃ data, DataSource.content entry.2 = pure data) :
    ∃ others : List (String × Data),
      entries.mapM (fun entry => do return (entry.1, ← DataSource.content entry.2)) =
        pure others ∧
      List.Forall₂ (fun entry other => entry.1 = other.1 ∧
        DataSource.content entry.2 = pure other.2) entries others := by
  induction entries with
  | nil => exact ⟨[], rfl, .nil⟩
  | cons entry rest ih =>
    obtain ⟨data, content⟩ := contents entry List.mem_cons_self
    obtain ⟨others, reads, related⟩ := ih fun other member =>
      contents other (List.mem_cons_of_mem _ member)
    refine ⟨(entry.1, data) :: others, ?_, .cons ⟨rfl, content⟩ related⟩
    rw [List.mapM_cons, content, pure_bind, pure_bind, reads, pure_bind]

/-- The one entry that says what backs a volume is read, among others and for its own shape
first. -/
theorem readFirst_of_gives (presents : Presents shows) {source : VolumeSource}
    {entries : List (String × ν)} {others : List (String × Data)}
    (gives : Gives shows fieldShape (entries.filter (VolumeSource.fieldNames.contains ·.1))
      [source.toField])
    (related : List.Forall₂ (fun entry other => entry.1 = other.1 ∧
      DataSource.content entry.2 = pure other.2) entries others) :
    VolumeSource.readFirst others = pure source := by
  have sources := List.rel_filter (p := (VolumeSource.fieldNames.contains ·.1))
    (q := (VolumeSource.fieldNames.contains ·.1)) (fun _ _ same =>
      iff_of_eq (congrArg (VolumeSource.fieldNames.contains · = true) same.1)) related
  rw [← VolumeSource.readFirst_filter]
  generalize entries.filter (VolumeSource.fieldNames.contains ·.1) = found at gives sources
  generalize others.filter (VolumeSource.fieldNames.contains ·.1) = contents at sources
  cases gives with | cons shown rest
  cases rest
  cases sources with | @cons entry content _ _ same rest
  cases rest
  obtain ⟨isKey, shown⟩ := shown
  obtain ⟨data, answer, known⟩ := presents.content shown
  obtain rfl := Reading.pure_inj (same.2.symm.trans answer)
  rw [VolumeSource.readFirst, ← same.1, isKey]
  cases source with
  | emptyDir source =>
    rw [VolumeSource.toField, if_pos rfl, EmptyDirSource.read_of_shows Data.presents known,
      pure_bind]
  | claim source =>
    rw [VolumeSource.toField, if_neg VolumeSource.claimField_ne, if_pos rfl,
      ClaimSource.read_of_shows Data.presents known, pure_bind]

omit [DataSource ν] in
/-- The name says nothing of what backs a volume. -/
theorem filter_fieldNames (entries : List (String × ν)) :
    (entries.filter (·.1 ≠ "name")).filter (VolumeSource.fieldNames.contains ·.1) =
      entries.filter (VolumeSource.fieldNames.contains ·.1) := by
  rw [List.filter_filter]
  refine List.filter_congr fun entry _ => Bool.and_eq_left_iff_imp.2 fun isField => ?_
  rw [decide_eq_true_iff]
  intro isName
  rw [isName] at isField
  exact absurd isField (by decide)

theorem read_of_shows (presents : Presents shows) {volume : PodVolume}
    (shown : shows shape value volume.toData) : read value = pure volume := by
  obtain ⟨entries, found, gives, contents⟩ := presents.mixture shown (by
    cases volume.source <;> rfl)
  have named := gives.select ["name"] (by simp)
  have sources := gives.select VolumeSource.fieldNames fun _ => List.mem_cons_of_mem _
  have nameAlone : ([("name", .text volume.name), volume.source.toField] : Fields Data).filter
      (["name"].contains ·.1) = [("name", .text volume.name)] := by
    cases volume.source <;> rfl
  have sourceAlone : ([("name", .text volume.name), volume.source.toField] : Fields Data).filter
      (VolumeSource.fieldNames.contains ·.1) = [volume.source.toField] := by
    cases volume.source <;> rfl
  rw [nameAlone] at named
  rw [sourceAlone] at sources
  have picked : Fields.pick ["name"] entries = .ok (entries.filter (["name"].contains ·.1)) :=
    Fields.pick_eq_ok_iff.2 ⟨rfl, named.map_fst ▸ List.nodup_singleton _⟩
  have name : Fields.required (entries.filter (["name"].contains ·.1)) "name" DataSource.text =
      pure volume.name :=
    named.required rfl fun _ => presents.text
  obtain ⟨others, reads, related⟩ := exists_contents (entries.filter (·.1 ≠ "name"))
    fun entry member => contents entry (List.mem_filter.1 member).1
  have source : VolumeSource.readFirst others = pure volume.source := by
    refine readFirst_of_gives presents ?_ related
    rwa [filter_fieldNames]
  simp only [read, found, picked, Reading.liftM_ok, name, reads, source, pure_bind]

end PodVolume

namespace Pod

/-- The shape of the containers and volumes of a pod. -/
def specShape : Shape := .record ["containers", "volumes"] fun
  | "containers" => .list Container.shape
  | _ => .list PodVolume.shape

/-- The shape of a pod. -/
def shape : Shape := .record ["metadata", "spec"] fun
  | "metadata" => Metadata.shape
  | _ => specShape

theorem readSpec_of_shows (presents : Presents shows) {pod : Pod}
    (shown : shows specShape value pod.specData) :
    readSpec value = pure (pod.containers, pod.volumes) := by
  obtain ⟨fields, found, gives⟩ := presents.record shown (by
    unfold fieldUnless
    split <;> rfl)
  have containers : fields.withDefault "containers" [] (readList Container.read) =
      pure pod.containers :=
    gives.present (by simp) fun _ shown =>
      presents.readList shown fun _ _ => Container.read_of_shows presents
  have volumes : fields.withDefault "volumes" [] (readList PodVolume.read) =
      pure pod.volumes :=
    gives.withDefault (by simp) (fun omitted => (List.isEmpty_iff.1 omitted).symm)
      fun _ shown => presents.readList shown fun _ _ => PodVolume.read_of_shows presents
  simp only [readSpec, found, containers, volumes, pure_bind]

theorem read_of_shows (presents : Presents shows) {pod : Pod}
    (shown : shows shape value pod.toData) : read value = pure pod := by
  obtain ⟨fields, found, gives⟩ := presents.record shown rfl
  have metadata : fields.required "metadata" Metadata.read = pure pod.metadata :=
    gives.required (by simp) fun _ => Metadata.read_of_shows presents
  have spec : fields.withDefault "spec" ([], []) readSpec = pure (pod.containers, pod.volumes) :=
    gives.present (by simp) fun _ => readSpec_of_shows presents
  simp only [read, found, metadata, spec, pure_bind]

end Pod

theorem AccessMode.read_of_shows (presents : Presents shows) {mode : AccessMode}
    (shown : shows .scalar value mode.toData) : read value = pure mode := by
  simp only [read, presents.variant shown, pure_bind, ofText?_text]

namespace Claim

/-- The shape of what a claim asks for. -/
def specShape : Shape := .record ["accessModes", "storage"] fun
  | "accessModes" => .list .scalar
  | _ => .scalar

/-- The shape of a claim. -/
def shape : Shape := .record ["metadata", "spec"] fun
  | "metadata" => Metadata.shape
  | _ => specShape

theorem readSpec_of_shows (presents : Presents shows) {claim : Claim}
    (shown : shows specShape value claim.specData) :
    readSpec value = pure (claim.accessModes, claim.storage) := by
  obtain ⟨fields, found, gives⟩ := presents.record shown rfl
  have accessModes : fields.required "accessModes" (readList AccessMode.read) =
      pure claim.accessModes :=
    gives.required (by simp) fun _ shown =>
      presents.readList shown fun _ _ => AccessMode.read_of_shows presents
  have storage : fields.required "storage" DataSource.text = pure claim.storage :=
    gives.required (by simp) fun _ => presents.text
  simp only [readSpec, found, accessModes, storage, pure_bind]

theorem read_of_shows (presents : Presents shows) {claim : Claim}
    (shown : shows shape value claim.toData) : read value = pure claim := by
  obtain ⟨fields, found, gives⟩ := presents.record shown rfl
  have metadata : fields.required "metadata" Metadata.read = pure claim.metadata :=
    gives.required (by simp) fun _ => Metadata.read_of_shows presents
  have spec : fields.required "spec" readSpec = pure (claim.accessModes, claim.storage) :=
    gives.required (by simp) fun _ => readSpec_of_shows presents
  simp only [read, found, metadata, spec, pure_bind]

end Claim

namespace Machine

/-- The shape of a machine. -/
def shape : Shape := .record ["volumes"] fun _ => .table (.record ["path"] fun _ => .scalar)

theorem readDeclaration_of_shows (presents : Presents shows) {path : String}
    (shown : shows (.record ["path"] fun _ => .scalar) value (declarationData path)) :
    readDeclaration value = pure path := by
  obtain ⟨fields, found, gives⟩ := presents.record shown rfl
  have path : fields.required "path" DataSource.text = pure path :=
    gives.required (by simp) fun _ => presents.text
  simp only [readDeclaration, found, path, pure_bind]

theorem read_of_shows (presents : Presents shows) {machine : Machine}
    (shown : shows shape value machine.toData) : read value = pure machine := by
  obtain ⟨fields, found, gives⟩ := presents.record shown rfl
  have paths : fields.withDefault "volumes" .empty (readTable readDeclaration) =
      pure machine.paths :=
    gives.present (by simp) fun _ shown =>
      presents.readTable shown fun _ _ => readDeclaration_of_shows presents
  simp only [read, found, paths, pure_bind]

end Machine

namespace Identity

/-- The shape of an identity. -/
def shape : Shape := .record ["workspace_id", "env_name", "owner_id"] fun _ => .scalar

theorem read_of_shows (presents : Presents shows) {identity : Identity}
    (shown : shows shape value identity.toData) : read value = pure identity := by
  obtain ⟨fields, found, gives⟩ := presents.record shown rfl
  have workspaceId : fields.required "workspace_id" DataSource.text = pure identity.workspaceId :=
    gives.required (by simp) fun _ => presents.text
  have envName : fields.withDefault "env_name" "" DataSource.text = pure identity.envName :=
    gives.present (by simp) fun _ => presents.text
  have ownerId : fields.withDefault "owner_id" "" DataSource.text = pure identity.ownerId :=
    gives.present (by simp) fun _ => presents.text
  simp only [read, found, workspaceId, envName, ownerId, pure_bind]

end Identity

namespace Document

/-- The shape of a document. -/
def shape : Shape := .record ["pods", "machines", "persistentVolumeClaims", "subpaths"] fun
  | "pods" => .table Pod.shape
  | "machines" => .table Machine.shape
  | "persistentVolumeClaims" => .table Claim.shape
  | _ => .list .scalar

theorem read_of_shows (presents : Presents shows) {document : Document}
    (shown : shows shape value document.toData) : read value = pure document := by
  obtain ⟨fields, found, gives⟩ := presents.record shown (by
    unfold fieldUnless
    split <;> rfl)
  have pods : fields.withDefault "pods" .empty (readTable Pod.read) = pure document.pods :=
    gives.present (by simp) fun _ shown =>
      presents.readTable shown fun _ _ => Pod.read_of_shows presents
  have machines : fields.withDefault "machines" .empty (readTable Machine.read) =
      pure document.machines :=
    gives.present (by simp) fun _ shown =>
      presents.readTable shown fun _ _ => Machine.read_of_shows presents
  have claims : fields.withDefault "persistentVolumeClaims" .empty (readTable Claim.read) =
      pure document.claims :=
    gives.present (by simp) fun _ shown =>
      presents.readTable shown fun _ _ => Claim.read_of_shows presents
  have subpaths : fields.withDefault "subpaths" StringMap.empty readSet =
      pure document.subpaths :=
    gives.withDefault (by simp) (fun omitted => (StringMap.eq_empty_of_isEmpty omitted).symm)
      fun _ shown => presents.readSet shown
  simp only [read, found, pods, machines, claims, subpaths, pure_bind]

end Document

namespace ClaimSettings

/-- The shape of claim settings. -/
def shape : Shape := .record fieldNames fun _ => .scalar

theorem read_of_shows (presents : Presents shows) {settings : ClaimSettings}
    (shown : shows shape value settings.toData) : read value = pure settings := by
  obtain ⟨fields, found, gives⟩ := presents.record shown rfl
  have name (default : String) :
      fields.withDefault "name" default DataSource.text = pure settings.name :=
    gives.present (by simp) fun _ => presents.text
  have quantity (default : String) :
      fields.withDefault "quantity" default DataSource.text = pure settings.quantity :=
    gives.present (by simp) fun _ => presents.text
  have accessMode (default : AccessMode) :
      fields.withDefault "access_mode" default AccessMode.read = pure settings.accessMode :=
    gives.present (by simp) fun _ => AccessMode.read_of_shows presents
  have precreateSubpaths (default : Bool) :
      fields.withDefault "precreate_subpaths" default DataSource.flag =
        pure settings.precreateSubpaths :=
    gives.present (by simp) fun _ => presents.flag
  simp only [read, found, name, quantity, accessMode, precreateSubpaths, pure_bind]

end ClaimSettings

namespace VolumesConfig

/-- The shape of a configuration. -/
def shape : Shape := .record fieldNames fun
  | "claim" => ClaimSettings.shape
  | _ => .scalar

theorem read_of_shows (presents : Presents shows) {config : VolumesConfig}
    (shown : shows shape value config.toData) : read value = pure config := by
  obtain ⟨fields, found, gives⟩ := presents.record shown rfl
  have strategy (default : String) :
      fields.withDefault "strategy" default DataSource.text = pure config.strategy :=
    gives.present (by simp) fun _ => presents.text
  have ephemeralOverride (default : Bool) :
      fields.withDefault "ephemeral_override" default DataSource.flag =
        pure config.ephemeralOverride :=
    gives.present (by simp) fun _ => presents.flag
  have claim (default : ClaimSettings) :
      fields.withDefault "claim" default ClaimSettings.read = pure config.claim :=
    gives.present (by simp) fun _ => ClaimSettings.read_of_shows presents
  simp only [read, found, strategy, ephemeralOverride, claim, pure_bind]

end VolumesConfig

namespace ReconcileReport

/-- The shape of a report. -/
def shape : Shape := .record
    ["workspace_id", "strategy", "claims_added", "volumes_added", "mounts_added", "subpaths"] fun
  | "subpaths" => .list .scalar
  | _ => .scalar

theorem read_of_shows (presents : Presents shows) {report : ReconcileReport}
    (shown : shows shape value report.toData) : read value = pure report := by
  obtain ⟨fields, found, gives⟩ := presents.record shown rfl
  have workspaceId : fields.required "workspace_id" DataSource.text = pure report.workspaceId :=
    gives.required (by simp) fun _ => presents.text
  have strategy : fields.required "strategy" DataSource.text = pure report.strategy :=
    gives.required (by simp) fun _ => presents.text
  have claimsAdded : fields.required "claims_added" DataSource.count = pure report.claimsAdded :=
    gives.required (by simp) fun _ => presents.count
  have volumesAdded : fields.required "volumes_added" DataSource.count =
      pure report.volumesAdded :=
    gives.required (by simp) fun _ => presents.count
  have mountsAdded : fields.required "mounts_added" DataSource.count = pure report.mountsAdded :=
    gives.required (by simp) fun _ => presents.count
  have subpaths : fields.required "subpaths" (readList DataSource.text) = pure report.subpaths :=
    gives.required (by simp) fun _ shown => presents.readList shown fun _ _ => presents.text
  simp only [read, found, workspaceId, strategy, claimsAdded, volumesAdded, mountsAdded, subpaths,
    pure_bind]

end ReconcileReport

end

/-- A type whose values are read back from what they are encoded as, also after entries have
been inserted there under unknown keys. -/
structure ReadsBack {α : Type} (shape : Shape) (encode : α → Data) (read : Data → Reading α) :
    Prop where
  encoded (x : α) : (read (encode x)).result = .ok x
  inserted (x : α) (value : Data) (inserts : Relation.ReflTransGen shape.Inserts (encode x) value) :
    (read value).result = .ok x

theorem ReadsBack.of_shows {α : Type} {shape : Shape} {encode : α → Data}
    {read : Data → Reading α}
    (reads : ∀ (x : α) (value : Data), shape.known value = shape.known (encode x) →
      read value = pure x) : ReadsBack shape encode read where
  encoded x := by
    rw [reads x (encode x) rfl]
    rfl
  inserted x value inserts := by
    rw [reads x value (Shape.known_eq_of_inserts inserts)]
    rfl

/-- **Decoding undoes encoding**, for every model type and under any unknown keys. -/
theorem decode_encode :
    ReadsBack Document.shape Document.toData Document.read ∧
    ReadsBack Pod.shape Pod.toData Pod.read ∧
    ReadsBack PodVolume.shape PodVolume.toData PodVolume.read ∧
    ReadsBack Container.shape Container.toData Container.read ∧
    ReadsBack VolumeMount.shape VolumeMount.toData VolumeMount.read ∧
    ReadsBack Metadata.shape Metadata.toData Metadata.read ∧
    ReadsBack Claim.shape Claim.toData Claim.read ∧
    ReadsBack Identity.shape Identity.toData Identity.read ∧
    ReadsBack VolumesConfig.shape VolumesConfig.toData VolumesConfig.read ∧
    ReadsBack ReconcileReport.shape ReconcileReport.toData ReconcileReport.read :=
  ⟨.of_shows fun _ _ => Document.read_of_shows Data.presents,
    .of_shows fun _ _ => Pod.read_of_shows Data.presents,
    .of_shows fun _ _ => PodVolume.read_of_shows Data.presents,
    .of_shows fun _ _ => Container.read_of_shows Data.presents,
    .of_shows fun _ _ => VolumeMount.read_of_shows Data.presents,
    .of_shows fun _ _ => Metadata.read_of_shows Data.presents,
    .of_shows fun _ _ => Claim.read_of_shows Data.presents,
    .of_shows fun _ _ => Identity.read_of_shows Data.presents,
    .of_shows fun _ _ => VolumesConfig.read_of_shows Data.presents,
    .of_shows fun _ _ => ReconcileReport.read_of_shows Data.presents⟩

/-- Unknown keys stand before the name, between it and the source, and in the source. -/
example :
    let source := Data.object [("medium", .text "Memory"), ("sizeLimit", .text "1Gi")]
    (PodVolume.read (Data.object
      [("age", .null), ("name", .text "data"), ("kind", .list []), ("emptyDir", source)])).result =
        .ok ⟨"data", .emptyDir ⟨some "Memory"⟩⟩ := by
  rfl

end WorkspaceVolumes
