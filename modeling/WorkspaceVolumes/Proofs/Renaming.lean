import Mathlib.Data.List.Perm.Basic
import Mathlib.Logic.Equiv.Basic
import WorkspaceVolumes.Proofs.Tenancy

/-!
# Documents with other names

A name that was drawn says nothing but which mounts, volumes and claims belong together.
Two documents that are alike up to drawn names are related by a renaming: a permutation of
all strings, applied wherever a document names a volume or a claim.  Names of pods,
containers and machines, paths and sub-paths stay as they are.

**Renaming and binding.**  A binding adds a mount and a volume, each guarded by a comparison
of names or paths.  An injective renaming keeps the comparisons as they are, so it does not
matter whether a pod is renamed before or after bindings are attached to it.

**Finding a renaming.**  A renaming that takes some names to others is put together from
exchanges of two names, and leaves every other name alone.

## Main definitions

* `Pod.rename`, `renameClaims`, `Document.rename`: a part of a document, and a document, with
  its names changed.
* `Document.Lacks`: a document that does not have a name.
* `Document.RenamesTo`: a document that is another one up to names.
* `Document.SameShape`: documents that differ in names at most.

## Main statements

* `Pod.rename_attachAll`, `rename_issueAll`: renaming commutes with what a pass does.
* `Document.sameShape_rename`: what a renaming leaves as it is.
* `exists_renaming`: a renaming that takes some names to others.
-/

namespace WorkspaceVolumes

/-! ## Renaming -/

/-- A mount of a volume of another name. -/
def VolumeMount.rename (renamed : String → String) (mount : VolumeMount) : VolumeMount :=
  { mount with name := renamed mount.name }

/-- A container with its mounts renamed. -/
def Container.rename (renamed : String → String) (container : Container) : Container :=
  { container with mounts := container.mounts.map (·.rename renamed) }

/-- What backs a volume, under another name if it is a claim. -/
def VolumeSource.rename (renamed : String → String) : VolumeSource → VolumeSource
  | .emptyDir source => .emptyDir source
  | .claim source => .claim { source with claimName := renamed source.claimName }

/-- A volume under another name. -/
def PodVolume.rename (renamed : String → String) (volume : PodVolume) : PodVolume :=
  ⟨renamed volume.name, volume.source.rename renamed⟩

/-- A pod with its mounts and volumes renamed; the pod itself keeps its name. -/
def Pod.rename (renamed : String → String) (pod : Pod) : Pod :=
  { pod with
    containers := pod.containers.map (·.rename renamed)
    volumes := pod.volumes.map (·.rename renamed) }

/-- A claim under another name. -/
def Claim.rename (renamed : String → String) (claim : Claim) : Claim :=
  { claim with metadata := { claim.metadata with name := renamed claim.metadata.name } }

/-- A table of claims with the claims and their keys renamed. -/
def renameClaims (renamed : String → String) (claims : StringMap Claim) : StringMap Claim :=
  (claims.mapWithKey fun _ claim => claim.rename renamed).rekey renamed

/-- A document with its volumes and claims renamed. -/
def Document.rename (renamed : String → String) (document : Document) : Document :=
  { document with
    pods := document.pods.mapWithKey fun _ pod => pod.rename renamed
    claims := renameClaims renamed document.claims }

/-- A binding to an object of another name. -/
def Binding.rename (renamed : String → String) (binding : Binding) : Binding :=
  { binding with name := renamed binding.name }

/-- A made claim under another name. -/
def Issue.rename (renamed : String → String) (issue : Issue) : Issue :=
  { issue with name := renamed issue.name }

theorem Issue.rename_eq {renamed : String → String} {issue other : Issue}
    (volumeName : issue.volumeName = other.volumeName) (name : renamed issue.name = other.name) :
    issue.rename renamed = other := by
  rw [rename, volumeName, name]

/-! ## Names that a document does not have -/

/-- Whether no mount and no volume of a pod has a name, nor a claim behind a volume. -/
structure Pod.Lacks (pod : Pod) (name : String) : Prop where
  mounts : ∀ container ∈ pod.containers, ∀ mount ∈ container.mounts, mount.name ≠ name
  volumes : ∀ volume ∈ pod.volumes, volume.name ≠ name ∧ volume.claimName? ≠ some name

/-- Whether a name is new to the pods and the claims of a document. -/
structure Document.Lacks (document : Document) (name : String) : Prop where
  pods : ∀ key pod, document.pods.get? key = some pod → pod.Lacks name
  claims : NewTo document.claims name

instance (pod : Pod) (name : String) : Decidable (pod.Lacks name) :=
  decidable_of_iff
    ((∀ container ∈ pod.containers, ∀ mount ∈ container.mounts, mount.name ≠ name) ∧
      ∀ volume ∈ pod.volumes, volume.name ≠ name ∧ volume.claimName? ≠ some name)
    ⟨fun ⟨mounts, volumes⟩ => ⟨mounts, volumes⟩, fun ⟨mounts, volumes⟩ => ⟨mounts, volumes⟩⟩

instance (claims : StringMap Claim) (name : String) : Decidable (NewTo claims name) :=
  decidable_of_iff (∀ entry ∈ claims.entries, entry.1 ≠ name ∧ entry.2.name ≠ name)
    ⟨fun new key claim found => new (key, claim) (StringMap.get?_eq_some_iff.1 found),
      fun new entry member => new entry.1 entry.2 (StringMap.get?_eq_some_iff.2 member)⟩

instance (document : Document) (name : String) : Decidable (document.Lacks name) :=
  decidable_of_iff
    ((∀ entry ∈ document.pods.entries, entry.2.Lacks name) ∧ NewTo document.claims name)
    ⟨fun ⟨pods, claims⟩ =>
        ⟨fun key pod found => pods (key, pod) (StringMap.get?_eq_some_iff.1 found), claims⟩,
      fun ⟨pods, claims⟩ =>
        ⟨fun entry member => pods entry.1 entry.2 (StringMap.get?_eq_some_iff.2 member),
          claims⟩⟩

section

variable {renamed : String → String}

/-! ## Renaming pods -/

/-- A list is left as it is by a change that leaves its elements as they are. -/
theorem map_eq_self {α : Type} {change : α → α} {items : List α}
    (same : ∀ item ∈ items, change item = item) : items.map change = items :=
  (List.map_congr_left same).trans (List.map_id items)

namespace Pod

/-- A pod without the names that a renaming changes is left as it is. -/
theorem rename_eq_self {pod : Pod} (lacks : ∀ name, renamed name ≠ name → pod.Lacks name) :
    pod.rename renamed = pod := by
  have containers : pod.containers.map (·.rename renamed) = pod.containers := by
    refine map_eq_self fun container isContainer => ?_
    have mounts : container.mounts.map (·.rename renamed) = container.mounts := by
      refine map_eq_self fun mount isMount => ?_
      have kept : renamed mount.name = mount.name := by
        by_contra moved
        exact (lacks _ moved).mounts container isContainer mount isMount rfl
      rw [VolumeMount.rename, kept]
    rw [Container.rename, mounts]
  have volumes : pod.volumes.map (·.rename renamed) = pod.volumes := by
    refine map_eq_self fun volume isVolume => ?_
    have kept : renamed volume.name = volume.name := by
      by_contra moved
      exact ((lacks _ moved).volumes volume isVolume).1 rfl
    obtain ⟨name, source⟩ := volume
    cases source with
    | emptyDir source => rw [PodVolume.rename, kept, VolumeSource.rename]
    | claim source =>
      have claimKept : renamed source.claimName = source.claimName := by
        by_contra moved
        exact ((lacks _ moved).volumes _ isVolume).2 rfl
      rw [PodVolume.rename, kept, VolumeSource.rename, claimKept]
  rw [rename, containers, volumes]

theorem rename_addMount (pod : Pod) (index : Nat) (mount : VolumeMount) :
    (pod.addMount index mount).rename renamed =
      (pod.rename renamed).addMount index (mount.rename renamed) := by
  have one (container : Container) :
      (container.addMount mount).rename renamed =
        (container.rename renamed).addMount (mount.rename renamed) := by
    have bound : (container.rename renamed).hasMountPath mount.mountPath =
        container.hasMountPath mount.mountPath := List.any_map
    rw [Container.addMount, Container.addMount,
      show (mount.rename renamed).mountPath = mount.mountPath from rfl, bound]
    split
    · rfl
    · simp [Container.rename]
  have containers : (pod.containers.modify index (·.addMount mount)).map (·.rename renamed) =
      (pod.containers.map (·.rename renamed)).modify index
        (·.addMount (mount.rename renamed)) := by
    refine List.ext_getElem? fun place => ?_
    rw [List.getElem?_map, List.getElem?_modify, List.getElem?_modify, List.getElem?_map]
    cases pod.containers[place]? with
    | none => rfl
    | some container =>
      by_cases here : index = place
      · simp [here, one]
      · simp [here]
  rw [addMount, addMount, rename, containers]
  rfl

variable (injective : Function.Injective renamed)

include injective

theorem rename_addVolume (pod : Pod) (volume : PodVolume) :
    (pod.addVolume volume).rename renamed =
      (pod.rename renamed).addVolume (volume.rename renamed) := by
  have taken : (pod.rename renamed).hasVolume (volume.rename renamed).name =
      pod.hasVolume volume.name := by
    rw [hasVolume, hasVolume, rename, List.any_map]
    exact List.any_congr rfl fun other => decide_eq_decide.2 injective.eq_iff
  rw [addVolume, addVolume, taken]
  split
  · rfl
  · simp [rename]

section

variable (workspaceId : String) {volumeOf : String → PodVolume}
  (fits : ∀ name, (volumeOf name).rename renamed = volumeOf (renamed name))

include fits

/-- A pod can be renamed before or after a binding is attached to it. -/
theorem rename_attach (binding : Binding) (pod : Pod) :
    (binding.attach workspaceId volumeOf pod).rename renamed =
      (binding.rename renamed).attach workspaceId volumeOf (pod.rename renamed) := by
  rw [Binding.attach, rename_addVolume injective, rename_addMount, fits]
  rfl

/-- **A pod can be renamed before or after bindings are attached to it.** -/
theorem rename_attachAll (bindings : List Binding) (pod : Pod) :
    (pod.attachAll workspaceId volumeOf bindings).rename renamed =
      (pod.rename renamed).attachAll workspaceId volumeOf (bindings.map (·.rename renamed)) := by
  induction bindings generalizing pod with
  | nil => rfl
  | cons binding rest ih =>
    rw [attachAll, List.foldl_cons, ← attachAll, ih,
      rename_attach injective workspaceId fits]
    rfl

end

end Pod

end

/-! ## Renaming claims -/

section

variable (renamed : Equiv.Perm String)

theorem get?_renameClaims (claims : StringMap Claim) (key : String) :
    (renameClaims renamed claims).get? (renamed key) =
      (claims.get? key).map (·.rename renamed) := by
  rw [renameClaims, StringMap.get?_rekey renamed.injective, StringMap.get?_mapWithKey]

theorem size_renameClaims (claims : StringMap Claim) :
    (renameClaims renamed claims).size = claims.size := by
  rw [renameClaims, StringMap.size_rekey renamed.injective, StringMap.size_eq_length_keys,
    StringMap.keys_mapWithKey, ← StringMap.size_eq_length_keys]

/-- A claim can be renamed before or after it is added. -/
theorem renameClaims_insert (claims : StringMap Claim) (key : String) (claim : Claim) :
    renameClaims renamed (claims.insert key claim) =
      (renameClaims renamed claims).insert (renamed key) (claim.rename renamed) := by
  refine StringMap.ext_get? (renamed.surjective.forall.2 fun found => ?_)
  rw [get?_renameClaims, StringMap.get?_insert, StringMap.get?_insert, get?_renameClaims]
  by_cases same : key = found
  · rw [if_pos same, if_pos (congrArg renamed same), Option.map_some]
  · rw [if_neg same, if_neg (renamed.injective.ne same)]

variable {renamed} in
/-- Claims without the names that a renaming changes are left as they are. -/
theorem renameClaims_eq_self {claims : StringMap Claim}
    (lacks : ∀ name, renamed name ≠ name → NewTo claims name) :
    renameClaims renamed claims = claims := by
  refine StringMap.ext_get? (renamed.surjective.forall.2 fun key => ?_)
  rw [get?_renameClaims]
  by_cases moved : renamed key = key
  · rw [moved]
    cases found : claims.get? key with
    | none => rfl
    | some claim =>
      have kept : renamed claim.metadata.name = claim.metadata.name := by
        by_contra changed
        exact (lacks _ changed key claim found).2 rfl
      rw [Option.map_some, Claim.rename, kept]
  · -- Neither the key nor what it is changed to is a key of the table.
    have again : renamed (renamed key) ≠ renamed key := renamed.injective.ne moved
    rw [(lacks _ moved).get?_eq_none, (lacks _ again).get?_eq_none, Option.map_none]

/-- Claims can be renamed before or after they are made. -/
theorem rename_issueAll (strategy : DurableStrategy) (workspaceId : String)
    (issues : List Issue) (claims : StringMap Claim) :
    renameClaims renamed (issueAll strategy workspaceId issues claims) =
      issueAll strategy workspaceId (issues.map (·.rename renamed))
        (renameClaims renamed claims) := by
  induction issues generalizing claims with
  | nil => rfl
  | cons issue rest ih =>
    rw [issueAll, List.foldl_cons, ← issueAll, ih, renameClaims_insert]
    rfl

/-- The order in which claims are made does not matter if their names differ. -/
theorem issueAll_perm {strategy : DurableStrategy} {workspaceId : String}
    {issues others : List Issue} (same : issues.Perm others)
    (different : (issues.map (·.name)).Nodup) (claims : StringMap Claim) :
    issueAll strategy workspaceId issues claims =
      issueAll strategy workspaceId others claims := by
  refine same.foldl_eq' (fun first isFirst second isSecond claims => ?_) claims
  by_cases equal : first = second
  · rw [equal]
  · have names : first.name ≠ second.name :=
      fun sameName => equal (List.inj_on_of_nodup_map different isFirst isSecond sameName)
    exact StringMap.insert_comm names claims _ _

end

/-! ## Renaming documents -/

namespace Document

/-- The name that a mount of a container has, which is given by its place among the mounts. -/
def nameAt? (document : Document) (key : String) (index place : Nat) : Option String :=
  (document.mountsAt key index)[place]?.map (·.name)

/-- Two documents that differ in the names of volumes and claims at most: in both, the
containers bind the same paths to the same sub-paths in the same order, there are as many
claims, the same mounts share a name, and the same sub-paths are listed. -/
structure SameShape (first second : Document) : Prop where
  bound : ∀ key index,
    (second.mountsAt key index).map (fun mount => (mount.mountPath, mount.subPath)) =
      (first.mountsAt key index).map fun mount => (mount.mountPath, mount.subPath)
  claims : second.claims.size = first.claims.size
  shared : ∀ key index place otherKey otherIndex otherPlace,
    second.nameAt? key index place = second.nameAt? otherKey otherIndex otherPlace ↔
      first.nameAt? key index place = first.nameAt? otherKey otherIndex otherPlace
  subpaths : second.subpaths = first.subpaths

theorem mountsAt_rename (renamed : String → String) (document : Document) (key : String)
    (index : Nat) :
    (document.rename renamed).mountsAt key index =
      (document.mountsAt key index).map (·.rename renamed) := by
  have pods : (document.rename renamed).pods.get? key =
      (document.pods.get? key).map (·.rename renamed) := StringMap.get?_mapWithKey ..
  cases found : document.pods.get? key with
  | none =>
    rw [found, Option.map_none] at pods
    rw [mountsAt_of_absent pods, mountsAt_of_absent found, List.map_nil]
  | some pod =>
    rw [found, Option.map_some] at pods
    rw [mountsAt_eq pods, mountsAt_eq found, Pod.rename, List.getElem?_map]
    cases pod.containers[index]? <;> rfl

/-- Whether a document is turned into another by changing some names into other names, one to
one, and nothing else. -/
def RenamesTo (names otherNames : List String) (document other : Document) : Prop :=
  ∃ renamed : Equiv.Perm String, (names.map renamed).Perm otherNames ∧
    (∀ name, renamed name ≠ name → name ∈ names ++ otherNames) ∧
    document.rename renamed = other

/-- A renaming leaves the shape of a document as it is. -/
theorem sameShape_rename (renamed : Equiv.Perm String) (document : Document) :
    document.SameShape (document.rename renamed) where
  bound key index := by
    rw [mountsAt_rename, List.map_map]
    rfl
  claims := size_renameClaims renamed document.claims
  shared key index place otherKey otherIndex otherPlace := by
    have named (key : String) (index place : Nat) :
        (document.rename renamed).nameAt? key index place =
          (document.nameAt? key index place).map renamed := by
      rw [nameAt?, nameAt?, mountsAt_rename, List.getElem?_map, Option.map_map, Option.map_map]
      rfl
    rw [named, named]
    exact (Option.map_injective renamed.injective).eq_iff
  subpaths := rfl

/-- A document that is another one up to names has the shape of it. -/
theorem RenamesTo.sameShape {names otherNames : List String} {document other : Document}
    (renames : document.RenamesTo names otherNames other) : document.SameShape other := by
  obtain ⟨renamed, -, -, rfl⟩ := renames
  exact sameShape_rename renamed document

end Document

/-! ## Finding a renaming -/

/-- Some names can be changed to others, one to one, by a renaming that changes nothing
else. -/
theorem exists_perm_of_pairs {pairs : List (String × String)}
    (firsts : (pairs.map Prod.fst).Nodup) (seconds : (pairs.map Prod.snd).Nodup) :
    ∃ renamed : Equiv.Perm String, (∀ pair ∈ pairs, renamed pair.1 = pair.2) ∧
      ∀ name, name ∉ pairs.map Prod.fst → name ∉ pairs.map Prod.snd →
        renamed name = name := by
  induction pairs with
  | nil => exact ⟨Equiv.refl String, fun _ member => absurd member List.not_mem_nil,
      fun _ _ _ => rfl⟩
  | cons pair rest ih =>
    obtain ⟨first, second⟩ := pair
    rw [List.map_cons, List.nodup_cons] at firsts seconds
    obtain ⟨renamed, changes, keeps⟩ := ih firsts.2 seconds.2
    -- What the renaming makes of the first name is exchanged for what it should be.
    refine ⟨renamed.trans (Equiv.swap (renamed first) second), ?_, ?_⟩
    · intro pair member
      rcases List.mem_cons.1 member with rfl | behind
      · exact Equiv.swap_apply_left ..
      · have image := changes pair behind
        have notFirst : pair.1 ≠ first :=
          fun same => firsts.1 (List.mem_map.2 ⟨pair, behind, same⟩)
        have notSecond : pair.2 ≠ second :=
          fun same => seconds.1 (List.mem_map.2 ⟨pair, behind, same⟩)
        rw [Equiv.trans_apply, image, Equiv.swap_apply_of_ne_of_ne _ notSecond]
        rw [← image]
        exact renamed.injective.ne notFirst
    · intro name notFirst notSecond
      rw [List.map_cons, List.mem_cons, not_or] at notFirst notSecond
      have image := keeps name notFirst.2 notSecond.2
      rw [Equiv.trans_apply, image, Equiv.swap_apply_of_ne_of_ne _ notSecond.1]
      intro same
      rw [← image] at same
      exact notFirst.1 (renamed.injective same)

section

variable {α τ : Type} {token : α → τ} {name : α → String} {items others : List α}

/-- Where the tokens of some items differ, the token determines the name. -/
theorem exists_name_of_token (name : α → String) (tokens : (items.map token).Nodup) :
    ∃ nameOf : τ → String, ∀ item ∈ items, nameOf (token item) = name item := by
  have unique (wanted : τ) : ∃ found, ∀ item ∈ items, token item = wanted → found = name item := by
    by_cases there : ∃ item ∈ items, token item = wanted
    · obtain ⟨item, member, rfl⟩ := there
      exact ⟨name item, fun other isItem same =>
        congrArg name (List.inj_on_of_nodup_map tokens member isItem same.symm)⟩
    · exact ⟨"", fun item member same => absurd ⟨item, member, same⟩ there⟩
  choose nameOf names using unique
  exact ⟨nameOf, fun item member => names _ item member rfl⟩

/-- **Finding a renaming.**  Items with the same tokens, in any order, are given other names
by a renaming, if neither tokens nor names occur twice.  It takes the names of the ones to
the names of the others, token by token, and changes nothing else. -/
theorem exists_renaming (tokens : (items.map token).Perm (others.map token))
    (distinct : (items.map token).Nodup) (names : (items.map name).Nodup)
    (otherNames : (others.map name).Nodup) :
    ∃ renamed : Equiv.Perm String,
      (∀ item ∈ items, ∀ other ∈ others, token item = token other →
        renamed (name item) = name other) ∧
      ((items.map name).map renamed).Perm (others.map name) ∧
      ∀ found, renamed found ≠ found → found ∈ items.map name ++ others.map name := by
  obtain ⟨nameOf, named⟩ := exists_name_of_token name (tokens.nodup_iff.1 distinct)
  let pairs := items.map fun item => (name item, nameOf (token item))
  have firsts : pairs.map Prod.fst = items.map name := by
    rw [List.map_map]
    rfl
  have seconds : (pairs.map Prod.snd).Perm (others.map name) := by
    have before : pairs.map Prod.snd = (items.map token).map nameOf := by
      rw [List.map_map, List.map_map]
      rfl
    have after : others.map name = (others.map token).map nameOf := by
      rw [List.map_map]
      exact List.map_congr_left fun other member => (named other member).symm
    rw [before, after]
    exact tokens.map nameOf
  obtain ⟨renamed, changes, keeps⟩ :=
    exists_perm_of_pairs (firsts ▸ names) (seconds.nodup_iff.2 otherNames)
  have image (item : α) (member : item ∈ items) :
      renamed (name item) = nameOf (token item) :=
    changes _ (List.mem_map_of_mem (f := fun item => (name item, nameOf (token item))) member)
  refine ⟨renamed, ?_, ?_, ?_⟩
  · intro item member other isOther same
    rw [image item member, same, named other isOther]
  · have images : (items.map name).map renamed = pairs.map Prod.snd := by
      rw [List.map_map, List.map_map]
      exact List.map_congr_left image
    rw [images]
    exact seconds
  · intro found moved
    rw [List.mem_append, ← firsts, ← seconds.mem_iff]
    by_contra outside
    rw [not_or] at outside
    exact moved (keeps found outside.1 outside.2)

end

end WorkspaceVolumes
