import WorkspaceVolumes.Proofs.Ledger

/-!
# Directories of claims

A directory in memory keeps its claims under their names, and every way of changing it
says what the table is afterwards, look-up by look-up.

**Deleting by name.**  Deletion by label collects the names of the claims first, and then
removes whatever is under these names.  That it removes the labelled claims and no others
is due to the claims being kept under their own names.

## Main definitions

* `Keyed`: tables in which every claim is under its own name.
* `ClaimTable.Reached`: the directories in memory, as they come about.
* `ClaimTable.insertAll`: a directory with the claims of a document added.
* `ClaimTable.backing?`: the claim that a workspace has for a volume.
* `Provider.released`: what a provider makes of a directory.

## Main statements

* `ClaimTable.delete_of_keyed`: deletion by label keeps exactly the claims without it.
* `ClaimTable.backing?_congr`: the claim for a volume depends on the claims for it alone.
* `release_actsAs`: releasing is routing once, and deleting by label.
-/

namespace WorkspaceVolumes

/-- Whether every claim of a table is under its own name. -/
def Keyed (claims : StringMap Claim) : Prop :=
  ∀ key claim, claims.get? key = some claim → claim.name = key

theorem keyed_empty : Keyed .empty := fun _ _ found => nomatch found

theorem Keyed.insert {claims : StringMap Claim} (keyed : Keyed claims) {name : String}
    {claim : Claim} (named : claim.name = name) : Keyed (claims.insert name claim) := by
  intro key other found
  rw [StringMap.get?_insert] at found
  split at found
  case isTrue same =>
    obtain rfl := Option.some.inj found
    exact named.trans same
  case isFalse => exact keyed key other found

theorem Keyed.issueAll {claims : StringMap Claim} (keyed : Keyed claims)
    (strategy : DurableStrategy) (workspaceId : String) (issues : List Issue) :
    Keyed (issueAll strategy workspaceId issues claims) := by
  induction issues generalizing claims with
  | nil => exact keyed
  | cons issue rest ih => exact ih (keyed.insert (strategy.name_newClaim ..))

/-- Whether a claim backs a volume of a workspace. -/
def Claim.isFor (workspaceId volumeName : String) (claim : Claim) : Bool :=
  claim.label? workspaceIdLabel = some workspaceId &&
    claim.label? volumeNameLabel = some volumeName

theorem Claim.isFor_iff {workspaceId volumeName : String} {claim : Claim} :
    claim.isFor workspaceId volumeName = true ↔
      claim.label? workspaceIdLabel = some workspaceId ∧
        claim.label? volumeNameLabel = some volumeName := by
  rw [isFor, Bool.and_eq_true, decide_eq_true_iff, decide_eq_true_iff]

namespace ClaimTable

/-! ### Adding claims -/

/-- A directory with the claims of a document added. -/
def insertAll (table : ClaimTable) (claims : StringMap Claim) : ClaimTable :=
  claims.values.foldl insert table

theorem foldl_insert_eq (added : List Claim) (table : ClaimTable) :
    added.foldl insert table = { table with
      claims := added.foldl
        (fun claims claim => claims.insert claim.name claim) table.claims } := by
  induction added generalizing table with
  | nil => rfl
  | cons claim rest ih => rw [List.foldl_cons, ih]; rfl

theorem keyed_foldl_insert (added : List Claim) {table : ClaimTable}
    (keyed : Keyed table.claims) : Keyed (added.foldl insert table).claims := by
  induction added generalizing table with
  | nil => exact keyed
  | cons claim rest ih => exact ih (keyed.insert rfl)

/-- A directory that was filled with claims has each under its own name. -/
theorem keyed_ofClaims (claims : List Claim) : Keyed (ofClaims claims).claims :=
  keyed_foldl_insert claims keyed_empty

theorem available_insertAll (table : ClaimTable) (claims : StringMap Claim) :
    (table.insertAll claims).available = table.available := by
  rw [insertAll, foldl_insert_eq]

/-- The claims that are added count before those that are there. -/
theorem get?_claims_insertAll {claims : StringMap Claim} (keyed : Keyed claims)
    (table : ClaimTable) (key : String) :
    (table.insertAll claims).claims.get? key =
      (claims.get? key).or (table.claims.get? key) := by
  have byKey :
      claims.values.foldl (fun claims claim => claims.insert claim.name claim) table.claims =
        claims.entries.foldl (fun claims entry => claims.insert entry.1 entry.2)
          table.claims := by
    rw [StringMap.values, List.foldl_map]
    refine List.foldl_ext _ _ _ fun claims' entry member => ?_
    rw [keyed entry.1 entry.2 (StringMap.get?_eq_some_iff.2 member)]
  rw [insertAll, foldl_insert_eq, byKey, StringMap.get?_foldl_insert_entries]

/-! ### Deleting claims -/

/-- Where claims are under their own names, deletion by label keeps exactly the claims
without it. -/
theorem delete_of_keyed {table : ClaimTable} (keyed : Keyed table.claims)
    (available : table.available = true) (key value : String) :
    table.delete key value = (.ok ((table.labelled key value).map Claim.name),
      { table with claims := table.claims.filter fun _ claim =>
        claim.label? key ≠ some value }) := by
  rw [delete, if_pos available]
  have kept : ((table.labelled key value).map Claim.name).foldl StringMap.erase table.claims =
      table.claims.filter fun _ claim => claim.label? key ≠ some value := by
    refine StringMap.ext_get? fun name => ?_
    rw [StringMap.get?_foldl_erase, StringMap.get?_filter]
    cases found : table.claims.get? name with
    | none => simp
    | some claim =>
      have isValue : claim ∈ table.claims.values := StringMap.mem_values_of_get? found
      by_cases label : claim.label? key = some value
      · have doomed : name ∈ (table.labelled key value).map Claim.name :=
          List.mem_map.2 ⟨claim, mem_labelled.2 ⟨isValue, label⟩, keyed name claim found⟩
        simp [Option.filter, doomed, label]
      · -- A claim of a doomed name would be this one, since both are under their names.
        have spared : name ∉ (table.labelled key value).map Claim.name := by
          intro doomed
          obtain ⟨other, isLabelled, named⟩ := List.mem_map.1 doomed
          obtain ⟨isOther, otherLabel⟩ := mem_labelled.1 isLabelled
          obtain ⟨place, there⟩ := StringMap.mem_values_iff.1 isOther
          obtain rfl : place = name := (keyed place other there).symm.trans named
          obtain rfl := Option.some.inj (there.symm.trans found)
          exact label otherLabel
        simp [Option.filter, spared, label]
  dsimp only
  rw [kept]

theorem keyed_foldl_erase (doomed : List String) {claims : StringMap Claim}
    (keyed : Keyed claims) : Keyed (doomed.foldl StringMap.erase claims) := by
  intro key claim found
  rw [StringMap.get?_foldl_erase] at found
  split at found
  case isTrue => cases found
  case isFalse => exact keyed key claim found

/-- The directories in memory: a new one, and what insertions, deletions by label and
switching off and on make of it. -/
inductive Reached : ClaimTable → Prop
  | new : Reached {}
  | insert {table : ClaimTable} (reached : Reached table) (claim : Claim) :
    Reached (table.insert claim)
  | delete {table : ClaimTable} (reached : Reached table) (key value : String) :
    Reached (table.delete key value).2
  | switch {table : ClaimTable} (reached : Reached table) (available : Bool) :
    Reached { table with available }

/-- Every directory in memory has its claims under their own names. -/
theorem Reached.keyed {table : ClaimTable} (reached : table.Reached) : Keyed table.claims := by
  induction reached with
  | new => exact keyed_empty
  | insert reached claim ih => exact ih.insert rfl
  | @delete table reached key value ih =>
    rw [ClaimTable.delete]
    split
    · exact keyed_foldl_erase _ ih
    · exact ih
  | switch reached available ih => exact ih

/-! ### The claim of a volume -/

/-- The name of the claim that a workspace has for a volume. -/
def backing? (table : ClaimTable) (workspaceId volumeName : String) : Option String :=
  (DurableStrategy.existingClaims workspaceId
    (table.labelled workspaceIdLabel workspaceId)).get? volumeName

variable {table other : ClaimTable} {workspaceId volumeName name : String}

theorem backing?_eq (table : ClaimTable) (workspaceId volumeName : String) :
    table.backing? workspaceId volumeName =
      (table.claims.filter fun _ claim =>
        claim.isFor workspaceId volumeName).values.getLast?.map Claim.name := by
  rw [backing?, DurableStrategy.existingClaims, get?_claimsByVolume, labelled,
    List.filter_filter, List.filter_filter, StringMap.values_filter]
  congr 2
  refine List.filter_congr fun claim _ => ?_
  rw [Claim.isFor, Bool.and_assoc, Bool.and_self, Bool.and_comm]

/-- The claim of a volume depends on the claims for it alone. -/
theorem backing?_congr
    (same : ∀ key, (other.claims.get? key).filter (Claim.isFor workspaceId volumeName) =
      (table.claims.get? key).filter (Claim.isFor workspaceId volumeName)) :
    other.backing? workspaceId volumeName = table.backing? workspaceId volumeName := by
  rw [backing?_eq, backing?_eq]
  refine congrArg (fun claims : StringMap Claim => claims.values.getLast?.map Claim.name) ?_
  refine StringMap.ext_get? fun key => ?_
  rw [StringMap.get?_filter, StringMap.get?_filter]
  exact same key

theorem exists_of_backing? (found : table.backing? workspaceId volumeName = some name) :
    ∃ claim ∈ table.labelled workspaceIdLabel workspaceId,
      claim.label? volumeNameLabel = some volumeName ∧ claim.name = name := by
  obtain ⟨claim, member, -, label, named⟩ := DurableStrategy.exists_of_get?_existingClaims found
  exact ⟨claim, member, label, named⟩

/-- A claim that is found for a volume is in the directory under its name. -/
theorem get?_of_backing? (keyed : Keyed table.claims)
    (found : table.backing? workspaceId volumeName = some name) :
    ∃ claim, table.claims.get? name = some claim ∧
      claim.label? volumeNameLabel = some volumeName := by
  obtain ⟨claim, isLabelled, volume, rfl⟩ := exists_of_backing? found
  obtain ⟨key, there⟩ := StringMap.mem_values_iff.1 (mem_labelled.1 isLabelled).1
  have isKey : claim.name = key := keyed key claim there
  exact ⟨claim, isKey ▸ there, volume⟩

theorem backing?_eq_none : table.backing? workspaceId volumeName = none ↔
    ∀ claim ∈ table.claims.values, claim.isFor workspaceId volumeName = false := by
  rw [backing?_eq, Option.map_eq_none_iff, List.getLast?_eq_none_iff, StringMap.values_filter,
    List.filter_eq_nil_iff]
  simp

end ClaimTable

/-! ### Releasing -/

/-- Releasing is deletion by the label of the workspace. -/
theorem DurableStrategy.cleanup_actsAs {δ : Type} [ClaimDirectory δ]
    (strategy : DurableStrategy) (workspaceId : String) :
    (strategy.cleanup workspaceId : Run δ Unit).ActsAs fun directory =>
      let released := ClaimDirectory.deleteByLabel directory workspaceIdLabel workspaceId
      (released.1.map fun _ => (), released.2) := by
  intro state
  rw [cleanup, Run.on_bind, Run.on_subject]
  dsimp only
  rw [Run.on_bind, Run.on_setSubject]
  dsimp only
  rw [Run.on_bind, Run.on_ofExcept]
  cases (ClaimDirectory.deleteByLabel state.subject workspaceIdLabel workspaceId).1 <;> rfl

section

variable {δ ω : Type} [ClaimDirectory δ] [WorkspaceStore ω]

/-- What a provider makes of a directory when a workspace is released. -/
def Provider.released (workspaceId : String) (provider : Provider) (directory : δ) :
    Except VolumeError Unit × δ :=
  match provider with
  | durable _ =>
    let released := ClaimDirectory.deleteByLabel directory workspaceIdLabel workspaceId
    (released.1.map fun _ => (), released.2)
  | _ => (.ok (), directory)

/-- Cleaning up with a strategy is routing, and cleaning up with what serves the
workspace. -/
theorem Strategy.cleanup_actsAs (store : ω) (workspaceId : String) (strategy : Strategy) :
    (strategy.cleanup store workspaceId : Run δ Unit).ActsAs
      (Run.given (strategy.served store workspaceId) (Provider.released workspaceId)) := by
  induction strategy with
  | none | emptyDir strategy => exact Run.actsAs_pure _
  | durable strategy => exact strategy.cleanup_actsAs workspaceId
  | override persistent transient ih => exact override_actsAs (Run.actsAs_pure _) ih

/-- **Releasing is routing once, and cleaning up.** -/
theorem release_actsAs (store : ω) (strategy : Strategy) (workspaceId : String) :
    (release store strategy workspaceId : Run δ Unit).ActsAs
      (Run.given (strategy.served store workspaceId) (Provider.released workspaceId)) := by
  refine Run.ActsAs.within ?_ .info "release" _
  refine ((effectiveStrategy_actsAs store strategy workspaceId).bind_answer
    fun chosen _ => chosen.cleanup_actsAs store workspaceId).of_eq fun directory => ?_
  rw [Strategy.served_eq_bind]
  cases strategy.effective store workspaceId <;> rfl

end

end WorkspaceVolumes
