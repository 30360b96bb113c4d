import WorkspaceVolumes.Proofs.Directory

/-!
# Durable storage survives

Over the life of a cluster workspaces come and go: one is provisioned, the claims that its
document plans are created, another is released.  A workspace that comes back finds its
volumes where they were, whatever it looks like now and whatever the others have done, as
long as it has not been released in between.

**Invariant.**  The claim that a workspace has for a volume, as `ClaimTable.backing?`
finds it, stays the same once there is one.  A pass adds claims under names that the
directory does not have; those of another workspace have its label, and those of the
workspace itself are for volumes that had no claim.  A release removes the claims of the
workspace that is released and no others.

**Names.**  All that is assumed of the random numbers is that in every pass the drawn
names differ from each other and from the names in the directory at that time.

## Main definitions

* `StoragePass`, `StorageStep`, `runSteps`: passes, steps and runs of a cluster.
* `AdmissibleRun`: runs that draw new names from documents that plan no claims.
* `Serves`: the claim that a volume gets in a pass.

## Main statements

* `StorageStep.backing?_apply`, `backing?_runSteps`: the invariant, for a step and for a
  run.
* `StoragePass.serves_of_backing?`: what a pass does for a volume that has a claim.
* `storage_survives`: what a workspace finds when it comes back.
-/

namespace WorkspaceVolumes

/-! ## Runs -/

/-- A pass of a workspace: the strategy, who it is for, the document and the random
numbers. -/
structure StoragePass where
  strategy : DurableStrategy
  identity : Identity
  document : Document
  draws : DrawStream

namespace StoragePass

/-- The workspace of a pass. -/
def workspaceId (pass : StoragePass) : String := pass.identity.workspaceId

/-- What comes of a pass with a directory. -/
def ending (pass : StoragePass) (table : ClaimTable) : Run.Ending Plan Unit :=
  (pass.strategy.provision table pass.identity).start ⟨pass.document, pass.draws⟩

/-- The document after a pass. -/
def result (pass : StoragePass) (table : ClaimTable) : Document :=
  (pass.ending table).subject.document

/-- The names that are drawn in a pass. -/
def names (pass : StoragePass) (table : ClaimTable) : List String :=
  namesDrawn pass.strategy.stem pass.draws (pass.ending table).subject.draws

/-- A document that plans no claims, and names that are new to the directory and
differ. -/
structure Admissible (pass : StoragePass) (table : ClaimTable) : Prop where
  planless : pass.document.claims = .empty
  different : (pass.names table).Nodup
  new : ∀ name ∈ pass.names table, name ∉ table.names

end StoragePass

/-- A step in the life of a cluster: a pass whose claims are created, or a release. -/
inductive StorageStep
  | provision (pass : StoragePass)
  | release (strategy : DurableStrategy) (workspaceId : String)

namespace StorageStep

/-- The directory after a step. -/
def apply : StorageStep → ClaimTable → ClaimTable
  | provision pass, table => table.insertAll (pass.result table).claims
  | release strategy workspaceId, table => ((strategy.cleanup workspaceId).start table).subject

/-- Whether the names of a step are new. -/
def Admissible : StorageStep → ClaimTable → Prop
  | provision pass, table => pass.Admissible table
  | release _ _, _ => True

/-- Whether a step releases a workspace. -/
def Releases (workspaceId : String) : StorageStep → Prop
  | provision _ => False
  | release _ released => released = workspaceId

end StorageStep

/-- The directory after some steps. -/
def runSteps (steps : List StorageStep) (table : ClaimTable) : ClaimTable :=
  steps.foldl (fun table step => step.apply table) table

/-- A run in which every step is admissible when its turn comes. -/
def AdmissibleRun : List StorageStep → ClaimTable → Prop
  | [], _ => True
  | step :: rest, table => step.Admissible table ∧ AdmissibleRun rest (step.apply table)

theorem runSteps_append (front back : List StorageStep) (table : ClaimTable) :
    runSteps (front ++ back) table = runSteps back (runSteps front table) :=
  List.foldl_append

theorem admissibleRun_append {front back : List StorageStep} {table : ClaimTable} :
    AdmissibleRun (front ++ back) table ↔
      AdmissibleRun front table ∧ AdmissibleRun back (runSteps front table) := by
  induction front generalizing table with
  | nil => exact ⟨fun back => ⟨trivial, back⟩, And.right⟩
  | cons step rest ih =>
    rw [List.cons_append, AdmissibleRun, AdmissibleRun, ih, and_assoc]
    rfl

/-- A directory that answers, with every claim under its own name. -/
structure ClaimTable.Sound (table : ClaimTable) : Prop where
  keyed : Keyed table.claims
  available : table.available = true

theorem ClaimTable.sound_ofClaims (claims : List Claim) : (ofClaims claims).Sound where
  keyed := keyed_ofClaims claims
  available := by rw [ofClaims, foldl_insert_eq]

/-! ## One pass -/

namespace StoragePass

variable {pass : StoragePass} {table : ClaimTable} {volumeName name : String}

/-- A pass with a sound directory succeeds. -/
theorem ending_eq (pass : StoragePass) (sound : table.Sound) :
    (pass.ending table).outcome = .ok () ∧
      (pass.ending table).subject = pass.strategy.pass pass.workspaceId
        (table.labelled workspaceIdLabel pass.workspaceId) ⟨pass.document, pass.draws⟩ := by
  have answers : ClaimDirectory.listByLabel table workspaceIdLabel pass.workspaceId =
      .ok (table.labelled workspaceIdLabel pass.workspaceId) := by
    show ClaimTable.list table _ _ = _
    rw [ClaimTable.list, if_pos sound.available]
  exact DurableStrategy.start_provision_of_listed answers pass.strategy _

/-- An account of an admissible pass: the claims that it makes, and what every gained
mount is for. -/
structure Account (pass : StoragePass) (table : ClaimTable) (issues : List Issue) : Prop where
  claims : (pass.result table).claims = issueAll pass.strategy pass.workspaceId issues .empty
  missing : ∀ issue ∈ issues, table.backing? pass.workspaceId issue.volumeName = none
  different : (issues.map (·.name)).Nodup
  distinct : (issues.map (·.volumeName)).Nodup
  new : ∀ issue ∈ issues, issue.name ∉ table.names
  served : ∀ key index, ∀ mount ∈ gained pass.document (pass.result table) key index,
    ∃ volumeName, pass.document.volumeAt? key index mount.mountPath = some volumeName ∧
      (table.backing? pass.workspaceId volumeName = some mount.name ∨
        table.backing? pass.workspaceId volumeName = none ∧ ⟨volumeName, mount.name⟩ ∈ issues)

theorem exists_account (sound : table.Sound) (admissible : pass.Admissible table) :
    ∃ issues, pass.Account table issues := by
  obtain ⟨planless, different, new⟩ := admissible
  obtain ⟨issues, ledger, claims, drawn⟩ := pass.strategy.exists_ledger_pass pass.workspaceId
    (table.labelled workspaceIdLabel pass.workspaceId) ⟨pass.document, pass.draws⟩
  have after := (pass.ending_eq sound).2
  rw [← after] at claims drawn
  rw [names, drawn] at different new
  -- Nothing is planned, so no name is taken in the document.
  have unplanned (volumeName : String) :
      (claimsByVolume pass.document.claims.values).get? volumeName = none := by
    rw [planless]
    rfl
  have fresh : ∀ issue ∈ issues, pass.document.claims.get? issue.name = none := by
    intro issue _
    rw [planless, StringMap.get?_empty]
  dsimp only at claims
  rw [planless] at claims
  refine ⟨issues, claims, ledger.missing, different, ledger.distinct fresh different,
    fun issue member => new issue.name (List.mem_map_of_mem member), ?_⟩
  intro key index mount member
  rw [result, after] at member
  let plan : Plan := ⟨pass.document, pass.draws⟩
  obtain ⟨binding, bound, rfl, rfl, rfl⟩ : ∃ binding ∈ plan.bindings (pass.strategy.choose
      pass.workspaceId (DurableStrategy.existingClaims pass.workspaceId
        (table.labelled workspaceIdLabel pass.workspaceId))),
      binding.site.pod = key ∧ binding.site.index = index ∧
        binding.mount pass.workspaceId = mount :=
    (Plan.mem_gained_bound pass.workspaceId PodVolume.claim).1 member
  refine ⟨_, Plan.volumeAt?_of_mem_bindings pass.workspaceId bound, ?_⟩
  cases ledger.origin fresh binding bound with
  | existing found => exact .inl found
  | planned _ found => cases (unplanned _).symm.trans found
  | made missing _ made => exact .inr ⟨missing, made⟩

namespace Account

variable {issues : List Issue}

/-- A claim of the document after a pass is one that was made. -/
theorem exists_of_get? (account : pass.Account table issues) {key : String} {claim : Claim}
    (found : (pass.result table).claims.get? key = some claim) :
    ∃ issue ∈ issues, issue.name = key ∧
      claim = issue.claim pass.strategy pass.workspaceId := by
  rw [account.claims] at found
  rcases get?_issueAll_cases found with made | before
  · exact made
  · cases before

theorem keyed (account : pass.Account table issues) : Keyed (pass.result table).claims := by
  rw [account.claims]
  exact keyed_empty.issueAll _ _ _

/-- A claim that was made is in the directory afterwards. -/
theorem get?_insertAll (account : pass.Account table issues) {issue : Issue}
    (member : issue ∈ issues) :
    (table.insertAll (pass.result table).claims).claims.get? issue.name =
      some (issue.claim pass.strategy pass.workspaceId) := by
  have found :=
    get?_issueAll_of_nodup pass.strategy pass.workspaceId .empty account.different member
  rw [ClaimTable.get?_claims_insertAll account.keyed, account.claims, found, Option.some_or]

/-- A claim that a workspace has for a volume is still the one after a pass. -/
theorem backing?_insertAll (account : pass.Account table issues) {workspaceId : String}
    (found : table.backing? workspaceId volumeName = some name) :
    (table.insertAll (pass.result table).claims).backing? workspaceId volumeName =
      some name := by
  rw [← found]
  refine ClaimTable.backing?_congr fun key => ?_
  rw [ClaimTable.get?_claims_insertAll account.keyed]
  cases made : (pass.result table).claims.get? key with
  | none => rw [Option.none_or]
  | some claim =>
    obtain ⟨issue, member, rfl, rfl⟩ := account.exists_of_get? made
    have absent : table.claims.get? issue.name = none :=
      StringMap.notMem_keys_iff.1 (account.new issue member)
    -- The claim is for another volume: the workspace had none for the volume of the claim.
    have other : (issue.claim pass.strategy pass.workspaceId).isFor workspaceId volumeName =
        false := by
      rw [Bool.eq_false_iff, ne_eq, Claim.isFor_iff]
      rintro ⟨owner, volume⟩
      obtain rfl : pass.workspaceId = workspaceId :=
        DurableStrategy.workspaceId_eq_of_newClaim owner
      obtain rfl : issue.volumeName = volumeName :=
        DurableStrategy.volumeName_eq_of_newClaim volume
      cases (account.missing issue member).symm.trans found
    rw [Option.some_or, absent, Option.filter_some_neg other, Option.filter_none]

/-- A volume that a pass has mounted has the claim of the mount from then on. -/
theorem backing?_of_gained (account : pass.Account table issues)
    (served : table.backing? pass.workspaceId volumeName = some name ∨
      table.backing? pass.workspaceId volumeName = none ∧ ⟨volumeName, name⟩ ∈ issues) :
    (table.insertAll (pass.result table).claims).backing? pass.workspaceId volumeName =
      some name := by
  rcases served with found | ⟨missing, member⟩
  · exact account.backing?_insertAll found
  · have there := account.get?_insertAll member
    cases found :
        (table.insertAll (pass.result table).claims).backing? pass.workspaceId volumeName with
    | none =>
      have other := ClaimTable.backing?_eq_none.1 found _ (StringMap.mem_values_of_get? there)
      rw [Bool.eq_false_iff, ne_eq, Claim.isFor_iff] at other
      refine absurd ?_ other
      exact ⟨pass.strategy.label?_workspaceId_newClaim ..,
        pass.strategy.label?_volumeName_newClaim ..⟩
    | some other =>
      -- No second claim for the volume was made, and none was there.
      obtain ⟨claim, isLabelled, volume, rfl⟩ := ClaimTable.exists_of_backing? found
      obtain ⟨isValue, owner⟩ := ClaimTable.mem_labelled.1 isLabelled
      obtain ⟨key, place⟩ := StringMap.mem_values_iff.1 isValue
      rw [ClaimTable.get?_claims_insertAll account.keyed] at place
      rcases Option.or_eq_some_iff.1 place with made | ⟨-, before⟩
      · obtain ⟨issue, isIssue, -, rfl⟩ := account.exists_of_get? made
        have same : issue.volumeName = volumeName :=
          DurableStrategy.volumeName_eq_of_newClaim volume
        obtain rfl := List.inj_on_of_nodup_map account.distinct isIssue member same
        rfl
      · have none := ClaimTable.backing?_eq_none.1 missing claim
          (StringMap.mem_values_of_get? before)
        rw [Claim.isFor_iff.2 ⟨owner, volume⟩] at none
        cases none

end Account

end StoragePass

/-! ## Steps and runs -/

namespace StorageStep

variable {table : ClaimTable}

/-- A release keeps exactly the claims of the other workspaces. -/
theorem apply_release (sound : table.Sound) (strategy : DurableStrategy)
    (workspaceId : String) :
    (release strategy workspaceId).apply table = { table with
      claims := table.claims.filter fun _ claim =>
        claim.label? workspaceIdLabel ≠ some workspaceId } := by
  rw [apply, (strategy.cleanup_actsAs workspaceId).subject_start]
  show (table.delete workspaceIdLabel workspaceId).2 = _
  rw [ClaimTable.delete_of_keyed sound.keyed sound.available]

/-- Every step leaves the directory sound. -/
theorem sound_apply (sound : table.Sound) (step : StorageStep) : (step.apply table).Sound := by
  cases step with
  | provision pass =>
    exact ⟨ClaimTable.keyed_foldl_insert _ sound.keyed,
      (ClaimTable.available_insertAll ..).trans sound.available⟩
  | release strategy workspaceId =>
    rw [apply_release sound]
    refine ⟨fun key claim found => ?_, sound.available⟩
    rw [StringMap.get?_filter, Option.filter_eq_some_iff] at found
    exact sound.keyed key claim found.1

/-- A step that does not release a workspace leaves it the claims that it has for its
volumes. -/
theorem backing?_apply (sound : table.Sound) {step : StorageStep}
    (admissible : step.Admissible table) {workspaceId volumeName name : String}
    (kept : ¬ step.Releases workspaceId)
    (found : table.backing? workspaceId volumeName = some name) :
    (step.apply table).backing? workspaceId volumeName = some name := by
  cases step with
  | provision pass =>
    obtain ⟨issues, account⟩ := StoragePass.exists_account sound admissible
    exact account.backing?_insertAll found
  | release strategy released =>
    rw [apply_release sound, ← found]
    refine ClaimTable.backing?_congr fun key => ?_
    rw [StringMap.get?_filter]
    cases table.claims.get? key with
    | none => rfl
    | some claim =>
      by_cases mine : claim.isFor workspaceId volumeName = true
      · have spared : claim.label? workspaceIdLabel ≠ some released := by
          rw [(Claim.isFor_iff.1 mine).1]
          exact fun same => kept (Option.some.inj same).symm
        rw [Option.filter_filter, Option.filter_some_pos mine]
        exact Option.filter_some_pos (by simp [mine, spared])
      · have other := Bool.eq_false_iff.2 mine
        rw [Option.filter_filter, Option.filter_some_neg other]
        exact Option.filter_some_neg (by simp [other])

end StorageStep

theorem sound_runSteps {steps : List StorageStep} {table : ClaimTable} (sound : table.Sound) :
    (runSteps steps table).Sound := by
  induction steps generalizing table with
  | nil => exact sound
  | cons step rest ih => exact ih (step.sound_apply sound)

/-- A run without a release of a workspace leaves it the claims that it has for its
volumes. -/
theorem backing?_runSteps {steps : List StorageStep} {table : ClaimTable} (sound : table.Sound)
    (admissible : AdmissibleRun steps table) {workspaceId volumeName name : String}
    (kept : ∀ step ∈ steps, ¬ step.Releases workspaceId)
    (found : table.backing? workspaceId volumeName = some name) :
    (runSteps steps table).backing? workspaceId volumeName = some name := by
  induction steps generalizing table with
  | nil => exact found
  | cons step rest ih =>
    obtain ⟨here, later⟩ := admissible
    exact ih (step.sound_apply sound) later
      (fun other member => kept other (List.mem_cons_of_mem _ member))
      (StorageStep.backing?_apply sound here (kept step List.mem_cons_self) found)

/-- Whether a claim serves a volume in a pass: every container that is to get the volume
gains a mount at the path for it, and every mount that is gained for the volume names the
claim. -/
structure Serves (earlier later : Document) (volumeName name : String) : Prop where
  everywhere : ∀ key pod index path, earlier.pods.get? key = some pod →
    pod.binds index path = false →
    earlier.volumeAt? key index path = some volumeName →
      ∃ mount ∈ gained earlier later key index, mount.mountPath = path
  alone : ∀ key index, ∀ mount ∈ gained earlier later key index,
    earlier.volumeAt? key index mount.mountPath = some volumeName → mount.name = name

/-- A pass serves a volume with the claim that the workspace has for it, and makes no
other. -/
theorem StoragePass.serves_of_backing? {pass : StoragePass} {table : ClaimTable}
    (sound : table.Sound) (admissible : pass.Admissible table) {volumeName name : String}
    (found : table.backing? pass.workspaceId volumeName = some name) :
    Serves pass.document (pass.result table) volumeName name ∧
      ∀ claim ∈ (pass.result table).claims.values,
        claim.label? volumeNameLabel ≠ some volumeName := by
  obtain ⟨issues, account⟩ := exists_account sound admissible
  refine ⟨⟨?_, ?_⟩, ?_⟩
  · intro key pod index path there free declared
    let plan : Plan := ⟨pass.document, pass.draws⟩
    have isPod : plan.document.pods.get? key = some pod := there
    rw [result, (pass.ending_eq sound).2]
    exact Plan.exists_gained_of_free pass.workspaceId PodVolume.claim isPod free declared
  · intro key index mount gains declared
    obtain ⟨_, same, served⟩ := account.served key index mount gains
    obtain rfl := Option.some.inj (declared.symm.trans same)
    rcases served with again | ⟨missing, -⟩
    · exact Option.some.inj (again.symm.trans found)
    · cases missing.symm.trans found
  · intro claim isValue label
    obtain ⟨place, claimed⟩ := StringMap.mem_values_iff.1 isValue
    obtain ⟨issue, isIssue, -, rfl⟩ := account.exists_of_get? claimed
    obtain rfl : issue.volumeName = volumeName :=
      DurableStrategy.volumeName_eq_of_newClaim label
    cases (account.missing issue isIssue).symm.trans found

/-- **Durable storage survives.**  Take a directory that was filled somehow, and a run of
passes and releases in which a workspace is provisioned twice, with any other steps before
and between but no release of the workspace between.  Both passes succeed.  Every volume
that the first has mounted still has its claim at the second, which serves the volume with
this claim and plans no other. -/
theorem storage_survives (initial : List Claim) (before between : List StorageStep)
    (first second : StoragePass) (sameWorkspace : second.workspaceId = first.workspaceId)
    (kept : ∀ step ∈ between, ¬ step.Releases first.workspaceId)
    (admissible : AdmissibleRun (before ++ .provision first :: between ++ [.provision second])
      (.ofClaims initial)) :
    let atFirst := runSteps before (.ofClaims initial)
    let atSecond := runSteps (before ++ .provision first :: between) (.ofClaims initial)
    (first.ending atFirst).outcome = .ok () ∧ (second.ending atSecond).outcome = .ok () ∧
    ∀ key index, ∀ mount ∈ gained first.document (first.result atFirst) key index,
      ∃ volumeName, first.document.volumeAt? key index mount.mountPath = some volumeName ∧
        (∃ claim ∈ atSecond.labelled workspaceIdLabel first.workspaceId,
          claim.label? volumeNameLabel = some volumeName ∧ claim.name = mount.name) ∧
        Serves second.document (second.result atSecond) volumeName mount.name ∧
        ∀ claim ∈ (second.result atSecond).claims.values,
          claim.label? volumeNameLabel ≠ some volumeName := by
  intro atFirst atSecond
  rw [admissibleRun_append, admissibleRun_append, AdmissibleRun, AdmissibleRun] at admissible
  obtain ⟨⟨-, here, during⟩, there, -⟩ := admissible
  have soundFirst : atFirst.Sound := sound_runSteps (ClaimTable.sound_ofClaims initial)
  have soundSecond : atSecond.Sound := sound_runSteps (ClaimTable.sound_ofClaims initial)
  refine ⟨(first.ending_eq soundFirst).1, (second.ending_eq soundSecond).1, ?_⟩
  intro key index mount member
  obtain ⟨issues, account⟩ := StoragePass.exists_account soundFirst here
  obtain ⟨volumeName, isFor, served⟩ := account.served key index mount member
  -- From the first pass on, the workspace has the claim of the mount for the volume.
  have found : atSecond.backing? first.workspaceId volumeName = some mount.name := by
    have atOnce := account.backing?_of_gained served
    have soundAfter := (StorageStep.provision first).sound_apply soundFirst
    have afterwards := backing?_runSteps soundAfter during kept atOnce
    rw [show atSecond = runSteps between ((StorageStep.provision first).apply atFirst) from
      runSteps_append ..]
    exact afterwards
  rw [← sameWorkspace] at found
  exact ⟨volumeName, isFor, sameWorkspace ▸ ClaimTable.exists_of_backing? found,
    StoragePass.serves_of_backing? soundSecond there found⟩

/-- A workspace that comes back after another one has come and gone. -/
theorem storage_survives_visitor :
    let first : StoragePass := ⟨.standard, { workspaceId := "ws" }, .single, .cycling #[0]⟩
    let visitor : StoragePass :=
      ⟨.standard, { workspaceId := "visitor" }, .single, .cycling #[1]⟩
    let second : StoragePass := ⟨.standard, { workspaceId := "ws" }, .single, .cycling #[2]⟩
    let atSecond := runSteps
      [.provision first, .provision visitor, .release .standard "visitor"] (.ofClaims [])
    (second.ending atSecond).outcome = .ok () ∧
      (gained .single (second.result atSecond) "web" 0).map (·.name) =
        ["claim-workspace-aaaaaaaa"] ∧
      (∃ claim ∈ atSecond.labelled workspaceIdLabel "ws",
        claim.name = "claim-workspace-aaaaaaaa") ∧
      ∀ claim ∈ (second.result atSecond).claims.values,
        claim.label? volumeNameLabel ≠ some "data" := by
  intro first visitor second atSecond
  have kept : ∀ step ∈ [StorageStep.provision visitor, .release .standard "visitor"],
      ¬ step.Releases first.workspaceId := by
    intro step member
    rcases List.mem_pair.1 member with rfl | rfl
    · exact id
    · exact show "visitor" ≠ "ws" by decide
  have admissible : AdmissibleRun ([] ++ .provision first ::
      [.provision visitor, .release .standard "visitor"] ++ [.provision second])
        (.ofClaims []) :=
    ⟨⟨rfl, by decide, by decide⟩, ⟨rfl, by decide, by decide⟩, trivial,
      ⟨rfl, by decide, by decide⟩, trivial⟩
  have ⟨_, succeeds, survives⟩ := storage_survives [] []
    [.provision visitor, .release .standard "visitor"] first second rfl kept admissible
  obtain ⟨volumeName, isFor, ⟨claim, listed, -, named⟩, -, unplanned⟩ := survives "web" 0
    ⟨"claim-workspace-aaaaaaaa", "/data", some "ws/data"⟩ (by decide)
  obtain rfl : volumeName = "data" := by
    have same : some "data" = some volumeName := isFor
    exact (Option.some.inj same).symm
  exact ⟨succeeds, by decide, ⟨claim, listed, named⟩, unplanned⟩

end WorkspaceVolumes
