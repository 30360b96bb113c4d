import Mathlib.Data.List.Dedup
import WorkspaceVolumes.Proofs.Agenda
import WorkspaceVolumes.Proofs.Tenancy

/-!
# What a durable pass keeps of the claims

A durable pass stores every claim that it makes under the name that was drawn for it, and
does not look whether the name is taken.  Names are random, so that is a matter of luck: a
name that the document has already puts a planned claim out of the way, and a name that is
drawn twice leaves two volumes with one claim.

**What becomes of the claims.**  Claims are made in the order in which the pass comes to the
volumes that they are for.  Under a drawn name there is afterwards the last claim that was made
with it, and what is not under a drawn name is untouched.

**Exactly when.**  Nothing is lost if, and only if, the drawn names differ from each other,
no planned claim is kept under one of them, and no volume that is still to be bound finds a
claim of such a name (`provision_keeps_claims_iff`).

## Main definitions

* `DurableStrategy.found?`: the claim that is found for a volume.
* `KeepsClaims`: a pass that loses nothing, neither of what was planned nor of what is made.
* `NamesFit`: drawn names that are not in the way.

## Main statements

* `size_issueAll`: how many entries made claims add to a table.
* `provision_keeps_claims_iff`: what becomes of the claims, and when a pass loses nothing.
* `not_provision_keeps_claims`: a planned claim that is lost.
-/

namespace WorkspaceVolumes

/-! ## Claims that are found -/

/-- The name of the claim that is found for a volume: one that is listed for the workspace,
or else one that is planned. -/
def DurableStrategy.found? (workspaceId : String) (listed : List Claim)
    (claims : StringMap Claim) (volumeName : String) : Option String :=
  ((existingClaims workspaceId listed).get? volumeName).or
    ((claimsByVolume claims.values).get? volumeName)

/-- A volume gets the claim that is found for it, or one that is made. -/
theorem Backs.found_or_made {existing planned : StringMap String} {issues : List Issue}
    {volumeName name : String} (backs : Backs existing planned issues volumeName name) :
    (existing.get? volumeName).or (planned.get? volumeName) = some name ∨
      ⟨volumeName, name⟩ ∈ issues := by
  cases backs with
  | existing found => exact .inl (by rw [found, Option.some_or])
  | planned missing found => exact .inl (by rw [missing, Option.none_or, found])
  | made _ _ member => exact .inr member

section

variable {strategy : DurableStrategy} {workspaceId : String} {existing : StringMap String}
  {start left : Stock} {done : List Binding} {issues : List Issue}

/-- Claims are made only for volumes for which none is found. -/
theorem Ledger.found?_eq_none
    (ledger : Ledger strategy workspaceId existing start done left issues)
    (fresh : ∀ issue ∈ issues, start.claims.get? issue.name = none) {issue : Issue}
    (member : issue ∈ issues) :
    (existing.get? issue.volumeName).or
      ((claimsByVolume start.claims.values).get? issue.volumeName) = none := by
  rw [ledger.missing issue member, ledger.unplanned fresh issue member, Option.none_or]

/-! ## The size of the table -/

variable {claims : StringMap Claim}

theorem mem_keys_issueAll {key : String} :
    key ∈ (issueAll strategy workspaceId issues claims).keys ↔
      key ∈ issues.map (·.name) ∨ key ∈ claims.keys := by
  induction issues using List.reverseRecOn with
  | nil => simp [issueAll]
  | append_singleton issues issue ih =>
    rw [issueAll_append_singleton, StringMap.mem_keys_insert, ih, List.map_append,
      List.map_singleton, List.mem_append, List.mem_singleton, or_comm (a := key = issue.name),
      or_right_comm]

/-- Made claims add as many entries to a table as they have names that are not keys of it. -/
theorem size_issueAll (strategy : DurableStrategy) (workspaceId : String)
    (issues : List Issue) (claims : StringMap Claim) :
    (issueAll strategy workspaceId issues claims).size =
      claims.size + ((issues.map (·.name)).dedup.filter (· ∉ claims.keys)).length := by
  have kept : ∀ key ∈ claims.keys, key ∈ (issueAll strategy workspaceId issues claims).keys :=
    fun key member => mem_keys_issueAll.2 (.inr member)
  rw [StringMap.size_eq_add_of_keys kept]
  congr 1
  have new : ((issueAll strategy workspaceId issues claims).keys.filter
      (· ∉ claims.keys)).Perm ((issues.map (·.name)).dedup.filter (· ∉ claims.keys)) := by
    refine (List.perm_ext_iff_of_nodup ((StringMap.nodup_keys _).filter _)
      ((List.nodup_dedup _).filter _)).2 fun key => ?_
    rw [List.mem_filter, List.mem_filter, mem_keys_issueAll, List.mem_dedup,
      decide_eq_true_iff, or_and_right, and_not_self_iff, or_false]
  exact new.length_eq

/-- A table grows by the number of made claims just if their names differ and none of them
is a key. -/
theorem size_issueAll_eq_iff :
    (issueAll strategy workspaceId issues claims).size = claims.size + issues.length ↔
      (issues.map (·.name)).Nodup ∧ ∀ issue ∈ issues, issue.name ∉ claims.keys := by
  rw [size_issueAll, Nat.add_left_cancel_iff]
  constructor
  · intro length
    have within : ((issues.map (·.name)).dedup.filter (· ∉ claims.keys)).Sublist
        (issues.map (·.name)) := List.filter_sublist.trans (List.dedup_sublist _)
    have everything : (issues.map (·.name)).dedup.filter (· ∉ claims.keys) =
        issues.map (·.name) := within.eq_of_length (by rw [length, List.length_map])
    refine ⟨everything ▸ (List.nodup_dedup _).filter _, fun issue member => ?_⟩
    have isName : issue.name ∈ issues.map (·.name) := List.mem_map_of_mem member
    rw [← everything, List.mem_filter] at isName
    exact of_decide_eq_true isName.2
  · rintro ⟨different, new⟩
    have all : (issues.map (·.name)).filter (· ∉ claims.keys) = issues.map (·.name) := by
      refine List.filter_eq_self.2 fun name member => ?_
      obtain ⟨issue, made, rfl⟩ := List.mem_map.1 member
      exact decide_eq_true (new issue made)
    rw [different.dedup, all, List.length_map]

end

/-! ## Passes that lose nothing -/

/-- A pass that made some claims and lost nothing: what was planned is planned unchanged, what
was made is there as it was made, no two volumes share a made claim, and there is nothing
else in the table. -/
structure KeepsClaims (strategy : DurableStrategy) (workspaceId : String)
    (issues : List Issue) (earlier later : Document) : Prop where
  kept : ∀ key claim, earlier.claims.get? key = some claim →
    later.claims.get? key = some claim
  made : ∀ issue ∈ issues, later.claims.get? issue.name =
    some (strategy.newClaim workspaceId issue.volumeName issue.name)
  apart : ∀ issue ∈ issues, ∀ volumeName machineName mount,
    GainedFor earlier later volumeName machineName mount → mount.name = issue.name →
      volumeName = issue.volumeName
  size : later.claims.size = earlier.claims.size + issues.length

/-- Names of claims to be made for a document that are in the way neither of each other nor
of the claims that the document plans or finds. -/
structure NamesFit (workspaceId : String) (listed : List Claim) (document : Document)
    (names : List String) : Prop where
  differ : names.Nodup
  free : ∀ name ∈ names, name ∉ document.claims.keys
  unfound : ∀ volumeName, document.Wants volumeName → ∀ name ∈ names,
    DurableStrategy.found? workspaceId listed document.claims volumeName ≠ some name

section

variable {strategy : DurableStrategy} {workspaceId : String} {listed : List Claim}
  {plan : Plan} {issues : List Issue}

/-- A mount that a pass gains for a volume is that of a binding for the volume. -/
theorem exists_binding_of_gainedFor {choose : Chooser} {volumeOf : String → PodVolume}
    {volumeName machineName : String} {mount : VolumeMount}
    (gains : GainedFor plan.document (plan.bound workspaceId choose volumeOf).document
      volumeName machineName mount) :
    ∃ binding ∈ plan.bindings choose,
      binding.site.declaration.volumeName = volumeName ∧ binding.name = mount.name := by
  obtain ⟨key, index, member, isFor, -⟩ := gains
  obtain ⟨binding, bound, rfl, rfl, rfl⟩ := (Plan.mem_gained_bound workspaceId volumeOf).1 member
  have same := Plan.volumeAt?_of_mem_bindings workspaceId bound
  exact ⟨binding, bound, Option.some.inj (same.symm.trans isFor), rfl⟩

/-- A binding of a pass is seen as a mount that is gained for its volume. -/
theorem gainedFor_of_mem_bindings {choose : Chooser} {volumeOf : String → PodVolume}
    {binding : Binding} (bound : binding ∈ plan.bindings choose) :
    GainedFor plan.document (plan.bound workspaceId choose volumeOf).document
      binding.site.declaration.volumeName binding.site.declaration.machineName
      (binding.mount workspaceId) :=
  ⟨binding.site.pod, binding.site.index,
    (Plan.mem_gained_bound workspaceId volumeOf).2 ⟨binding, bound, rfl, rfl, rfl⟩,
    Plan.volumeAt?_of_mem_bindings workspaceId bound,
    Document.machineNameAt?_of_mem_openings (Plan.site_mem_openings bound)⟩

variable
  (ledger : Ledger strategy workspaceId (DurableStrategy.existingClaims workspaceId listed)
    plan.stock (plan.bindings (strategy.choose workspaceId
      (DurableStrategy.existingClaims workspaceId listed)))
    (strategy.pass workspaceId listed plan).stock issues)

include ledger

/-- Where the names fit, a pass loses nothing. -/
theorem keepsClaims_of_namesFit
    (fit : NamesFit workspaceId listed plan.document (issues.map (·.name))) :
    KeepsClaims strategy workspaceId issues plan.document
      (strategy.pass workspaceId listed plan).document := by
  have after : (strategy.pass workspaceId listed plan).document.claims =
      issueAll strategy workspaceId issues plan.document.claims := ledger.claims
  have free : ∀ issue ∈ issues, issue.name ∉ plan.document.claims.keys :=
    fun issue member => fit.free issue.name (List.mem_map_of_mem member)
  have fresh : ∀ issue ∈ issues, plan.document.claims.get? issue.name = none :=
    fun issue member => StringMap.notMem_keys_iff.1 (free issue member)
  refine ⟨fun key claim found => ?_, fun issue member => ?_, ?_, ?_⟩
  · rw [after]
    exact get?_issueAll_of_get? fresh found
  · rw [after]
    exact get?_issueAll_of_nodup strategy workspaceId plan.document.claims fit.differ member
  · intro issue member volumeName machineName mount gains named
    obtain ⟨binding, bound, rfl, same⟩ := exists_binding_of_gainedFor gains
    rcases (ledger.origin fresh binding bound).found_or_made with found | made
    · -- The volume would have found a claim under a drawn name.
      have wanted : plan.document.Wants binding.site.declaration.volumeName :=
        Document.wants_iff.2 ⟨binding.site, Plan.site_mem_openings bound, rfl⟩
      rw [same, named] at found
      exact absurd found (fit.unfound _ wanted issue.name (List.mem_map_of_mem member))
    · exact congrArg Issue.volumeName
        (List.inj_on_of_nodup_map fit.differ made member (same.trans named))
  · rw [after]
    exact size_issueAll_eq_iff.2 ⟨fit.differ, free⟩

/-- A pass that loses nothing has drawn names that fit. -/
theorem namesFit_of_keepsClaims
    (keeps : KeepsClaims strategy workspaceId issues plan.document
      (strategy.pass workspaceId listed plan).document) :
    NamesFit workspaceId listed plan.document (issues.map (·.name)) := by
  have after : (strategy.pass workspaceId listed plan).document.claims =
      issueAll strategy workspaceId issues plan.document.claims := ledger.claims
  have size := keeps.size
  rw [after] at size
  obtain ⟨differ, free⟩ := size_issueAll_eq_iff.1 size
  have fresh : ∀ issue ∈ issues, plan.document.claims.get? issue.name = none :=
    fun issue member => StringMap.notMem_keys_iff.1 (free issue member)
  refine ⟨differ, fun name member => ?_, fun volumeName wanted name member found => ?_⟩
  · obtain ⟨issue, made, rfl⟩ := List.mem_map.1 member
    exact free issue made
  · obtain ⟨issue, made, rfl⟩ := List.mem_map.1 member
    obtain ⟨site, isOpen, rfl⟩ := Document.wants_iff.1 wanted
    obtain ⟨binding, bound, rfl⟩ := Chooser.exists_mem_allot _ plan.stock isOpen
    -- The volume is bound to the claim that it finds, so it is the one this was made for.
    have nothing := ledger.found?_eq_none fresh made
    rcases (ledger.origin fresh binding bound).found_or_made with other | again
    · have named : binding.name = issue.name := Option.some.inj (other.symm.trans found)
      have same := keeps.apart issue made _ _ _ (gainedFor_of_mem_bindings bound) named
      rw [← same] at nothing
      cases nothing.symm.trans found
    · cases (ledger.found?_eq_none fresh again).symm.trans found

end

/-- **Exactly when a durable pass loses no claim.**  A pass succeeds where the directory
answers.  It has made one claim for each drawn name, in order, for a volume that a mount was
gained for; and the claims come in the order in which mounts of their names were gained for
their volumes.  What is not under a drawn name is untouched, and under each of them is the last
claim that was made with it.  Nothing is lost just if the drawn names differ, none of them is a
key of the planned claims, and none is that of a claim that is found for a volume to be bound. -/
theorem provision_keeps_claims_iff {δ : Type} [ClaimDirectory δ] (directory : δ)
    (strategy : DurableStrategy) (identity : Identity) (plan : Plan) (listed : List Claim)
    (answers : ClaimDirectory.listByLabel directory workspaceIdLabel identity.workspaceId =
      .ok listed) :
    let workspaceId := identity.workspaceId
    let ending := (strategy.provision directory identity).start plan
    let names := namesDrawn strategy.stem plan.draws ending.subject.draws
    ending.outcome = .ok () ∧ ∃ issues : List Issue, issues.map (·.name) = names ∧
      (∀ issue ∈ issues, ∃ machineName mount,
        GainedFor plan.document ending.subject.document issue.volumeName machineName mount ∧
          mount.name = issue.name) ∧
      issues.Sublist (plan.document.boundVolumes ending.subject.document) ∧
      (∀ key, key ∉ names →
        ending.subject.document.claims.get? key = plan.document.claims.get? key) ∧
      (∀ name ∈ names, ∃ last, (issues.filter (·.name = name)).getLast? = some last ∧
        ending.subject.document.claims.get? name =
          some (strategy.newClaim workspaceId last.volumeName name)) ∧
      (KeepsClaims strategy workspaceId issues plan.document ending.subject.document ↔
        NamesFit workspaceId listed plan.document names) := by
  intro workspaceId ending names
  have ⟨succeeds, after⟩ := DurableStrategy.start_provision_of_listed answers strategy plan
  obtain ⟨issues, ledger, table, drawn⟩ :=
    strategy.exists_ledger_pass identity.workspaceId listed plan
  refine ⟨succeeds, issues, ?_⟩
  simp only [names, ending, after]
  rw [drawn, table]
  refine ⟨rfl, fun issue member => ?_, ?_, fun key untouched => ?_, fun name member => ?_, ?_⟩
  · obtain ⟨binding, bound, volume, named⟩ := ledger.needed issue member
    rw [← volume, ← named]
    exact ⟨_, _, gainedFor_of_mem_bindings bound, rfl⟩
  · rw [DurableStrategy.pass, Plan.boundVolumes_bound]
    exact ledger.order
  · refine get?_issueAll_of_fresh fun issue member same => untouched ?_
    exact List.mem_map.2 ⟨issue, member, same⟩
  · obtain ⟨last, isLast⟩ := exists_last_of_mem member
    obtain ⟨-, rfl⟩ := mem_of_last isLast
    exact ⟨last, isLast, get?_issueAll_of_last isLast⟩
  · exact ⟨namesFit_of_keepsClaims ledger, keepsClaims_of_namesFit ledger⟩

/-- A document with two volumes to bind, which plans a claim for a third under some name. -/
def Document.caching (name : String) : Document :=
  { pair with claims := .insert .empty name (DurableStrategy.standard.newClaim "ws" "cache" name) }

/-- One volume has a claim already, and that of the other is made under a name that is not
taken.  In another pass one name is drawn over and over, and under it is the claim for the volume
that comes last. -/
theorem provision_keeps_claims_iff_caching :
    let directory :=
      ({} : ClaimTable).insert (DurableStrategy.standard.newClaim "ws" "data" "kept")
    let ending := (DurableStrategy.standard.provision directory { workspaceId := "ws" }).start
      ⟨.caching "old", .cycling #[0]⟩
    let colliding := (DurableStrategy.standard.provision ({} : ClaimTable)
      { workspaceId := "ws" }).start ⟨.pair, .cycling #[0]⟩
    let name := "claim-workspace-aaaaaaaa"
    ending.outcome = .ok () ∧
      ending.subject.document.claims.keys = [name, "old"] ∧
      (∃ issues : List Issue, issues.map (·.name) = [name] ∧
        KeepsClaims .standard "ws" issues (.caching "old") ending.subject.document) ∧
      Document.pair.boundVolumes colliding.subject.document =
        [⟨"data", name⟩, ⟨"logs", name⟩, ⟨"data", name⟩, ⟨"logs", name⟩] ∧
      colliding.subject.document.claims.get? name =
        some (DurableStrategy.standard.newClaim "ws" "logs" name) := by
  intro directory ending colliding name
  let listed := [DurableStrategy.standard.newClaim "ws" "data" "kept"]
  obtain ⟨succeeds, issues, names, -, -, -, -, exactly⟩ :=
    provision_keeps_claims_iff directory .standard { workspaceId := "ws" }
      ⟨.caching "old", .cycling #[0]⟩ listed rfl
  obtain ⟨-, made, madeNames, -, inOrder, -, last, -⟩ :=
    provision_keeps_claims_iff ({} : ClaimTable) .standard { workspaceId := "ws" }
      ⟨.pair, .cycling #[0]⟩ [] rfl
  have drawn : namesDrawn DurableStrategy.standard.stem (.cycling #[0])
      ending.subject.draws = [name] := by
    decide
  have unfound (volumeName name : String)
      (found : DurableStrategy.found? "ws" listed (Document.caching "old").claims volumeName =
        some name) : name = "kept" ∨ name = "old" := by
    rcases Option.or_eq_some_iff.1 found with isListed | ⟨-, isPlanned⟩
    · obtain ⟨claim, member, -, -, rfl⟩ :=
        DurableStrategy.exists_of_get?_existingClaims isListed
      exact .inl (List.mem_singleton.1 member ▸ rfl)
    · obtain ⟨claim, member, -, rfl⟩ := exists_of_get?_claimsByVolume isPlanned
      exact .inr (List.mem_singleton.1 member ▸ rfl)
  have bound : Document.pair.boundVolumes colliding.subject.document =
      [⟨"data", name⟩, ⟨"logs", name⟩, ⟨"data", name⟩, ⟨"logs", name⟩] := by
    decide
  have drawnAgain : namesDrawn DurableStrategy.standard.stem (.cycling #[0])
      colliding.subject.draws = [name, name, name, name] := by
    decide
  refine ⟨succeeds, by decide, ⟨issues, names.trans drawn, exactly.2 ?_⟩, bound, ?_⟩
  · rw [show namesDrawn _ _ _ = _ from drawn]
    refine ⟨List.nodup_singleton _, by decide, fun volumeName _ name member found => ?_⟩
    rw [List.mem_singleton.1 member] at found
    rcases unfound volumeName _ found with same | same <;> exact absurd same (by decide)
  · -- A claim has been made for each mount, so these are the claims.
    rw [show namesDrawn _ _ _ = _ from drawnAgain] at madeNames last
    have each : made = Document.pair.boundVolumes colliding.subject.document := by
      refine inOrder.eq_of_length ?_
      rw [bound, ← List.length_map (·.name), madeNames]
      rfl
    obtain ⟨issue, isLast, there⟩ := last name List.mem_cons_self
    rw [each, bound] at isLast
    obtain rfl : issue = ⟨"logs", name⟩ := Option.some.inj (isLast.symm.trans (by decide))
    exact there

/-- A pass can lose a claim that the document plans: one that is planned under a name that
is drawn. -/
theorem not_provision_keeps_claims :
    ¬ ∀ (directory : ClaimTable) (strategy : DurableStrategy) (identity : Identity)
      (plan : Plan),
      ((strategy.provision directory identity).start plan).outcome = .ok () →
      ∀ key claim, plan.document.claims.get? key = some claim →
        ((strategy.provision directory identity).start plan).subject.document.claims.get? key =
          some claim := by
  intro always
  let planned := DurableStrategy.standard.newClaim "ws" "cache" "claim-workspace-aaaaaaaa"
  have kept := always {} .standard { workspaceId := "ws" }
    ⟨.caching "claim-workspace-aaaaaaaa", .cycling #[0]⟩ rfl
    "claim-workspace-aaaaaaaa" planned (by decide)
  exact absurd kept (by decide)

end WorkspaceVolumes
