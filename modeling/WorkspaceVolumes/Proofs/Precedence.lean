import Mathlib.Data.List.Pairwise
import Mathlib.Data.String.Basic
import Mathlib.Order.Bounds.Basic
import WorkspaceVolumes.Proofs.Agenda
import WorkspaceVolumes.Proofs.Retention

/-!
# One claim for each volume

A durable pass sorts the claims of the document by volume anew at every open site, while it
adds claims to them.  The outcome can be told without the pass: it depends on the directory
and on the document as they were before.

**Precedence.**  The claim of a volume is the one with the greatest name in the directory that
carries the labels of the workspace and the volume.  If there is none, it is the last one, in
key order, that the document plans for the volume; and else a claim is made.

**Order.**  Claims are made for the volumes without one, in the order in which the agenda of
the document comes to them, and only one for each (`exists_ledger_in_order`).

## Main definitions

* `Unclaimed`: a volume for which there is no claim.
* `Chosen`: the claim of a volume, by precedence.
* `Document.ByPrecedence`: a document in which every volume got that claim.

## Main statements

* `ClaimTable.isGreatest_of_backing?`: the claim that is found in a directory.
* `Chosen.unique`: the precedence decides.
* `provision_by_precedence`: a durable pass follows the precedence.
-/

namespace WorkspaceVolumes

/-! ## Precedence -/

/-- Whether there is no claim for a volume: none in the directory for the workspace and the
volume, and none for the volume in the document. -/
def Unclaimed (table : ClaimTable) (workspaceId : String) (document : Document)
    (volumeName : String) : Prop :=
  (∀ claim ∈ table.claims.values, claim.isFor workspaceId volumeName = false) ∧
    ∀ claim ∈ document.claims.values, claim.label? volumeNameLabel ≠ some volumeName

instance (table : ClaimTable) (workspaceId : String) (document : Document) :
    DecidablePred (Unclaimed table workspaceId document) := fun _ =>
  inferInstanceAs (Decidable (_ ∧ _))

/-- Whether a claim of a directory is for a volume of a workspace, and has the greatest name of
all these. -/
def ClaimTable.Greatest (table : ClaimTable) (workspaceId volumeName name : String) : Prop :=
  IsGreatest {other | ∃ claim ∈ table.claims.values,
    claim.isFor workspaceId volumeName = true ∧ claim.name = other} name

/-- The name of the claim of a volume, by precedence: the greatest name in the directory, else
the name of the last claim that the document plans, and else that of a claim that is made. -/
inductive Chosen (table : ClaimTable) (workspaceId : String) (document : Document)
    (issues : List Issue) (volumeName name : String) : Prop
  | listed (greatest : table.Greatest workspaceId volumeName name)
  | planned
    (unlisted : ∀ claim ∈ table.claims.values, claim.isFor workspaceId volumeName = false)
    (last : (document.claims.values.filter
      (·.label? volumeNameLabel = some volumeName)).getLast?.map Claim.name = some name)
  | made (unclaimed : Unclaimed table workspaceId document volumeName)
    (member : ⟨volumeName, name⟩ ∈ issues)

/-! ### The greatest name -/

/-- The names of claims that are under their own names are the keys. -/
theorem Keyed.map_name_values {claims : StringMap Claim} (keyed : Keyed claims) :
    claims.values.map Claim.name = claims.keys := by
  unfold StringMap.values StringMap.keys
  rw [List.map_map]
  refine List.map_congr_left fun entry member => ?_
  exact keyed entry.1 entry.2 (StringMap.get?_eq_some_iff.2 member)

namespace ClaimTable

variable {table : ClaimTable} {workspaceId volumeName name : String}

/-- The last claim for a volume is the one with the greatest name, because the claims are under
their own names. -/
theorem isGreatest_of_backing? (keyed : Keyed table.claims)
    (found : table.backing? workspaceId volumeName = some name) :
    table.Greatest workspaceId volumeName name := by
  rw [backing?_eq, StringMap.values_filter, Option.map_eq_some_iff] at found
  obtain ⟨claim, last, rfl⟩ := found
  have increasing : (table.claims.values.map Claim.name).Pairwise (· < ·) := by
    rw [keyed.map_name_values]
    exact List.pairwise_map.2 table.claims.increasing
  have sorted : (table.claims.values.filter (Claim.isFor workspaceId volumeName)).Pairwise
      fun earlier later => earlier.name < later.name :=
    (List.pairwise_map.1 increasing).filter _
  obtain ⟨front, split⟩ := List.getLast?_eq_some_iff.1 last
  constructor
  · obtain ⟨isValue, isFor⟩ := List.mem_filter.1 (List.mem_of_getLast? last)
    exact ⟨claim, isValue, isFor, rfl⟩
  · rintro _ ⟨other, isValue, isFor, rfl⟩
    have member := List.mem_filter.2 ⟨isValue, isFor⟩
    rw [split] at member sorted
    rcases List.mem_append.1 member with before | here
    · exact le_of_lt ((List.pairwise_append.1 sorted).2.2 other before claim
        (List.mem_singleton.2 rfl))
    · rw [List.mem_singleton.1 here]

end ClaimTable

/-! ### The precedence decides -/

section

variable {table : ClaimTable} {workspaceId : String} {document : Document}
  {issues : List Issue} {volumeName name other : String}

theorem unclaimed_iff : Unclaimed table workspaceId document volumeName ↔
    table.backing? workspaceId volumeName = none ∧
      (claimsByVolume document.claims.values).get? volumeName = none := by
  rw [Unclaimed, ClaimTable.backing?_eq_none, get?_claimsByVolume_eq_none]

/-- What a pass looks up, in the directory and among what is planned, comes to the precedence. -/
theorem Chosen.of_backs (keyed : Keyed table.claims)
    (backs : Backs (DurableStrategy.existingClaims workspaceId
      (table.labelled workspaceIdLabel workspaceId)) (claimsByVolume document.claims.values)
        issues volumeName name) :
    Chosen table workspaceId document issues volumeName name := by
  cases backs with
  | existing found => exact .listed (ClaimTable.isGreatest_of_backing? keyed found)
  | planned missing found =>
    rw [get?_claimsByVolume] at found
    exact .planned (ClaimTable.backing?_eq_none.1 missing) found
  | made missing unplanned member => exact .made (unclaimed_iff.2 ⟨missing, unplanned⟩) member

/-- A volume that has a claim in the directory is not one without. -/
theorem ClaimTable.Greatest.not_unlisted (greatest : table.Greatest workspaceId volumeName name)
    (unlisted : ∀ claim ∈ table.claims.values, claim.isFor workspaceId volumeName = false) :
    False := by
  obtain ⟨claim, isValue, isFor, -⟩ := greatest.1
  rw [unlisted claim isValue] at isFor
  cases isFor

/-- Nothing is planned for a volume without a claim. -/
theorem Unclaimed.last_eq_none (unclaimed : Unclaimed table workspaceId document volumeName) :
    (document.claims.values.filter
      (·.label? volumeNameLabel = some volumeName)).getLast?.map Claim.name = none := by
  rw [← get?_claimsByVolume]
  exact (unclaimed_iff.1 unclaimed).2

/-- **The precedence decides**: a volume has one claim, if no two claims are made for one. -/
theorem Chosen.unique (distinct : (issues.map (·.volumeName)).Nodup)
    (first : Chosen table workspaceId document issues volumeName name)
    (second : Chosen table workspaceId document issues volumeName other) : name = other := by
  cases first with
  | listed greatest =>
    cases second with
    | listed alsoGreatest => exact greatest.unique alsoGreatest
    | planned unlisted => exact (greatest.not_unlisted unlisted).elim
    | made unclaimed => exact (greatest.not_unlisted unclaimed.1).elim
  | planned unlisted last =>
    cases second with
    | listed greatest => exact (greatest.not_unlisted unlisted).elim
    | planned _ alsoLast => exact Option.some.inj (last.symm.trans alsoLast)
    | made unclaimed => cases last.symm.trans unclaimed.last_eq_none
  | made unclaimed member =>
    cases second with
    | listed greatest => exact (greatest.not_unlisted unclaimed.1).elim
    | planned _ last => cases last.symm.trans unclaimed.last_eq_none
    | made _ alsoMember =>
      exact congrArg Issue.name (List.inj_on_of_nodup_map distinct member alsoMember rfl)

end

/-! ## The order of the claims -/

section

variable {α : Type} [DecidableEq α] {items : List α} {item : α}

/-- An item that has been there adds nothing to the first occurrences. -/
theorem eraseDups_append_singleton_of_mem (member : item ∈ items) :
    (items ++ [item]).eraseDups = items.eraseDups := by
  simp [List.eraseDups_append, List.removeAll, member]

theorem eraseDups_append_singleton_of_notMem (new : item ∉ items) :
    (items ++ [item]).eraseDups = items.eraseDups ++ [item] := by
  simp [List.eraseDups_append, List.removeAll, List.eraseDups_cons, new]

end

/-- Of some volumes, those for which nothing is found, each where it comes first. -/
def unfoundVolumes (existing planned : StringMap String) (volumes : List String) : List String :=
  (volumes.filter fun volumeName =>
    existing.get? volumeName = none ∧ planned.get? volumeName = none).eraseDups

section

variable {existing planned : StringMap String} {volumes : List String} {volumeName name : String}

theorem mem_unfoundVolumes : volumeName ∈ unfoundVolumes existing planned volumes ↔
    volumeName ∈ volumes ∧ existing.get? volumeName = none ∧ planned.get? volumeName = none := by
  rw [unfoundVolumes, List.mem_eraseDups, List.mem_filter, decide_eq_true_iff]

/-- One more volume for which something is found makes no difference. -/
theorem unfoundVolumes_append_of_found
    (found : (existing.get? volumeName).or (planned.get? volumeName) = some name) :
    unfoundVolumes existing planned (volumes ++ [volumeName]) =
      unfoundVolumes existing planned volumes := by
  have isFound : ¬(existing.get? volumeName = none ∧ planned.get? volumeName = none) := by
    rintro ⟨missing, unplanned⟩
    rw [missing, unplanned] at found
    cases found
  unfold unfoundVolumes
  rw [List.filter_append, List.filter_singleton, decide_eq_false isFound, cond_false,
    List.append_nil]

/-- Nor does one that is among them. -/
theorem unfoundVolumes_append_of_mem
    (member : volumeName ∈ unfoundVolumes existing planned volumes) :
    unfoundVolumes existing planned (volumes ++ [volumeName]) =
      unfoundVolumes existing planned volumes := by
  have unfound := (mem_unfoundVolumes.1 member).2
  unfold unfoundVolumes at member ⊢
  rw [List.mem_eraseDups] at member
  rw [List.filter_append, List.filter_singleton, decide_eq_true unfound, cond_true,
    eraseDups_append_singleton_of_mem member]

theorem unfoundVolumes_append_of_new (missing : existing.get? volumeName = none)
    (unplanned : planned.get? volumeName = none)
    (new : volumeName ∉ unfoundVolumes existing planned volumes) :
    unfoundVolumes existing planned (volumes ++ [volumeName]) =
      unfoundVolumes existing planned volumes ++ [volumeName] := by
  unfold unfoundVolumes at new ⊢
  rw [List.mem_eraseDups] at new
  rw [List.filter_append, List.filter_singleton, decide_eq_true ⟨missing, unplanned⟩, cond_true,
    eraseDups_append_singleton_of_notMem new]

end

/-- **Claims are made in the order in which they are needed.**  If the names are new and
differ, the claims that a durable pass makes are one for each volume for which none is found,
in the order in which the sites come to these volumes. -/
theorem exists_ledger_in_order (strategy : DurableStrategy) (workspaceId : String)
    (existing : StringMap String) (sites : List Site) (start : Stock) :
    ∃ issues, Ledger strategy workspaceId existing start
        ((strategy.choose workspaceId existing).allot sites start).1
        ((strategy.choose workspaceId existing).allot sites start).2 issues ∧
      ((∀ issue ∈ issues, start.claims.get? issue.name = none) →
        (issues.map (·.name)).Nodup →
        issues.map (·.volumeName) = unfoundVolumes existing
          (claimsByVolume start.claims.values) (sites.map (·.declaration.volumeName))) := by
  have volumes : ((strategy.choose workspaceId existing).allot sites start).1.map
      (·.site.declaration.volumeName) = sites.map (·.declaration.volumeName) := by
    have bound := (strategy.choose workspaceId existing).map_site_allot sites start
    have names := congrArg (List.map (·.declaration.volumeName)) bound
    rwa [List.map_map] at names
  rw [← volumes]
  refine exists_ledger_with (motive := fun done issues =>
    (∀ issue ∈ issues, start.claims.get? issue.name = none) → (issues.map (·.name)).Nodup →
      issues.map (·.volumeName) = unfoundVolumes existing (claimsByVolume start.claims.values)
        (done.map (·.site.declaration.volumeName))) sites (fun _ _ => rfl) ?reuse ?issue
  case reuse =>
    intro done left issues site name ledger backs before fresh differ
    rw [before fresh differ, List.map_append, List.map_singleton]
    rcases (backs fresh).found_or_made with found | made
    · exact (unfoundVolumes_append_of_found found).symm
    · -- A claim was made for the volume, so the volume has been needed before.
      refine (unfoundVolumes_append_of_mem ?_).symm
      rw [← before fresh differ]
      exact List.mem_map.2 ⟨_, made, rfl⟩
  case issue =>
    intro done left issues site name ledger missing unplanned before fresh differ
    have freshBefore : ∀ issue ∈ issues, start.claims.get? issue.name = none :=
      fun issue member => fresh issue (List.mem_append_left _ member)
    rw [List.map_append, List.nodup_append] at differ
    rw [ledger.claims] at unplanned
    have new := notMem_volumes_of_issueAll differ.1 unplanned
    rw [before freshBefore differ.1] at new
    rw [List.map_append, before freshBefore differ.1, List.map_append, List.map_singleton,
      List.map_singleton, unfoundVolumes_append_of_new missing
        (unplanned_of_issueAll freshBefore unplanned) new]

/-! ## The theorem -/

/-- A document after a durable pass that made some claims, with every volume served by
precedence: claims were made for the volumes on the agenda that had none, one for each and in
the order of the agenda; these are the volumes without a claim that got a mount; under their
names are the new claims, with the two labels and no others, and under all other keys is what
was there; and all mounts that were added for a volume are of the one claim that comes first in
precedence. -/
structure Document.ByPrecedence (table : ClaimTable) (strategy : DurableStrategy)
    (workspaceId : String) (issues : List Issue) (earlier later : Document) : Prop where
  order : issues.map (·.volumeName) =
    ((earlier.agenda.map (·.declaration.volumeName)).filter
      (Unclaimed table workspaceId earlier)).eraseDups
  needed : ∀ volumeName, volumeName ∈ issues.map (·.volumeName) ↔
    Unclaimed table workspaceId earlier volumeName ∧
      ∃ machineName mount, GainedFor earlier later volumeName machineName mount
  made : ∀ issue ∈ issues, later.claims.get? issue.name = some {
    metadata := {
      name := issue.name
      labels := .ofList [(workspaceIdLabel, workspaceId), (volumeNameLabel, issue.volumeName)] }
    accessModes := [strategy.accessMode]
    storage := strategy.quantity }
  kept : ∀ key, key ∉ issues.map (·.name) → later.claims.get? key = earlier.claims.get? key
  chosen : ∀ volumeName machineName mount, GainedFor earlier later volumeName machineName mount →
    Chosen table workspaceId earlier issues volumeName mount.name
  one : ∀ volumeName machineName otherMachine mount other,
    GainedFor earlier later volumeName machineName mount →
    GainedFor earlier later volumeName otherMachine other → mount.name = other.name

/-- A volume gets a mount in a pass just if it is on the agenda. -/
theorem Plan.exists_gainedFor_bound {workspaceId : String} {volumeOf : String → PodVolume}
    {choose : Chooser} {plan : Plan} {volumeName : String} :
    (∃ machineName mount, GainedFor plan.document
        (plan.bound workspaceId choose volumeOf).document volumeName machineName mount) ↔
      volumeName ∈ plan.document.agenda.map (·.declaration.volumeName) := by
  rw [← plan.document.openings_eq_agenda, ← map_site_bindings choose, List.map_map]
  constructor
  · rintro ⟨machineName, mount, gains⟩
    obtain ⟨binding, bound, rfl, -⟩ := exists_binding_of_gainedFor gains
    exact List.mem_map.2 ⟨binding, bound, rfl⟩
  · intro member
    obtain ⟨binding, bound, rfl⟩ := List.mem_map.1 member
    exact ⟨_, _, gainedFor_of_mem_bindings bound⟩

/-- **A durable pass follows the precedence**, if the names that it draws are new. -/
theorem DurableStrategy.byPrecedence_pass {table : ClaimTable} (keyed : Keyed table.claims)
    (strategy : DurableStrategy) (workspaceId : String) (plan : Plan)
    (differ : (namesDrawn strategy.stem plan.draws (strategy.pass workspaceId
      (table.labelled workspaceIdLabel workspaceId) plan).draws).Nodup)
    (free : ∀ name ∈ namesDrawn strategy.stem plan.draws (strategy.pass workspaceId
      (table.labelled workspaceIdLabel workspaceId) plan).draws,
        name ∉ plan.document.claims.keys) :
    ∃ issues : List Issue,
      issues.map (·.name) = namesDrawn strategy.stem plan.draws (strategy.pass workspaceId
        (table.labelled workspaceIdLabel workspaceId) plan).draws ∧
      plan.document.ByPrecedence table strategy workspaceId issues (strategy.pass workspaceId
        (table.labelled workspaceIdLabel workspaceId) plan).document := by
  obtain ⟨issues, ledger, inOrder⟩ := exists_ledger_in_order strategy workspaceId
    (existingClaims workspaceId (table.labelled workspaceIdLabel workspaceId))
    plan.document.openings plan.stock
  have drawn : namesDrawn strategy.stem plan.draws (strategy.pass workspaceId
      (table.labelled workspaceIdLabel workspaceId) plan).draws = issues.map (·.name) :=
    ledger.namesDrawn_eq
  rw [drawn] at differ free
  have fresh : ∀ issue ∈ issues, plan.document.claims.get? issue.name = none :=
    fun issue member => StringMap.notMem_keys_iff.1 (free _ (List.mem_map_of_mem member))
  have after : (strategy.pass workspaceId (table.labelled workspaceIdLabel workspaceId)
      plan).document.claims = issueAll strategy workspaceId issues plan.document.claims :=
    ledger.claims
  have chosen (volumeName machineName : String) (mount : VolumeMount)
      (gains : GainedFor plan.document (strategy.pass workspaceId
        (table.labelled workspaceIdLabel workspaceId) plan).document volumeName machineName
          mount) : Chosen table workspaceId plan.document issues volumeName mount.name := by
    obtain ⟨binding, bound, rfl, same⟩ := exists_binding_of_gainedFor gains
    exact same ▸ Chosen.of_backs keyed (ledger.origin fresh binding bound)
  have order : issues.map (·.volumeName) =
      ((plan.document.agenda.map (·.declaration.volumeName)).filter
        (Unclaimed table workspaceId plan.document)).eraseDups := by
    rw [inOrder fresh differ, unfoundVolumes, plan.document.openings_eq_agenda]
    refine congrArg List.eraseDups (List.filter_congr fun volumeName _ => ?_)
    exact decide_eq_decide.2 unclaimed_iff.symm
  refine ⟨issues, drawn.symm, order, fun volumeName => ?_, fun issue member => ?_,
    fun key other => ?_, chosen, ?_⟩
  · rw [order, List.mem_eraseDups, List.mem_filter, decide_eq_true_iff, and_comm, pass,
      Plan.exists_gainedFor_bound]
  · rw [after]
    exact get?_issueAll_of_nodup strategy workspaceId plan.document.claims differ member
  · rw [after]
    exact get?_issueAll_of_fresh fun issue member same =>
      other (List.mem_map.2 ⟨issue, member, same⟩)
  · intro volumeName machineName otherMachine mount other gains alsoGains
    exact Chosen.unique (ledger.distinct fresh differ) (chosen _ _ _ gains)
      (chosen _ _ _ alsoGains)

/-- **Claims are chosen by precedence, one for each volume.**  Take any document, any workspace
and a directory in memory that answers.  A durable pass succeeds.  If the names that it draws
differ from each other and from the keys of the claims of the document, it has made one claim
for each of them, and every volume is served by precedence. -/
theorem provision_by_precedence (table : ClaimTable) (reached : table.Reached)
    (answers : table.available = true) (strategy : DurableStrategy) (identity : Identity)
    (plan : Plan) :
    let ending := (strategy.provision table identity).start plan
    let names := namesDrawn strategy.stem plan.draws ending.subject.draws
    ending.outcome = .ok () ∧
      (names.Nodup → (∀ name ∈ names, name ∉ plan.document.claims.keys) →
        ∃ issues : List Issue, issues.map (·.name) = names ∧
          plan.document.ByPrecedence table strategy identity.workspaceId issues
            ending.subject.document) := by
  intro ending names
  have lists : ClaimDirectory.listByLabel table workspaceIdLabel identity.workspaceId =
      .ok (table.labelled workspaceIdLabel identity.workspaceId) := if_pos answers
  have ⟨succeeds, after⟩ := DurableStrategy.start_provision_of_listed lists strategy plan
  refine ⟨succeeds, ?_⟩
  simp only [names, ending, after]
  exact strategy.byPrecedence_pass reached.keyed identity.workspaceId plan

/-- Two pods with one machine each, which declare three volumes.  For one of them the document
plans two claims. -/
def Document.shelved : Document :=
  let machine := ((Machine.withVolume {} "cache" "/cache").withVolume "data" "/data").withVolume
    "tools" "/tools"
  let planned (name : String) := DurableStrategy.standard.newClaim "ws" "cache" name
  { pods := ((empty.addPod (Pod.named "db" ["app"])).addPod (Pod.named "web" ["app"])).pods
    machines := ((empty.addMachine "db/app" machine).addMachine "web/app" machine).machines
    claims := (StringMap.insert .empty "new" (planned "new")).insert "old" (planned "old") }

/-- Of three volumes one is found in the directory under two names, one is planned under two,
and for the third a claim is made; both pods get the same three claims. -/
theorem provision_by_precedence_shelved :
    let listed (name : String) := DurableStrategy.standard.newClaim "ws" "data" name
    let directory := (({} : ClaimTable).insert (listed "first")).insert (listed "second")
    let ending := (DurableStrategy.standard.provision directory { workspaceId := "ws" }).start
      ⟨.shelved, .cycling #[0]⟩
    let names (key : String) := (ending.subject.document.mountsAt key 0).map (·.name)
    names "db" = ["old", "second", "claim-workspace-aaaaaaaa"] ∧ names "web" = names "db" ∧
      Document.shelved.ByPrecedence directory .standard "ws"
        [⟨"tools", "claim-workspace-aaaaaaaa"⟩] ending.subject.document := by
  intro listed directory ending names
  have reached : directory.Reached := .insert (.insert .new _) _
  obtain ⟨-, followsIf⟩ := provision_by_precedence directory reached rfl .standard
    { workspaceId := "ws" } ⟨.shelved, .cycling #[0]⟩
  have drawn : namesDrawn DurableStrategy.standard.stem (.cycling #[0]) ending.subject.draws =
      ["claim-workspace-aaaaaaaa"] := by
    decide
  rw [show namesDrawn _ _ _ = _ from drawn] at followsIf
  obtain ⟨issues, made, follows⟩ := followsIf (List.nodup_singleton _) (by decide)
  obtain ⟨⟨volumeName, name⟩, rfl, rfl⟩ := List.map_eq_singleton_iff.1 made
  have needed : ((Document.shelved.agenda.map (·.declaration.volumeName)).filter
      (Unclaimed directory "ws" .shelved)).eraseDups = ["tools"] := by
    decide
  obtain rfl : volumeName = "tools" := List.singleton_inj.1 (follows.order.trans needed)
  exact ⟨by decide, by decide, follows⟩

end WorkspaceVolumes
