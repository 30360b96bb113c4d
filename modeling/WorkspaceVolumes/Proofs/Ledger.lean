import Mathlib.Data.List.Induction
import Mathlib.Data.List.Nodup
import WorkspaceVolumes.Proofs.Provider

/-!
# The claims that a durable pass makes

A durable pass gives every open site a claim, and the claim is looked for at three places:
among those that exist, among those that the document plans, and at last it is made.  What
it makes goes into the second place, so every choice depends on the choices before it.  A
`Ledger` is an account of a pass that does not mention the steps in between: the claims
that were made, in order, and the origin of every binding in terms of the document as it
was at first.

**Names.**  A made claim that takes the key of a planned one puts it out of the way, and
two made claims of one name are one claim.  So the origins are given for names that are
new to the document, and that each volume gets at most one claim is given for names that
also differ from each other.  The rest holds for all names.

## Main definitions

* `namesDrawn`: the names that are drawn between two states of a stream.
* `DurableStrategy.Invariant`: what every durable choice keeps.
* `Issue`, `issueAll`: a claim that is made, and a table with such claims added.
* `Binding.issue`: the claim of a binding.
* `Backs`: the claim that a volume gets, by precedence.
* `Ledger`: the account of a pass.

## Main statements

* `get?_claimsByVolume`: of several claims for one volume the last counts.
* `get?_issueAll`: of several claims that are made with one name the last counts.
* `DurableStrategy.Invariant.bindings`: what every choice keeps, a pass keeps.
* `exists_ledger_with`, `exists_ledger`: every durable pass has a ledger.
-/

namespace WorkspaceVolumes

/-! ## Names -/

/-- The names that are drawn between two states of a stream. -/
def namesDrawn (stem : String) (earlier later : DrawStream) : List String :=
  (generateNames stem ((later.used - earlier.used) / nameSuffixLength) earlier).1

theorem DrawStream.take_take (draws : DrawStream) (first second : Nat) :
    (draws.take first).take second = draws.take (first + second) := by
  rw [take, take, take, Nat.add_assoc]

theorem namesDrawn_take (stem : String) (draws : DrawStream) (count : Nat) :
    namesDrawn stem draws (draws.take (nameSuffixLength * count)) =
      (generateNames stem count draws).1 := by
  have positive : 0 < nameSuffixLength := by decide
  rw [namesDrawn, DrawStream.used_take, Nat.add_sub_cancel_left,
    Nat.mul_div_cancel_left count positive]

/-- The last of some names is drawn behind the others. -/
theorem generateNames_succ (stem : String) (count : Nat) (draws : DrawStream) :
    (generateNames stem (count + 1) draws).1 =
      (generateNames stem count draws).1 ++
        [(generateName stem (draws.take (nameSuffixLength * count))).1] := by
  induction count generalizing draws with
  | zero => rfl
  | succ count ih =>
    have first : (generateNames stem (count + 1 + 1) draws).1 = (generateName stem draws).1 ::
        (generateNames stem (count + 1) (draws.take nameSuffixLength)).1 := rfl
    rw [first, ih, DrawStream.take_take, Nat.add_comm nameSuffixLength, ← Nat.mul_succ]
    rfl

/-- The names that a provider has drawn between two states of a stream. -/
def Provider.drawn (provider : Provider) (earlier later : DrawStream) : List String :=
  match provider with
  | none => []
  | emptyDir strategy => namesDrawn strategy.stem earlier later
  | durable strategy => namesDrawn strategy.stem earlier later

/-- Storage for the life of a pod is bound under the names that are drawn, in order. -/
theorem EmptyDirStrategy.map_name_bindings (strategy : EmptyDirStrategy) (plan : Plan) :
    (plan.bindings strategy.choose).map (·.name) =
      namesDrawn strategy.stem plan.draws (plan.left strategy.choose).draws := by
  have account : (plan.left strategy.choose).draws =
        plan.draws.take (nameSuffixLength * (plan.bindings strategy.choose).length) ∧
      (plan.bindings strategy.choose).map (·.name) =
        (generateNames strategy.stem (plan.bindings strategy.choose).length plan.draws).1 := by
    refine Chooser.allot_induction
      (motive := fun done left =>
        left.draws = plan.draws.take (nameSuffixLength * done.length) ∧
          done.map (·.name) = (generateNames strategy.stem done.length plan.draws).1)
      ⟨rfl, rfl⟩ ?_
    rintro done left site - ⟨draws, names⟩
    constructor
    · rw [List.length_append, List.length_singleton, Nat.mul_succ, ← DrawStream.take_take,
        ← draws]
      rfl
    · rw [List.map_append, names, List.length_append, List.length_singleton,
        generateNames_succ, ← draws]
      rfl
  rw [account.1, namesDrawn_take, account.2]

/-! ## Claims by volume -/

/-- Of several claims for one volume the last counts. -/
theorem get?_claimsByVolume (claims : List Claim) (volumeName : String) :
    (claimsByVolume claims).get? volumeName =
      (claims.filter (·.label? volumeNameLabel = some volumeName)).getLast?.map Claim.name := by
  have selected : (claims.filterMap fun claim =>
        (claim.label? volumeNameLabel).map (·, claim.name)).filter (·.1 = volumeName) =
      (claims.filter (·.label? volumeNameLabel = some volumeName)).map fun claim =>
        (volumeName, claim.name) := by
    induction claims with
    | nil => rfl
    | cons claim rest ih =>
      cases label : claim.label? volumeNameLabel with
      | none =>
        rw [List.filterMap_cons_none (by rw [label]; rfl), ih,
          List.filter_cons_of_neg (by simp [label])]
      | some found =>
        rw [List.filterMap_cons_some (b := (found, claim.name)) (by rw [label]; rfl)]
        by_cases same : found = volumeName
        · rw [List.filter_cons_of_pos (by simpa using same), ih,
            List.filter_cons_of_pos (by simpa [label] using same), List.map_cons, same]
        · rw [List.filter_cons_of_neg (by simpa using same), ih,
            List.filter_cons_of_neg (by simpa [label] using same)]
  rw [claimsByVolume, StringMap.get?_ofList, selected, List.getLast?_map, Option.map_map]
  rfl

/-- No claim is found for a volume if none is labelled with it. -/
theorem get?_claimsByVolume_eq_none {claims : List Claim} {volumeName : String} :
    (claimsByVolume claims).get? volumeName = none ↔
      ∀ claim ∈ claims, claim.label? volumeNameLabel ≠ some volumeName := by
  rw [get?_claimsByVolume, Option.map_eq_none_iff, List.getLast?_eq_none_iff,
    List.filter_eq_nil_iff]
  simp

/-- A name that is found for a volume is that of a claim that is labelled with it. -/
theorem exists_of_get?_claimsByVolume {claims : List Claim} {volumeName name : String}
    (found : (claimsByVolume claims).get? volumeName = some name) :
    ∃ claim ∈ claims, claim.label? volumeNameLabel = some volumeName ∧ claim.name = name := by
  rw [get?_claimsByVolume, Option.map_eq_some_iff] at found
  obtain ⟨claim, last, named⟩ := found
  obtain ⟨member, label⟩ := List.mem_filter.1 (List.mem_of_getLast? last)
  exact ⟨claim, member, of_decide_eq_true label, named⟩

/-- What is found for a volume depends on the claims that are labelled with it alone. -/
theorem get?_claimsByVolume_congr {claims others : List Claim} {volumeName : String}
    (same : claims.filter (·.label? volumeNameLabel = some volumeName) =
      others.filter (·.label? volumeNameLabel = some volumeName)) :
    (claimsByVolume claims).get? volumeName = (claimsByVolume others).get? volumeName := by
  rw [get?_claimsByVolume, get?_claimsByVolume, same]

/-! ## One choice -/

namespace DurableStrategy

@[simp] theorem name_newClaim (strategy : DurableStrategy)
    (workspaceId volumeName name : String) :
    (strategy.newClaim workspaceId volumeName name).name = name := rfl

@[simp] theorem label?_volumeName_newClaim (strategy : DurableStrategy)
    (workspaceId volumeName name : String) :
    (strategy.newClaim workspaceId volumeName name).label? volumeNameLabel =
      some volumeName := by
  rw [newClaim, Claim.label?_withLabel, if_pos rfl]

@[simp] theorem label?_workspaceId_newClaim (strategy : DurableStrategy)
    (workspaceId volumeName name : String) :
    (strategy.newClaim workspaceId volumeName name).label? workspaceIdLabel =
      some workspaceId := by
  rw [newClaim, Claim.label?_withLabel, if_neg (by decide), Claim.label?_withLabel, if_pos rfl]

variable {strategy : DurableStrategy} {workspaceId volumeName name : String}
  {existing : StringMap String} {stock : Stock}

theorem volumeName_eq_of_newClaim {other : String}
    (label : (strategy.newClaim workspaceId volumeName name).label? volumeNameLabel =
      some other) :
    volumeName = other :=
  Option.some.inj ((strategy.label?_volumeName_newClaim ..).symm.trans label)

theorem workspaceId_eq_of_newClaim {other : String}
    (label : (strategy.newClaim workspaceId volumeName name).label? workspaceIdLabel =
      some other) :
    workspaceId = other :=
  Option.some.inj ((strategy.label?_workspaceId_newClaim ..).symm.trans label)

theorem pick_of_existing (exists_ : existing.get? volumeName = some name) :
    (strategy.choose workspaceId existing).pick volumeName stock = (name, stock) := by
  simp only [Chooser.pick, choose, exists_]
  rfl

theorem pick_of_planned (missing : existing.get? volumeName = none)
    (planned : (claimsByVolume stock.claims.values).get? volumeName = some name) :
    (strategy.choose workspaceId existing).pick volumeName stock = (name, stock) := by
  simp only [Chooser.pick, choose, missing, planned]
  rfl

theorem pick_of_new (missing : existing.get? volumeName = none)
    (unplanned : (claimsByVolume stock.claims.values).get? volumeName = none) :
    (strategy.choose workspaceId existing).pick volumeName stock =
      let name := (generateName strategy.stem stock.draws).1
      (name, ⟨stock.claims.insert name (strategy.newClaim workspaceId volumeName name),
        stock.draws.take nameSuffixLength⟩) := by
  simp only [Chooser.pick, choose, missing, unplanned]
  rfl

/-- An invariant of durable choices: `holds` is about the table of claims, and `named` about
the names that are bound, as long as the table grows.  The three cases are those of the
precedence: a name that is listed, one that is found in the table, and a new claim. -/
structure Invariant (strategy : DurableStrategy) (workspaceId : String)
    (existing : StringMap String) (holds : StringMap Claim → Prop)
    (named : StringMap Claim → String → Prop) : Prop where
  listed : ∀ claims volumeName name, existing.get? volumeName = some name → named claims name
  planned : ∀ claims volumeName name, holds claims →
    (claimsByVolume claims.values).get? volumeName = some name → named claims name
  made : ∀ claims volumeName name, holds claims →
    let after := claims.insert name (strategy.newClaim workspaceId volumeName name)
    holds after ∧ named after name ∧ ∀ other, named claims other → named after other

/-- **What each durable choice keeps, a whole pass keeps**, whatever names are drawn. -/
theorem Invariant.bindings {holds : StringMap Claim → Prop}
    {named : StringMap Claim → String → Prop}
    (invariant : strategy.Invariant workspaceId existing holds named) {plan : Plan}
    (start : holds plan.document.claims) :
    holds (plan.left (strategy.choose workspaceId existing)).claims ∧
      ∀ binding ∈ plan.bindings (strategy.choose workspaceId existing),
        named (plan.left (strategy.choose workspaceId existing)).claims binding.name := by
  refine Chooser.allot_induction
    (motive := fun done left => holds left.claims ∧
      ∀ binding ∈ done, named left.claims binding.name)
    ⟨start, fun _ member => absurd member List.not_mem_nil⟩ ?_
  rintro done left site - ⟨table, names⟩
  let volumeName := site.declaration.volumeName
  cases found : existing.get? volumeName with
  | some name =>
    rw [pick_of_existing found]
    have here := invariant.listed left.claims volumeName name found
    exact ⟨table, List.forall_mem_append.2 ⟨names, List.forall_mem_singleton.2 here⟩⟩
  | none =>
    cases planned : (claimsByVolume left.claims.values).get? volumeName with
    | some name =>
      rw [pick_of_planned found planned]
      have here := invariant.planned left.claims volumeName name table planned
      exact ⟨table, List.forall_mem_append.2 ⟨names, List.forall_mem_singleton.2 here⟩⟩
    | none =>
      rw [pick_of_new found planned]
      obtain ⟨after, here, kept⟩ := invariant.made left.claims volumeName
        (generateName strategy.stem left.draws).1 table
      exact ⟨after, List.forall_mem_append.2
        ⟨fun binding member => kept binding.name (names binding member),
          List.forall_mem_singleton.2 here⟩⟩

end DurableStrategy

/-! ## Made claims -/

/-- A claim that is made: the volume it is for, and its name. -/
structure Issue where
  volumeName : String
  name : String
  deriving DecidableEq

/-- What a binding is to its volume, as a claim that is made. -/
def Binding.issue (binding : Binding) : Issue := ⟨binding.site.declaration.volumeName, binding.name⟩

/-- The claim that is made. -/
def Issue.claim (strategy : DurableStrategy) (workspaceId : String) (issue : Issue) : Claim :=
  strategy.newClaim workspaceId issue.volumeName issue.name

/-- A table of claims with some claims made, first to last. -/
def issueAll (strategy : DurableStrategy) (workspaceId : String) (issues : List Issue)
    (claims : StringMap Claim) : StringMap Claim :=
  issues.foldl (fun claims issue =>
    claims.insert issue.name (issue.claim strategy workspaceId)) claims

section

variable {strategy : DurableStrategy} {workspaceId : String} {issues : List Issue}
  {claims : StringMap Claim} {key : String} {claim : Claim}

theorem issueAll_append_singleton (issue : Issue) :
    issueAll strategy workspaceId (issues ++ [issue]) claims =
      (issueAll strategy workspaceId issues claims).insert issue.name
        (issue.claim strategy workspaceId) := by
  rw [issueAll, List.foldl_append]
  rfl

/-- Under a key there is the last claim that was made with this name, and if none was, what was
there before. -/
theorem get?_issueAll (strategy : DurableStrategy) (workspaceId : String) (issues : List Issue)
    (claims : StringMap Claim) (key : String) :
    (issueAll strategy workspaceId issues claims).get? key =
      ((issues.filter (·.name = key)).getLast?.map (·.claim strategy workspaceId)).or
        (claims.get? key) := by
  have table : issueAll strategy workspaceId issues claims =
      (issues.map fun issue => (issue.name, issue.claim strategy workspaceId)).foldl
        (fun claims entry => claims.insert entry.1 entry.2) claims := by
    rw [issueAll, List.foldl_map]
  rw [table, StringMap.get?_foldl_insert, List.filter_map, List.getLast?_map, Option.map_map]
  rfl

/-- A name that some claim was made with has a last one. -/
theorem exists_last_of_mem {name : String} (member : name ∈ issues.map (·.name)) :
    ∃ last, (issues.filter (·.name = name)).getLast? = some last := by
  obtain ⟨issue, made, rfl⟩ := List.mem_map.1 member
  have here : issue ∈ issues.filter (·.name = issue.name) :=
    List.mem_filter.2 ⟨made, decide_eq_true rfl⟩
  exact ⟨_, List.getLast?_eq_some_getLast (List.ne_nil_of_mem here)⟩

theorem mem_of_last {name : String} {last : Issue}
    (isLast : (issues.filter (·.name = name)).getLast? = some last) :
    last ∈ issues ∧ last.name = name := by
  obtain ⟨member, named⟩ := List.mem_filter.1 (List.mem_of_getLast? isLast)
  exact ⟨member, of_decide_eq_true named⟩

theorem get?_issueAll_of_last {name : String} {last : Issue}
    (isLast : (issues.filter (·.name = name)).getLast? = some last) :
    (issueAll strategy workspaceId issues claims).get? name =
      some (last.claim strategy workspaceId) := by
  rw [get?_issueAll, isLast]
  rfl

/-- Under a key that no made claim has, there is what was there before. -/
theorem get?_issueAll_of_fresh (fresh : ∀ issue ∈ issues, issue.name ≠ key) :
    (issueAll strategy workspaceId issues claims).get? key = claims.get? key := by
  have none : issues.filter (·.name = key) = [] := by
    refine List.filter_eq_nil_iff.2 fun issue member => ?_
    simpa using fresh issue member
  rw [get?_issueAll, none]
  rfl

/-- A claim of the table is made or was there before. -/
theorem get?_issueAll_cases
    (found : (issueAll strategy workspaceId issues claims).get? key = some claim) :
    (∃ issue ∈ issues, issue.name = key ∧ claim = issue.claim strategy workspaceId) ∨
      claims.get? key = some claim := by
  by_cases made : key ∈ issues.map (·.name)
  · obtain ⟨last, isLast⟩ := exists_last_of_mem made
    obtain ⟨member, named⟩ := mem_of_last isLast
    rw [get?_issueAll_of_last isLast] at found
    exact .inl ⟨last, member, named, (Option.some.inj found).symm⟩
  · have untouched : ∀ issue ∈ issues, issue.name ≠ key := by
      rintro issue member rfl
      exact made (List.mem_map_of_mem member)
    rw [get?_issueAll_of_fresh untouched] at found
    exact .inr found

/-- Under the name of a made claim there is a made claim of that name. -/
theorem get?_issueAll_of_mem (strategy : DurableStrategy) (workspaceId : String)
    (claims : StringMap Claim) {issue : Issue} (member : issue ∈ issues) :
    ∃ last ∈ issues, last.name = issue.name ∧
      (issueAll strategy workspaceId issues claims).get? issue.name =
        some (last.claim strategy workspaceId) := by
  obtain ⟨last, isLast⟩ := exists_last_of_mem (List.mem_map_of_mem member)
  obtain ⟨inside, named⟩ := mem_of_last isLast
  exact ⟨last, inside, named, get?_issueAll_of_last isLast⟩

/-- If the names differ, every made claim is there. -/
theorem get?_issueAll_of_nodup (strategy : DurableStrategy) (workspaceId : String)
    (claims : StringMap Claim) (different : (issues.map (·.name)).Nodup) {issue : Issue}
    (member : issue ∈ issues) :
    (issueAll strategy workspaceId issues claims).get? issue.name =
      some (issue.claim strategy workspaceId) := by
  obtain ⟨last, inside, same, found⟩ :=
    get?_issueAll_of_mem strategy workspaceId claims member
  obtain rfl := List.inj_on_of_nodup_map different inside member same
  exact found

/-- Claims whose names are new to a table leave its claims in place. -/
theorem get?_issueAll_of_get? (fresh : ∀ issue ∈ issues, claims.get? issue.name = none)
    (found : claims.get? key = some claim) :
    (issueAll strategy workspaceId issues claims).get? key = some claim := by
  rw [get?_issueAll_of_fresh, found]
  intro issue member same
  have absent := fresh issue member
  rw [same, found] at absent
  cases absent

/-- Claims for other volumes, whose names are new to the table, change nothing about what
is planned for a volume. -/
theorem planned_issueAll_of_ne {volumeName : String}
    (fresh : ∀ issue ∈ issues, claims.get? issue.name = none)
    (others : ∀ issue ∈ issues, issue.volumeName ≠ volumeName) :
    (claimsByVolume (issueAll strategy workspaceId issues claims).values).get? volumeName =
      (claimsByVolume claims.values).get? volumeName := by
  refine get?_claimsByVolume_congr ?_
  rw [← StringMap.values_filter, ← StringMap.values_filter]
  refine congrArg StringMap.values (StringMap.ext_get? fun key => ?_)
  rw [StringMap.get?_filter, StringMap.get?_filter]
  -- A key that a claim was made under was free, and the claim is for another volume.
  by_cases made : ∃ issue ∈ issues, issue.name = key
  · obtain ⟨issue, member, rfl⟩ := made
    obtain ⟨last, inside, -, found⟩ := get?_issueAll_of_mem strategy workspaceId claims member
    rw [found, fresh issue member]
    simp [Option.filter, Issue.claim, others last inside]
  · have untouched : ∀ issue ∈ issues, issue.name ≠ key :=
      fun issue member same => made ⟨issue, member, same⟩
    rw [get?_issueAll_of_fresh untouched]

/-- What is found for a volume without a planned claim is a claim that was made for it. -/
theorem mem_of_planned_issueAll {volumeName name : String}
    (unplanned : (claimsByVolume claims.values).get? volumeName = none)
    (found :
      (claimsByVolume (issueAll strategy workspaceId issues claims).values).get? volumeName =
        some name) : ⟨volumeName, name⟩ ∈ issues := by
  obtain ⟨claim, isValue, label, named⟩ := exists_of_get?_claimsByVolume found
  obtain ⟨key, there⟩ := StringMap.mem_values_iff.1 isValue
  rcases get?_issueAll_cases there with ⟨issue, member, -, rfl⟩ | before
  · have volume : issue.volumeName = volumeName :=
      DurableStrategy.volumeName_eq_of_newClaim label
    rw [← volume, ← named]
    exact member
  · exact absurd label
      (get?_claimsByVolume_eq_none.1 unplanned claim (StringMap.mem_values_of_get? before))

/-- Where nothing is found for a volume, nothing was planned for it before. -/
theorem unplanned_of_issueAll {volumeName : String}
    (fresh : ∀ issue ∈ issues, claims.get? issue.name = none)
    (missing :
      (claimsByVolume (issueAll strategy workspaceId issues claims).values).get? volumeName =
        none) : (claimsByVolume claims.values).get? volumeName = none := by
  refine get?_claimsByVolume_eq_none.2 fun claim isValue => ?_
  obtain ⟨key, there⟩ := StringMap.mem_values_iff.1 isValue
  exact get?_claimsByVolume_eq_none.1 missing claim
    (StringMap.mem_values_of_get? (get?_issueAll_of_get? fresh there))

/-- Where nothing is found for a volume, no claim was made for it, if the names of the
made claims differ. -/
theorem notMem_volumes_of_issueAll {volumeName : String}
    (different : (issues.map (·.name)).Nodup)
    (missing :
      (claimsByVolume (issueAll strategy workspaceId issues claims).values).get? volumeName =
        none) : volumeName ∉ issues.map (·.volumeName) := by
  intro made
  obtain ⟨issue, member, rfl⟩ := List.mem_map.1 made
  have found := get?_issueAll_of_nodup strategy workspaceId claims different member
  exact get?_claimsByVolume_eq_none.1 missing _ (StringMap.mem_values_of_get? found)
    (strategy.label?_volumeName_newClaim ..)

end

/-! ## Ledgers -/

/-- The claim of a volume by precedence: one that exists, one that was planned, or one
that is made. -/
inductive Backs (existing planned : StringMap String) (issues : List Issue)
    (volumeName name : String) : Prop
  | existing (found : existing.get? volumeName = some name)
  | planned (missing : existing.get? volumeName = none)
    (found : planned.get? volumeName = some name)
  | made (missing : existing.get? volumeName = none)
    (unplanned : planned.get? volumeName = none) (member : ⟨volumeName, name⟩ ∈ issues)

theorem Backs.mono {existing planned : StringMap String} {issues more : List Issue}
    {volumeName name : String} (backs : Backs existing planned issues volumeName name)
    (within : ∀ issue ∈ issues, issue ∈ more) :
    Backs existing planned more volumeName name := by
  cases backs with
  | existing found => exact .existing found
  | planned missing found => exact .planned missing found
  | made missing unplanned member => exact .made missing unplanned (within _ member)

/-- A claim that is found behind those that were made was made, or was planned before. -/
theorem backs_of_planned_issueAll {strategy : DurableStrategy} {workspaceId : String}
    {existing : StringMap String} {claims : StringMap Claim} {issues : List Issue}
    (fresh : ∀ issue ∈ issues, claims.get? issue.name = none)
    (unplanned : ∀ issue ∈ issues,
      (claimsByVolume claims.values).get? issue.volumeName = none)
    {volumeName name : String} (missing : existing.get? volumeName = none)
    (found : (claimsByVolume (issueAll strategy workspaceId issues claims).values).get?
      volumeName = some name) :
    Backs existing (claimsByVolume claims.values) issues volumeName name := by
  cases planned : (claimsByVolume claims.values).get? volumeName with
  | none => exact .made missing planned (mem_of_planned_issueAll planned found)
  | some earlier =>
    have others : ∀ issue ∈ issues, issue.volumeName ≠ volumeName := by
      intro issue member same
      have absent := unplanned issue member
      rw [same, planned] at absent
      cases absent
    rw [planned_issueAll_of_ne fresh others] at found
    exact .planned missing found

/-- An account of durable choices: what was made from a stock, what is left, and where the
names of the bindings come from. -/
structure Ledger (strategy : DurableStrategy) (workspaceId : String)
    (existing : StringMap String) (start : Stock) (done : List Binding) (left : Stock)
    (issues : List Issue) : Prop where
  claims : left.claims = issueAll strategy workspaceId issues start.claims
  draws : left.draws = start.draws.take (nameSuffixLength * issues.length)
  names : issues.map (·.name) = (generateNames strategy.stem issues.length start.draws).1
  missing : ∀ issue ∈ issues, existing.get? issue.volumeName = none
  /-- The claims come in the order of the bindings that they were made for. -/
  order : issues.Sublist (done.map (·.issue))
  /-- If the names are new to the document, claims are made only for volumes without a
  planned one. -/
  unplanned : (∀ issue ∈ issues, start.claims.get? issue.name = none) →
    ∀ issue ∈ issues, (claimsByVolume start.claims.values).get? issue.volumeName = none
  /-- If the names are new to the document, each binding has the claim that is next in
  precedence. -/
  origin : (∀ issue ∈ issues, start.claims.get? issue.name = none) → ∀ binding ∈ done,
    Backs existing (claimsByVolume start.claims.values) issues
      binding.site.declaration.volumeName binding.name
  /-- If the names are new to the document and no two are equal, no two claims are for one
  volume. -/
  distinct : (∀ issue ∈ issues, start.claims.get? issue.name = none) →
    (issues.map (·.name)).Nodup → (issues.map (·.volumeName)).Nodup

namespace Ledger

variable {strategy : DurableStrategy} {workspaceId : String} {existing : StringMap String}
  {start left : Stock} {done : List Binding} {issues : List Issue} {site : Site} {name : String}

/-- Nothing has happened yet. -/
theorem nil (strategy : DurableStrategy) (workspaceId : String) (existing : StringMap String)
    (start : Stock) : Ledger strategy workspaceId existing start [] start [] where
  claims := rfl
  draws := rfl
  names := rfl
  missing _ member := absurd member List.not_mem_nil
  order := .refl []
  unplanned _ _ member := absurd member List.not_mem_nil
  origin _ _ member := absurd member List.not_mem_nil
  distinct _ _ := List.nodup_nil

/-- A site is bound to a claim that is there already. -/
theorem reuse (ledger : Ledger strategy workspaceId existing start done left issues)
    (backs : (∀ issue ∈ issues, start.claims.get? issue.name = none) →
      Backs existing (claimsByVolume start.claims.values) issues
        site.declaration.volumeName name) :
    Ledger strategy workspaceId existing start (done ++ [⟨site, name⟩]) left issues where
  claims := ledger.claims
  draws := ledger.draws
  names := ledger.names
  missing := ledger.missing
  order := by
    rw [List.map_append]
    exact ledger.order.trans (List.sublist_append_left _ _)
  unplanned := ledger.unplanned
  origin fresh := List.forall_mem_append.2
    ⟨ledger.origin fresh, List.forall_mem_singleton.2 (backs fresh)⟩
  distinct := ledger.distinct

/-- A site is bound to a claim that is made for it. -/
theorem issue (ledger : Ledger strategy workspaceId existing start done left issues)
    (missing : existing.get? site.declaration.volumeName = none)
    (unplanned : (claimsByVolume left.claims.values).get? site.declaration.volumeName = none) :
    let name := (generateName strategy.stem left.draws).1
    Ledger strategy workspaceId existing start (done ++ [⟨site, name⟩])
      ⟨left.claims.insert name
        (strategy.newClaim workspaceId site.declaration.volumeName name),
        left.draws.take nameSuffixLength⟩
      (issues ++ [⟨site.declaration.volumeName, name⟩]) := by
  intro name
  let last : Issue := ⟨site.declaration.volumeName, name⟩
  rw [ledger.claims] at unplanned
  have within : ∀ issue ∈ issues, issue ∈ issues ++ [last] :=
    fun issue member => List.mem_append_left _ member
  have before (fresh : ∀ issue ∈ issues ++ [last], start.claims.get? issue.name = none) :
      ∀ issue ∈ issues, start.claims.get? issue.name = none :=
    fun issue member => fresh issue (within issue member)
  -- A planned claim would still be there, and would have been found.
  have nothingPlanned (fresh : ∀ issue ∈ issues ++ [last],
      start.claims.get? issue.name = none) :
      (claimsByVolume start.claims.values).get? site.declaration.volumeName = none :=
    unplanned_of_issueAll (before fresh) unplanned
  exact {
    claims := by
      rw [issueAll_append_singleton, ← ledger.claims]
      rfl
    draws := by
      rw [ledger.draws, DrawStream.take_take, List.length_append, List.length_singleton,
        Nat.mul_succ]
    names := by
      rw [List.map_append, ledger.names, List.length_append, List.length_singleton,
        generateNames_succ, ← ledger.draws]
      rfl
    missing := List.forall_mem_append.2 ⟨ledger.missing, List.forall_mem_singleton.2 missing⟩
    order := by
      rw [List.map_append]
      exact ledger.order.append (.refl _)
    unplanned := fun fresh => List.forall_mem_append.2
      ⟨ledger.unplanned (before fresh), List.forall_mem_singleton.2 (nothingPlanned fresh)⟩
    origin := by
      intro fresh
      refine List.forall_mem_append.2 ⟨fun binding member => ?_, List.forall_mem_singleton.2 ?_⟩
      · exact (ledger.origin (before fresh) binding member).mono within
      · exact .made missing (nothingPlanned fresh)
          (List.mem_append_right _ (List.mem_singleton.2 rfl))
    distinct := by
      intro fresh different
      rw [List.map_append, List.nodup_append] at different
      have volumes := notMem_volumes_of_issueAll different.1 unplanned
      rw [List.map_append, List.nodup_append]
      refine ⟨ledger.distinct (before fresh) different.1, List.nodup_singleton _, ?_⟩
      intro volume old new isNew same
      obtain rfl := List.mem_singleton.1 isNew
      rw [show volume = site.declaration.volumeName from same] at old
      exact volumes old }

/-- Claims are made for volumes that are bound, and are bound for them. -/
theorem needed (ledger : Ledger strategy workspaceId existing start done left issues) :
    ∀ issue ∈ issues, ∃ binding ∈ done,
      binding.site.declaration.volumeName = issue.volumeName ∧ binding.name = issue.name := by
  intro issue member
  obtain ⟨binding, bound, rfl⟩ := List.mem_map.1 (ledger.order.subset member)
  exact ⟨binding, bound, rfl, rfl⟩

/-- The names that were drawn are those of the claims that were made. -/
theorem namesDrawn_eq (ledger : Ledger strategy workspaceId existing start done left issues) :
    namesDrawn strategy.stem start.draws left.draws = issues.map (·.name) := by
  rw [ledger.draws, namesDrawn_take, ledger.names]

end Ledger

/-- **Every durable pass has a ledger.**  Besides, whatever holds at first, and is kept both
when a site is bound to a claim that is there and when one is made for it, holds of the
bindings and of the claims that were made. -/
theorem exists_ledger_with {strategy : DurableStrategy} {workspaceId : String}
    {existing : StringMap String} {start : Stock} {motive : List Binding → List Issue → Prop}
    (sites : List Site) (nothing : motive [] [])
    (reuse : ∀ done left issues site name,
      Ledger strategy workspaceId existing start done left issues →
      ((∀ issue ∈ issues, start.claims.get? issue.name = none) →
        Backs existing (claimsByVolume start.claims.values) issues
          site.declaration.volumeName name) →
      motive done issues → motive (done ++ [⟨site, name⟩]) issues)
    (issue : ∀ done left issues site name,
      Ledger strategy workspaceId existing start done left issues →
      existing.get? site.declaration.volumeName = none →
      (claimsByVolume left.claims.values).get? site.declaration.volumeName = none →
      motive done issues →
        motive (done ++ [⟨site, name⟩]) (issues ++ [⟨site.declaration.volumeName, name⟩])) :
    ∃ issues, Ledger strategy workspaceId existing start
        ((strategy.choose workspaceId existing).allot sites start).1
        ((strategy.choose workspaceId existing).allot sites start).2 issues ∧
      motive ((strategy.choose workspaceId existing).allot sites start).1 issues := by
  refine Chooser.allot_induction
    (motive := fun done left => ∃ issues,
      Ledger strategy workspaceId existing start done left issues ∧ motive done issues)
    ⟨[], .nil strategy workspaceId existing start, nothing⟩ ?_
  rintro done left site - ⟨issues, ledger, holds⟩
  let volumeName := site.declaration.volumeName
  cases foundExisting : existing.get? volumeName with
  | some name =>
    rw [DurableStrategy.pick_of_existing foundExisting]
    have backs (_ : ∀ issue ∈ issues, start.claims.get? issue.name = none) :
        Backs existing (claimsByVolume start.claims.values) issues volumeName name :=
      .existing foundExisting
    exact ⟨issues, ledger.reuse backs, reuse done left issues site name ledger backs holds⟩
  | none =>
    cases foundPlanned : (claimsByVolume left.claims.values).get? volumeName with
    | none =>
      rw [DurableStrategy.pick_of_new foundExisting foundPlanned]
      exact ⟨_, ledger.issue foundExisting foundPlanned,
        issue done left issues site _ ledger foundExisting foundPlanned holds⟩
    | some name =>
      rw [DurableStrategy.pick_of_planned foundExisting foundPlanned]
      have backs (fresh : ∀ issue ∈ issues, start.claims.get? issue.name = none) :
          Backs existing (claimsByVolume start.claims.values) issues volumeName name := by
        rw [ledger.claims] at foundPlanned
        exact backs_of_planned_issueAll fresh (ledger.unplanned fresh) foundExisting foundPlanned
      exact ⟨issues, ledger.reuse backs, reuse done left issues site name ledger backs holds⟩

theorem exists_ledger (strategy : DurableStrategy) (workspaceId : String)
    (existing : StringMap String) (sites : List Site) (start : Stock) :
    ∃ issues, Ledger strategy workspaceId existing start
      ((strategy.choose workspaceId existing).allot sites start).1
      ((strategy.choose workspaceId existing).allot sites start).2 issues := by
  obtain ⟨issues, ledger, -⟩ := exists_ledger_with (motive := fun _ _ => True) sites trivial
    (fun _ _ _ _ _ _ _ holds => holds) (fun _ _ _ _ _ _ _ _ holds => holds)
  exact ⟨issues, ledger⟩

/-! ## Durable passes -/

namespace DurableStrategy

variable {δ : Type} [ClaimDirectory δ]

/-- What is left of a plan by a durable pass that finds some claims listed. -/
def pass (strategy : DurableStrategy) (workspaceId : String) (listed : List Claim)
    (plan : Plan) : Plan :=
  plan.bound workspaceId
    (strategy.choose workspaceId (existingClaims workspaceId listed)) PodVolume.claim

/-- A durable pass succeeds where the directory answers, and only there. -/
theorem start_provision_of_listed {directory : δ} {identity : Identity} {listed : List Claim}
    (answers : ClaimDirectory.listByLabel directory workspaceIdLabel identity.workspaceId =
      .ok listed)
    (strategy : DurableStrategy) (plan : Plan) :
    ((strategy.provision directory identity).start plan).outcome = .ok () ∧
      ((strategy.provision directory identity).start plan).subject =
        strategy.pass identity.workspaceId listed plan := by
  have acts := strategy.provision_actsAs directory identity
  rw [acts.outcome_start, acts.subject_start, Provider.provisioned, answers]
  exact ⟨rfl, rfl⟩

/-- A claim that exists for a volume is listed, and carries the label of the workspace. -/
theorem exists_of_get?_existingClaims {workspaceId volumeName name : String}
    {listed : List Claim}
    (found : (existingClaims workspaceId listed).get? volumeName = some name) :
    ∃ claim ∈ listed, claim.label? workspaceIdLabel = some workspaceId ∧
      claim.label? volumeNameLabel = some volumeName ∧ claim.name = name := by
  obtain ⟨claim, member, label, named⟩ := exists_of_get?_claimsByVolume found
  obtain ⟨isListed, owned⟩ := List.mem_filter.1 member
  exact ⟨claim, isListed, of_decide_eq_true owned, label, named⟩

/-- A durable pass has a ledger, which accounts for the bindings, the claims of the
document and the names that are drawn. -/
theorem exists_ledger_pass (strategy : DurableStrategy) (workspaceId : String)
    (listed : List Claim) (plan : Plan) :
    ∃ issues, Ledger strategy workspaceId (existingClaims workspaceId listed) plan.stock
        (plan.bindings (strategy.choose workspaceId (existingClaims workspaceId listed)))
        (strategy.pass workspaceId listed plan).stock issues ∧
      (strategy.pass workspaceId listed plan).document.claims =
        issueAll strategy workspaceId issues plan.document.claims ∧
      namesDrawn strategy.stem plan.draws (strategy.pass workspaceId listed plan).draws =
        issues.map (·.name) := by
  obtain ⟨issues, ledger⟩ := exists_ledger strategy workspaceId
    (existingClaims workspaceId listed) plan.document.openings plan.stock
  exact ⟨issues, ledger, ledger.claims, ledger.namesDrawn_eq⟩

end DurableStrategy

end WorkspaceVolumes
