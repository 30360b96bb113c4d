import Mathlib.Data.List.ReduceOption
import WorkspaceVolumes.Config.Loading
import WorkspaceVolumes.Proofs.RoundTrip

/-!
# The layers of a configuration

A configuration is the environment over a file over the defaults.  Loading reads the file
into a whole configuration and then replaces fields of it, so the layers are nowhere to be
seen.  Here each of them is a value that says of every setting what it is or nothing, and
what is loaded is one layer over the other, completed by the defaults (`load_eq_layers`).

**What a file writes** is a layer, too (`ConfigLayer.read`).  It is read exactly where a
configuration is, and completing it gives that configuration (`read_eq_complete`), so a file
parses for the one reading if and only if it does for the other.

**Faults.**  A file that cannot be used is the first to be reported, then the first variable
whose value is no boolean or no access mode, then what validation says of the whole.  A
variable that is not UTF-8 counts as not set, and is never at fault.

**What is replaced is without effect.**  Files that agree in the settings whose variables
are not set lead to one result, be it a configuration or an error.  A variable that is set to
something malformed does not fall back on the file: loading fails.

## Main definitions

* `ClaimLayer`, `ConfigLayer`: what a layer says; `above` and `complete`.
* `ConfigLayer.ofYaml`: what a YAML text writes, and `ConfigLayer.toData`, a record of it.
* `Environment.layer`, `Environment.faults`: what the variables say, and which do not.
* `Writes`, `Unusable`: what a file says, or why it cannot be used.
* `Environment.Exposes`: two layers agree in what the environment does not replace.

## Main statements

* `ConfigLayer.ofYaml_print`: every layer can be written.
* `VolumesConfig.overlay_complete`: the environment over what is written.
* `VolumesConfig.load_eq_layers`: loading is the three layers, validated.
-/

namespace WorkspaceVolumes

/-! ## Layers -/

/-- What a layer says of how claims are made. -/
@[ext]
structure ClaimLayer where
  name : Option String := none
  quantity : Option String := none
  accessMode : Option AccessMode := none
  precreateSubpaths : Option Bool := none
  deriving DecidableEq

/-- What a layer says of a configuration. -/
@[ext]
structure ConfigLayer where
  strategy : Option String := none
  ephemeralOverride : Option Bool := none
  claim : ClaimLayer := {}
  deriving DecidableEq

namespace ClaimLayer

/-- One layer over another: each setting is what the upper one says, and else what the lower
one does. -/
def above (upper lower : ClaimLayer) : ClaimLayer where
  name := upper.name.or lower.name
  quantity := upper.quantity.or lower.quantity
  accessMode := upper.accessMode.or lower.accessMode
  precreateSubpaths := upper.precreateSubpaths.or lower.precreateSubpaths

/-- A layer over the defaults. -/
def complete (layer : ClaimLayer) : ClaimSettings :=
  let defaults : ClaimSettings := {}
  { name := layer.name.getD defaults.name
    quantity := layer.quantity.getD defaults.quantity
    accessMode := layer.accessMode.getD defaults.accessMode
    precreateSubpaths := layer.precreateSubpaths.getD defaults.precreateSubpaths }

end ClaimLayer

namespace ConfigLayer

/-- One layer over another, setting by setting. -/
def above (upper lower : ConfigLayer) : ConfigLayer where
  strategy := upper.strategy.or lower.strategy
  ephemeralOverride := upper.ephemeralOverride.or lower.ephemeralOverride
  claim := upper.claim.above lower.claim

/-- A layer over the defaults. -/
def complete (layer : ConfigLayer) : VolumesConfig :=
  let defaults : VolumesConfig := {}
  { strategy := layer.strategy.getD defaults.strategy
    ephemeralOverride := layer.ephemeralOverride.getD defaults.ephemeralOverride
    claim := layer.claim.complete }

end ConfigLayer

/-! ## What a file writes -/

namespace Fields

variable {ν α β : Type}

/-- Reads a field that says nothing where it is left out. -/
def optional (fields : Fields ν) (name : String) (read : ν → Reading α) : Reading (Option α) :=
  fields.withDefault name none fun value => some <$> read value

theorem withDefault_map (change : α → β) {read : ν → Reading α} {readChanged : ν → Reading β}
    (reads : ∀ value, readChanged value = change <$> read value) (fields : Fields ν)
    (name : String) (default : α) :
    fields.withDefault name (change default) readChanged =
      change <$> fields.withDefault name default read := by
  rw [withDefault, withDefault]
  cases fields.find? name with
  | none => exact (map_pure change default).symm
  | some value => exact reads value

/-- A default is what stands where nothing is said. -/
theorem withDefault_eq_optional (fields : Fields ν) (name : String) (default : α)
    (read : ν → Reading α) :
    fields.withDefault name default read = (·.getD default) <$> fields.optional name read := by
  have reads (value : ν) : read value = (·.getD default) <$> some <$> read value := by
    rw [Functor.map_map]
    exact (id_map (read value)).symm
  exact withDefault_map (·.getD default) reads fields name none

end Fields

section

variable {ν : Type} [DataSource ν]

/-- Reads what is written of how claims are made. -/
def ClaimLayer.read (value : ν) : Reading ClaimLayer := do
  let fields ← DataSource.record ClaimSettings.fieldNames value
  return {
    name := ← fields.optional "name" DataSource.text
    quantity := ← fields.optional "quantity" DataSource.text
    accessMode := ← fields.optional "access_mode" AccessMode.read
    precreateSubpaths := ← fields.optional "precreate_subpaths" DataSource.flag }

/-- Reads what is written of a configuration. -/
def ConfigLayer.read (value : ν) : Reading ConfigLayer := do
  let fields ← DataSource.record VolumesConfig.fieldNames value
  return {
    strategy := ← fields.optional "strategy" DataSource.text
    ephemeralOverride := ← fields.optional "ephemeral_override" DataSource.flag
    claim := ← fields.withDefault "claim" {} ClaimLayer.read }

theorem ClaimSettings.read_eq_complete (value : ν) :
    ClaimSettings.read value = ClaimLayer.complete <$> ClaimLayer.read value := by
  simp only [read, ClaimLayer.read, Fields.withDefault_eq_optional, map_bind, bind_map_left,
    map_pure]
  rfl

theorem VolumesConfig.read_eq_complete (value : ν) :
    VolumesConfig.read value = ConfigLayer.complete <$> ConfigLayer.read value := by
  have claim (fields : Fields ν) : fields.withDefault "claim" {} ClaimSettings.read =
      ClaimLayer.complete <$> fields.withDefault "claim" {} ClaimLayer.read :=
    Fields.withDefault_map ClaimLayer.complete ClaimSettings.read_eq_complete fields "claim" {}
  simp only [read, ConfigLayer.read, Fields.withDefault_eq_optional _ "strategy",
    Fields.withDefault_eq_optional _ "ephemeral_override", claim, map_bind, bind_map_left, map_pure]
  rfl

end

/-- What a YAML text writes of a configuration. -/
def ConfigLayer.ofYaml (text : String) : Except ReadFault ConfigLayer := Yaml.readText read text

theorem Yaml.readText_map {α β : Type} {change : α → β} {read : Place → Reading α}
    {readChanged : Place → Reading β} (reads : ∀ place, readChanged place = change <$> read place)
    (text : String) : readText readChanged text = (readText read text).map change := by
  rw [readText, readText]
  cases Node.ofText text with
  | error fault => rfl
  | ok node =>
    change (readChanged (.root node)).result = (read (.root node)).result.map change
    rw [reads, Reading.result, Reading.result, StateT.run_map]
    cases (read (.root node)).run 0 <;> rfl

/-- A text is parsed for what it writes exactly where it is parsed. -/
theorem VolumesConfig.ofYaml_eq (text : String) :
    ofYaml text = (ConfigLayer.ofYaml text).map ConfigLayer.complete :=
  Yaml.readText_map read_eq_complete text

/-! ### Writing a layer -/

/-- What a layer says of how claims are made, as a value. -/
def ClaimLayer.toData (layer : ClaimLayer) : Data :=
  .object (saidField "name" .text layer.name ++ saidField "quantity" .text layer.quantity ++
    saidField "access_mode" AccessMode.toData layer.accessMode ++
    saidField "precreate_subpaths" .flag layer.precreateSubpaths)

/-- The fields of a layer as a value. -/
def ConfigLayer.fields (layer : ConfigLayer) : List (String × Data) :=
  saidField "strategy" .text layer.strategy ++
    saidField "ephemeral_override" .flag layer.ephemeralOverride ++ [("claim", layer.claim.toData)]

/-- A layer as a value. -/
def ConfigLayer.toData (layer : ConfigLayer) : Data := .object layer.fields

theorem Gives.optional {ν α : Type} {shows : Shape → ν → Data → Prop} {field : String → Shape}
    {fields : Fields ν} {given : Fields Data} (gives : Gives shows field fields given)
    {name : String} {encode : α → Data} {said : Option α}
    (here : given.find? name = said.map encode) {read : ν → Reading α}
    (reads : ∀ value x, shows (field name) value (encode x) → read value = pure x) :
    fields.optional name read = pure said := by
  cases said with
  | none => exact gives.absent here none _
  | some x =>
    exact gives.present here fun value shown => by rw [reads value x shown, map_pure]

section

variable {ν : Type} [DataSource ν] {shows : Shape → ν → Data → Prop} {value : ν}

theorem ClaimLayer.read_of_shows (presents : Presents shows) {layer : ClaimLayer}
    (shown : shows ClaimSettings.shape value layer.toData) : read value = pure layer := by
  obtain ⟨fields, found, gives⟩ := presents.record shown (by
    obtain ⟨name, quantity, accessMode, precreateSubpaths⟩ := layer
    cases name <;> cases quantity <;> cases accessMode <;> cases precreateSubpaths <;> rfl)
  have name : fields.optional "name" DataSource.text = pure layer.name :=
    gives.optional (by simp) fun _ _ => presents.text
  have quantity : fields.optional "quantity" DataSource.text = pure layer.quantity :=
    gives.optional (by simp) fun _ _ => presents.text
  have accessMode : fields.optional "access_mode" AccessMode.read = pure layer.accessMode :=
    gives.optional (by simp) fun _ _ => AccessMode.read_of_shows presents
  have precreateSubpaths : fields.optional "precreate_subpaths" DataSource.flag =
      pure layer.precreateSubpaths :=
    gives.optional (by simp) fun _ _ => presents.flag
  simp only [read, found, name, quantity, accessMode, precreateSubpaths, pure_bind]

theorem ConfigLayer.read_of_shows (presents : Presents shows) {layer : ConfigLayer}
    (shown : shows VolumesConfig.shape value layer.toData) : read value = pure layer := by
  obtain ⟨fields, found, gives⟩ := presents.record shown (by
    obtain ⟨strategy, ephemeralOverride, claim⟩ := layer
    cases strategy <;> cases ephemeralOverride <;> rfl)
  have strategy : fields.optional "strategy" DataSource.text = pure layer.strategy :=
    gives.optional (by simp [ConfigLayer.fields]) fun _ _ => presents.text
  have ephemeralOverride : fields.optional "ephemeral_override" DataSource.flag =
      pure layer.ephemeralOverride :=
    gives.optional (by simp [ConfigLayer.fields]) fun _ _ => presents.flag
  have claim : fields.withDefault "claim" {} ClaimLayer.read = pure layer.claim :=
    gives.present (by simp [ConfigLayer.fields]) fun _ => ClaimLayer.read_of_shows presents
  simp only [read, found, strategy, ephemeralOverride, claim, pure_bind]

end

/-- Every layer can be written: it is read back from the text of its record. -/
theorem ConfigLayer.ofYaml_print (layer : ConfigLayer) :
    ofYaml (Yaml.print layer.toData) = .ok layer := by
  have claim : Yaml.Textual (126 + 1) layer.claim.toData :=
    .object (List.forall_mem_append.2 ⟨List.forall_mem_append.2 ⟨List.forall_mem_append.2
      ⟨Yaml.textual_saidField .text, Yaml.textual_saidField .text⟩,
      Yaml.textual_saidField fun mode => .text mode.text⟩, Yaml.textual_saidField .flag⟩)
  have each : ∀ field ∈ layer.fields, Yaml.Textual (Yaml.maxDepth - 1) field.2 :=
    List.forall_mem_append.2 ⟨List.forall_mem_append.2
      ⟨Yaml.textual_saidField .text, Yaml.textual_saidField .flag⟩,
      List.forall_mem_singleton.2 claim⟩
  exact Yaml.readText_print (List.append_ne_nil_of_right_ne_nil _ (List.cons_ne_nil _ _)) each
    fun _ => read_of_shows Yaml.presents

/-! ## What the variables say -/

namespace Environment

variable {α : Type}

/-- The value of a variable that is set to something well-formed. -/
def said? (environment : Environment) (name : String) (parse : String → Option α) : Option α :=
  (environment.text? name).bind parse

/-- The fault of a variable that is set to something malformed. -/
def fault? (environment : Environment) (name : String) (parse : String → Option α)
    (fault : String → ConfigFault) : Option ConfigFault :=
  (environment.text? name).bind fun value =>
    if (parse value).isSome then none else some (fault value)

/-- The fault of a variable that is set to no boolean. -/
def flagFault? (environment : Environment) (name : String) : Option ConfigFault :=
  environment.fault? name parseFlag? (.malformedFlag · name)

/-- The fault of a variable that is set to no access mode. -/
def modeFault? (environment : Environment) (name : String) : Option ConfigFault :=
  environment.fault? name AccessMode.ofText? .unknownAccessMode

/-- What the variables say. -/
def layer (environment : Environment) : ConfigLayer where
  strategy := environment.text? "VOL_STRATEGY"
  ephemeralOverride := environment.said? "VOL_EPHEMERAL_OVERRIDE" parseFlag?
  claim := {
    name := environment.text? "VOL_CLAIM_NAME"
    quantity := environment.text? "VOL_CLAIM_QUANTITY"
    accessMode := environment.said? "VOL_CLAIM_ACCESS_MODE" AccessMode.ofText?
    precreateSubpaths := environment.said? "VOL_PRECREATE_SUBPATHS" parseFlag? }

/-- The faults of the variables, in the order in which they are looked at. -/
def faults (environment : Environment) : List ConfigFault :=
  [environment.flagFault? "VOL_EPHEMERAL_OVERRIDE", environment.modeFault? "VOL_CLAIM_ACCESS_MODE",
    environment.flagFault? "VOL_PRECREATE_SUBPATHS"].reduceOption

theorem faults_eq_nil_iff {environment : Environment} :
    environment.faults = [] ↔
      environment.flagFault? "VOL_EPHEMERAL_OVERRIDE" = none ∧
        environment.modeFault? "VOL_CLAIM_ACCESS_MODE" = none ∧
        environment.flagFault? "VOL_PRECREATE_SUBPATHS" = none := by
  rw [faults]
  cases environment.flagFault? "VOL_EPHEMERAL_OVERRIDE" <;>
    cases environment.modeFault? "VOL_CLAIM_ACCESS_MODE" <;>
      cases environment.flagFault? "VOL_PRECREATE_SUBPATHS" <;> simp

/-- A variable that is set is well-formed or at fault. -/
theorem text?_eq_none {environment : Environment} {name : String} {parse : String → Option α}
    {fault : String → ConfigFault} (faultless : environment.fault? name parse fault = none)
    (silent : environment.said? name parse = none) : environment.text? name = none := by
  rw [said?] at silent
  rw [fault?] at faultless
  cases set : environment.text? name with
  | none => rfl
  | some value =>
    rw [set, Option.bind_some] at silent faultless
    rw [silent] at faultless
    cases faultless

/-- A setting of which a variable was asked: the fault of the variable, or what it says and
else what it replaces. -/
def settled (fault : Option ConfigFault) (said : Option α) (replaced : α) :
    Except VolumeError α :=
  match fault with
  | some fault => .error (.config fault)
  | none => .ok (said.getD replaced)

theorem flag_eq_settled (environment : Environment) (name : String) (replaced : Bool) :
    environment.flag name replaced =
      settled (environment.flagFault? name) (environment.said? name parseFlag?) replaced := by
  rw [flag, flagFault?, fault?, said?]
  cases environment.text? name with
  | none => rfl
  | some value =>
    rw [Option.bind_some, Option.bind_some]
    dsimp only
    cases parseFlag? value <;> rfl

theorem accessMode_eq_settled (environment : Environment) (name : String)
    (replaced : AccessMode) :
    environment.accessMode name replaced =
      settled (environment.modeFault? name) (environment.said? name AccessMode.ofText?)
        replaced := by
  rw [accessMode, modeFault?, fault?, said?]
  cases environment.text? name with
  | none => rfl
  | some word =>
    rw [Option.bind_some, Option.bind_some]
    dsimp only
    rw [AccessMode.parse]
    cases AccessMode.ofText? word <;> rfl

end Environment

theorem ConfigLayer.complete_above (upper lower : ConfigLayer) :
    (upper.above lower).complete =
      { strategy := upper.strategy.getD lower.complete.strategy
        ephemeralOverride := upper.ephemeralOverride.getD lower.complete.ephemeralOverride
        claim := {
          name := upper.claim.name.getD lower.complete.claim.name
          quantity := upper.claim.quantity.getD lower.complete.claim.quantity
          accessMode := upper.claim.accessMode.getD lower.complete.claim.accessMode
          precreateSubpaths :=
            upper.claim.precreateSubpaths.getD lower.complete.claim.precreateSubpaths } } := by
  simp only [above, complete, ClaimLayer.above, ClaimLayer.complete, Option.getD_or]

/-- **The overlay.**  What the variables say goes over what is written, unless one of them is
at fault; of several that are, the first counts. -/
theorem VolumesConfig.overlay_complete (environment : Environment) (written : ConfigLayer) :
    written.complete.overlay environment =
      match environment.faults with
      | fault :: _ => .error (.config fault)
      | [] => .ok (environment.layer.above written).complete := by
  rw [overlay, Environment.faults, ConfigLayer.complete_above]
  simp only [Environment.flag_eq_settled, Environment.accessMode_eq_settled]
  -- The overlay stops at the first of the three faults that there is.
  cases environment.flagFault? "VOL_EPHEMERAL_OVERRIDE" with
  | some fault => rfl
  | none =>
    cases environment.modeFault? "VOL_CLAIM_ACCESS_MODE" with
    | some fault => rfl
    | none => cases environment.flagFault? "VOL_PRECREATE_SUBPATHS" <;> rfl

/-! ## Validation -/

namespace VolumesConfig

theorem exists_fault_of_validateNameStem {stem : String} {error : VolumeError}
    (refused : validateNameStem stem = .error error) : ∃ fault, error = .config fault := by
  unfold validateNameStem at refused
  split_ifs at refused <;> exact ⟨_, (Except.error.inj refused).symm⟩

theorem exists_fault_of_validateQuantity {quantity : String} {error : VolumeError}
    (refused : validateQuantity quantity = .error error) : ∃ fault, error = .config fault := by
  unfold validateQuantity at refused
  split_ifs at refused
  exact ⟨_, (Except.error.inj refused).symm⟩

/-- Whatever validation objects to is a fault of the configuration. -/
theorem exists_fault_of_validate {config : VolumesConfig} {error : VolumeError}
    (refused : config.validate = .error error) : ∃ fault, error = .config fault := by
  unfold validate at refused
  split_ifs at refused with blank
  · exact ⟨_, (Except.error.inj refused).symm⟩
  · change config.claim.validate = .error error at refused
    unfold ClaimSettings.validate at refused
    cases stem : validateNameStem config.claim.name with
    | error cause =>
      rw [stem] at refused
      exact Except.error.inj refused ▸ exists_fault_of_validateNameStem stem
    | ok =>
      rw [stem] at refused
      exact exists_fault_of_validateQuantity refused

/-- A configuration that has passed validation. -/
def validated (config : VolumesConfig) : Except VolumeError VolumesConfig := do
  config.validate
  return config

theorem validated_eq_ok_iff {config result : VolumesConfig} :
    config.validated = .ok result ↔ result = config ∧ result.validate = .ok () := by
  rw [validated]
  cases valid : config.validate with
  | error error =>
    refine iff_of_false (fun impossible => by cases impossible) ?_
    rintro ⟨rfl, accepted⟩
    rw [accepted] at valid
    cases valid
  | ok =>
    refine ⟨fun same => ?_, fun ⟨same, _⟩ => same ▸ rfl⟩
    cases Except.ok.inj same
    exact ⟨rfl, valid⟩

theorem validated_eq_error_iff {config : VolumesConfig} {error : VolumeError} :
    config.validated = .error error ↔ config.validate = .error error := by
  rw [validated]
  cases config.validate with
  | error cause =>
    change Except.error cause = _ ↔ _
    rw [Except.error.injEq, Except.error.injEq]
  | ok => exact iff_of_false (fun impossible => by cases impossible) nofun

end VolumesConfig

/-! ## Loading -/

/-- What the file says; where none is given, nothing is said. -/
inductive Writes : Option ConfigFile → ConfigLayer → Prop
  | nothing : Writes none {}
  | file {file : ConfigFile} {text : String} {written : ConfigLayer}
      (readable : file.text = .ok text) (parses : ConfigLayer.ofYaml text = .ok written) :
      Writes (some file) written

/-- That the file cannot be read, or its text not be parsed, and the error that reports it. -/
inductive Unusable : Option ConfigFile → VolumeError → Prop
  | unreadable {file : ConfigFile} {fault : FileFault} (fails : file.text = .error fault) :
      Unusable (some file) (.config (.unreadableFile file.path fault))
  | unparsable {file : ConfigFile} {text : String} {fault : ReadFault}
      (readable : file.text = .ok text) (fails : VolumesConfig.ofYaml text = .error fault) :
      Unusable (some file) (.config (.unparsableFile file.path fault.text))

/-- That two layers say the same of each setting whose variable is not set. -/
structure Environment.Exposes (environment : Environment) (written others : ConfigLayer) :
    Prop where
  strategy : environment.text? "VOL_STRATEGY" = none → written.strategy = others.strategy
  ephemeralOverride : environment.text? "VOL_EPHEMERAL_OVERRIDE" = none →
    written.ephemeralOverride = others.ephemeralOverride
  name : environment.text? "VOL_CLAIM_NAME" = none → written.claim.name = others.claim.name
  quantity : environment.text? "VOL_CLAIM_QUANTITY" = none →
    written.claim.quantity = others.claim.quantity
  accessMode : environment.text? "VOL_CLAIM_ACCESS_MODE" = none →
    written.claim.accessMode = others.claim.accessMode
  precreateSubpaths : environment.text? "VOL_PRECREATE_SUBPATHS" = none →
    written.claim.precreateSubpaths = others.claim.precreateSubpaths

/-- What is said goes over what is the same wherever nothing is said. -/
theorem or_congr_of_none {α : Type} {upper lower other : Option α}
    (same : upper = none → lower = other) : upper.or lower = upper.or other := by
  cases upper with
  | none => exact congrArg (Option.or none) (same rfl)
  | some value => rw [Option.some_or, Option.some_or]

/-- Where no variable is at fault, what the variables say covers all that is not exposed. -/
theorem Environment.Exposes.above_eq {environment : Environment} {written others : ConfigLayer}
    (exposes : environment.Exposes written others) (faultless : environment.faults = []) :
    environment.layer.above written = environment.layer.above others := by
  obtain ⟨overriding, mode, precreation⟩ := faults_eq_nil_iff.1 faultless
  have claim : environment.layer.claim.above written.claim =
      environment.layer.claim.above others.claim :=
    ClaimLayer.ext (or_congr_of_none exposes.name) (or_congr_of_none exposes.quantity)
      (or_congr_of_none fun silent => exposes.accessMode (text?_eq_none mode silent))
      (or_congr_of_none fun silent => exposes.precreateSubpaths (text?_eq_none precreation silent))
  exact ConfigLayer.ext (or_congr_of_none exposes.strategy)
    (or_congr_of_none fun silent => exposes.ephemeralOverride (text?_eq_none overriding silent))
    claim

namespace VolumesConfig

variable {environment : Environment} {file other : Option ConfigFile}
  {written others : ConfigLayer} {error : VolumeError}

theorem exists_writes_or_unusable (file : Option ConfigFile) :
    (∃ written, Writes file written) ∨ ∃ error, Unusable file error := by
  cases file with
  | none => exact .inl ⟨{}, .nothing⟩
  | some file =>
    cases readable : file.text with
    | error fault => exact .inr ⟨_, .unreadable readable⟩
    | ok text =>
      cases parses : ConfigLayer.ofYaml text with
      | ok written => exact .inl ⟨written, .file readable parses⟩
      | error fault =>
        exact .inr ⟨_, .unparsable readable (by rw [ofYaml_eq, parses]; rfl)⟩

/-- The file over the defaults. -/
def base : Option ConfigFile → Except VolumeError VolumesConfig
  | some file => ofFile file
  | none => .ok {}

theorem load_eq_base (environment : Environment) (file : Option ConfigFile) :
    load environment file = (do
      let config ← (← base file).overlay environment
      config.validated) := by
  cases file <;> rfl

theorem base_of_unusable (unusable : Unusable file error) : base file = .error error := by
  cases unusable with
  | unreadable fails => simp only [base, ofFile, fails]
  | unparsable readable fails => simp only [base, ofFile, readable, fails]

theorem base_of_writes (writes : Writes file written) : base file = .ok written.complete := by
  cases writes with
  | nothing => rfl
  | file readable parses => simp only [base, ofFile, readable, ofYaml_eq, parses, Except.map]

theorem load_of_unusable (unusable : Unusable file error) :
    load environment file = .error error := by
  rw [load_eq_base, base_of_unusable unusable]
  rfl

/-- What becomes of a file that says something depends on the layers alone. -/
theorem load_of_writes (writes : Writes file written) :
    load environment file =
      match environment.faults with
      | fault :: _ => .error (.config fault)
      | [] => (environment.layer.above written).complete.validated := by
  have overlaid : load environment file = (do
      let config ← written.complete.overlay environment
      config.validated) := by
    rw [load_eq_base, base_of_writes writes]
    rfl
  rw [overlaid, overlay_complete]
  cases environment.faults <;> rfl

/-- A configuration is loaded if and only if it is the layers over one another, no variable is at
fault, and it is valid. -/
theorem load_eq_ok_iff {config : VolumesConfig} :
    load environment file = .ok config ↔
      config.validate = .ok () ∧ ∃ written, Writes file written ∧ environment.faults = [] ∧
        config = (environment.layer.above written).complete := by
  constructor
  · intro loads
    obtain ⟨written, writes⟩ | ⟨error, unusable⟩ := exists_writes_or_unusable file
    · rw [load_of_writes writes] at loads
      cases faults : environment.faults with
      | cons fault rest =>
        rw [faults] at loads
        cases loads
      | nil =>
        rw [faults] at loads
        obtain ⟨same, valid⟩ := validated_eq_ok_iff.1 loads
        exact ⟨valid, written, writes, rfl, same⟩
    · rw [load_of_unusable unusable] at loads
      cases loads
  · rintro ⟨valid, written, writes, faultless, same⟩
    rw [load_of_writes writes, faultless]
    exact validated_eq_ok_iff.2 ⟨same, valid⟩

/-- An error is that of the file, else that of the first variable at fault, else that of the
layers over one another. -/
theorem load_eq_error_iff :
    load environment file = .error error ↔
      Unusable file error ∨ ∃ written, Writes file written ∧
        (environment.faults.head?.map .config = some error ∨
          environment.faults = [] ∧
            (environment.layer.above written).complete.validate = .error error) := by
  constructor
  · intro fails
    obtain ⟨written, writes⟩ | ⟨cause, unusable⟩ := exists_writes_or_unusable file
    · rw [load_of_writes writes] at fails
      refine .inr ⟨written, writes, ?_⟩
      cases faults : environment.faults with
      | cons fault rest =>
        rw [faults] at fails
        exact .inl (congrArg some (Except.error.inj fails))
      | nil =>
        rw [faults] at fails
        exact .inr ⟨rfl, validated_eq_error_iff.1 fails⟩
    · rw [load_of_unusable unusable] at fails
      exact .inl (Except.error.inj fails ▸ unusable)
  · rintro (unusable | ⟨written, writes, first | ⟨faultless, refused⟩⟩)
    · exact load_of_unusable unusable
    · rw [load_of_writes writes]
      cases faults : environment.faults with
      | nil =>
        rw [faults] at first
        cases first
      | cons fault rest =>
        rw [faults] at first
        exact congrArg Except.error (Option.some.inj first)
    · rw [load_of_writes writes, faultless]
      exact validated_eq_error_iff.2 refused

theorem kind_of_load_eq_error (fails : load environment file = .error error) :
    error.kind = .config := by
  obtain unusable | ⟨written, -, first | ⟨-, refused⟩⟩ := load_eq_error_iff.1 fails
  · cases unusable <;> rfl
  · obtain ⟨fault, -, rfl⟩ := Option.map_eq_some_iff.1 first
    rfl
  · obtain ⟨fault, rfl⟩ := exists_fault_of_validate refused
    rfl

/-- What is written under a variable that is set decides nothing. -/
theorem load_congr (writes : Writes file written) (rewrites : Writes other others)
    (exposes : environment.Exposes written others) :
    load environment file = load environment other := by
  rw [load_of_writes writes, load_of_writes rewrites]
  cases faults : environment.faults with
  | cons fault rest => rfl
  | nil =>
    dsimp only
    rw [exposes.above_eq faults]

end VolumesConfig

/-- **Loading is three layers, validated.**  Take any environment and any file, there or not.
A configuration is loaded exactly if the file can be used, no variable is at fault and the
configuration is what the variables say over what the file writes over the defaults, and is
valid.  An error is that of the file if it cannot be read or parsed, else that of the first
variable that is set to something malformed, else what validation objects to in the layers
over one another; and it always is a fault of the configuration.  Two files that can be used
and agree in the settings whose variables are not set lead to the same result. -/
theorem VolumesConfig.load_eq_layers (environment : Environment) (file : Option ConfigFile) :
    (∀ config, load environment file = .ok config ↔
      config.validate = .ok () ∧ ∃ written, Writes file written ∧ environment.faults = [] ∧
        config = (environment.layer.above written).complete) ∧
    (∀ error, load environment file = .error error ↔
      Unusable file error ∨ ∃ written, Writes file written ∧
        (environment.faults.head?.map .config = some error ∨
          environment.faults = [] ∧
            (environment.layer.above written).complete.validate = .error error)) ∧
    (∀ error, load environment file = .error error → error.kind = .config) ∧
    ∀ written other others, Writes file written → Writes other others →
      environment.Exposes written others → load environment file = load environment other :=
  ⟨fun _ => load_eq_ok_iff, fun _ => load_eq_error_iff, fun _ => kind_of_load_eq_error,
    fun _ _ _ => load_congr⟩

/-! ### Environments and files with a given content -/

theorem fromUTF8?_toUTF8 (text : String) : String.fromUTF8? text.toUTF8 = some text :=
  dif_pos text.isValidUTF8

/-- An environment whose variables are set to texts. -/
def Environment.ofTexts (texts : StringMap String) : Environment :=
  ⟨texts.mapWithKey fun _ text => text.toUTF8⟩

@[simp] theorem Environment.text?_ofTexts (texts : StringMap String) (name : String) :
    (ofTexts texts).text? name = texts.get? name := by
  rw [text?, ofTexts, StringMap.get?_mapWithKey]
  cases texts.get? name with
  | none => rfl
  | some text => exact fromUTF8?_toUTF8 text

/-- A file that holds the record of a layer. -/
def ConfigFile.ofLayer (path : String) (layer : ConfigLayer) : ConfigFile :=
  ⟨path, some (Yaml.print layer.toData).toUTF8⟩

theorem Writes.ofLayer (path : String) (layer : ConfigLayer) :
    Writes (some (.ofLayer path layer)) layer := by
  refine .file ?_ (ConfigLayer.ofYaml_print layer)
  rw [ConfigFile.text, ConfigFile.ofLayer]
  dsimp only
  rw [fromUTF8?_toUTF8]

/-- A capacity in the file that no cluster accepts is replaced, and then may be any other. -/
theorem VolumesConfig.load_eq_layers_replaced :
    let environment := Environment.ofTexts
      (.ofList [("VOL_EPHEMERAL_OVERRIDE", " No"), ("VOL_CLAIM_QUANTITY", "2Gi")])
    let file (quantity : String) := some (ConfigFile.ofLayer "volumes.yaml"
      { strategy := some "emptyDir", claim := { quantity := some quantity } })
    load environment (file "huge") =
        .ok { strategy := "emptyDir", ephemeralOverride := false, claim := { quantity := "2Gi" } } ∧
      load environment (file "huge") = load environment (file "1Gi") := by
  intro environment file
  have faultless : environment.faults = [] := by
    rw [Environment.faults_eq_nil_iff]
    simp only [Environment.flagFault?, Environment.modeFault?, Environment.fault?,
      environment, Environment.text?_ofTexts]
    decide
  have layer_eq : environment.layer =
      { ephemeralOverride := some false, claim := { quantity := some "2Gi" } } := by
    simp only [Environment.layer, Environment.said?, environment, Environment.text?_ofTexts]
    decide
  obtain ⟨loads, -, -, replaced⟩ := load_eq_layers environment (file "huge")
  refine ⟨(loads _).2 ⟨by decide, _, .ofLayer _ _, faultless, by rw [layer_eq]; rfl⟩,
    replaced _ _ _ (.ofLayer _ _) (.ofLayer _ _) ?_⟩
  have isSet : environment.text? "VOL_CLAIM_QUANTITY" = some "2Gi" := by
    rw [Environment.text?_ofTexts]
    decide
  exact {
    strategy := fun _ => rfl
    ephemeralOverride := fun _ => rfl
    name := fun _ => rfl
    quantity := fun unset => absurd (isSet.symm.trans unset) (Option.some_ne_none _)
    accessMode := fun _ => rfl
    precreateSubpaths := fun _ => rfl }

end WorkspaceVolumes
