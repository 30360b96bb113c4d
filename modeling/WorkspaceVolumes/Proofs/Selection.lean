import WorkspaceVolumes.Proofs.Action
import WorkspaceVolumes.Proofs.Layers
import WorkspaceVolumes.Session

/-!
# Selecting a strategy by configuration

The settings of claims are checked twice: when a configuration is validated, and again by each
strategy that is made from it.  The registry makes all of them, whichever is selected, and with an
override it checks the stem of names three times.

**No drift.**  All the checks are one.  So the registry can be made just if the settings of claims
are valid, it fails with the fault that validation finds, and what it holds is known beforehand
(`Registry.builtIn`).

**After loading.**  A configuration that was loaded has been validated, so there is one thing left
that can go wrong with it: that it names a strategy that does not exist.  Validation does not look
at the name, because strategies can be registered under any.

## Main definitions

* `Registry.builtIn`: the registry of a configuration, without the checks.

## Main statements

* `Registry.withDefaults_eq`, `strategyOf_eq`: the registry and the selection are the checks,
  and then no more than look-up.
* `selection_agrees`: when a strategy can be selected, which it is, and why not.
-/

namespace WorkspaceVolumes

/-! ## Settings of claims -/

namespace ClaimSettings

variable {settings : ClaimSettings}

theorem validate_eq_ok_iff :
    settings.validate = .ok () ↔
      validateNameStem settings.name = .ok () ∧ validateQuantity settings.quantity = .ok () := by
  rw [validate]
  cases stem : validateNameStem settings.name with
  | error error => exact iff_of_false nofun nofun
  | ok => exact ⟨fun quantity => ⟨rfl, quantity⟩, And.right⟩

/-- Settings that are valid have a stem that is. -/
theorem validateNameStem_of_validate (valid : settings.validate = .ok ()) :
    validateNameStem settings.name = .ok () := (validate_eq_ok_iff.1 valid).1

end ClaimSettings

/-- What validation finds besides a missing strategy is what it finds in the settings of claims. -/
theorem VolumesConfig.validate_eq_of_named {config : VolumesConfig}
    (named : Text.isEmptyOrBlank config.strategy = false) :
    config.validate = config.claim.validate := by
  rw [validate, named]
  rfl

/-! ## The strategies of a configuration -/

/-- The durable strategy of some settings. -/
def ClaimSettings.durable (settings : ClaimSettings) : DurableStrategy where
  stem := settings.name
  quantity := settings.quantity
  accessMode := settings.accessMode
  precreateSubpaths := settings.precreateSubpaths

namespace VolumesConfig

/-- The strategy for transient storage of a configuration. -/
def transient (config : VolumesConfig) : EmptyDirStrategy := ⟨config.claim.name⟩

/-- The strategy for durable storage of a configuration, with an override if it asks for one. -/
def common (config : VolumesConfig) : Strategy :=
  if config.ephemeralOverride then .override (.durable config.claim.durable) config.transient
  else .durable config.claim.durable

theorem name_common (config : VolumesConfig) : config.common.name = commonKey := by
  rw [common]
  split <;> rfl

end VolumesConfig

theorem EmptyDirStrategy.ofStem_eq (stem : String) :
    ofStem stem = (validateNameStem stem).map fun () => ⟨stem⟩ := by
  rw [ofStem]
  cases validateNameStem stem <;> rfl

theorem DurableStrategy.ofSettings_eq (settings : ClaimSettings) :
    ofSettings settings = settings.validate.map fun () => settings.durable := by
  rw [ofSettings]
  cases settings.validate <;> rfl

namespace Registry

/-- The strategies of a configuration under their keys. -/
def builtIn (config : VolumesConfig) : Registry :=
  (((({} : Registry).insert noneKey .none).insert emptyDirKey (.emptyDir config.transient)).insert
    commonKey config.common)

theorem keys_builtIn (config : VolumesConfig) :
    (builtIn config).keys = [commonKey, emptyDirKey, noneKey] := rfl

/-- Each strategy has the key that it is registered under. -/
theorem name_of_get?_builtIn {config : VolumesConfig} {key : String} {strategy : Strategy}
    (found : (builtIn config).strategies.get? key = some strategy) : strategy.name = key := by
  rw [builtIn, insert, insert, insert, StringMap.get?_insert, StringMap.get?_insert,
    StringMap.get?_insert] at found
  split_ifs at found with isCommon isEmptyDir isNone
  · cases found
    exact config.name_common.trans isCommon
  · cases found
    exact isEmptyDir
  · cases found
    exact isNone
  · cases found

/-- The check of the stem that comes with an override has been made before. -/
theorem commonStrategy_eq (config : VolumesConfig) :
    commonStrategy config = config.claim.validate.map fun () => config.common := by
  rw [commonStrategy, DurableStrategy.ofSettings_eq, EmptyDirStrategy.ofStem_eq]
  cases valid : config.claim.validate with
  | error error => rfl
  | ok =>
    rw [ClaimSettings.validateNameStem_of_validate valid, VolumesConfig.common]
    cases config.ephemeralOverride <;> rfl

theorem register_actsAs (key : String) (strategy : Strategy) :
    (register key strategy).ActsAs fun registry => (.ok (), registry.insert key strategy) :=
  fun _ => rfl

/-- What registering comes to: a step for each strategy, and a check before each but the first. -/
theorem registerDefaults_actsAs (config : VolumesConfig) :
    (registerDefaults config).ActsAs
      (Run.sequence (fun registry => (.ok (), registry.insert noneKey .none)) fun () =>
        Run.sequence (fun registry => (EmptyDirStrategy.ofStem config.claim.name, registry))
          fun transient =>
        Run.sequence (fun registry => (.ok (), registry.insert emptyDirKey (.emptyDir transient)))
          fun () =>
        Run.sequence (fun registry => (commonStrategy config, registry)) fun common =>
        fun registry => (.ok (), registry.insert commonKey common)) :=
  (register_actsAs _ _).bind fun _ => (Run.actsAs_ofExcept _).bind fun _ =>
    (register_actsAs _ _).bind fun _ => (Run.actsAs_ofExcept _).bind fun _ =>
      register_actsAs _ _

/-- **The registry is the checks and nothing more.** -/
theorem withDefaults_eq (config : VolumesConfig) :
    (withDefaults config).1 = config.claim.validate.map fun () => builtIn config := by
  have acts := registerDefaults_actsAs config
  rw [withDefaults]
  dsimp only
  rw [acts.outcome_start, acts.subject_start, EmptyDirStrategy.ofStem_eq, commonStrategy_eq,
    ClaimSettings.validate]
  cases validateNameStem config.claim.name with
  | error error => rfl
  | ok => cases validateQuantity config.claim.quantity <;> rfl

theorem get_builtIn_eq_ok_iff {config : VolumesConfig} {key : String} :
    (∃ strategy, (builtIn config).get key = .ok strategy) ↔ key ∈ (builtIn config).keys := by
  rw [keys, StringMap.mem_keys_iff, get]
  cases (builtIn config).strategies.get? key with
  | none => exact iff_of_false nofun nofun
  | some strategy => exact iff_of_true ⟨strategy, rfl⟩ rfl

theorem name_of_get_builtIn {config : VolumesConfig} {key : String} {strategy : Strategy}
    (found : (builtIn config).get key = .ok strategy) : strategy.name = key := by
  rw [get] at found
  split at found
  case h_1 stored same =>
    cases found
    exact name_of_get?_builtIn same
  case h_2 => cases found

end Registry

/-- The selection is the checks, and then a look-up among the strategies that there are. -/
theorem strategyOf_eq (config : VolumesConfig) :
    (strategyOf config).1 =
      config.claim.validate.bind fun () => (Registry.builtIn config).get config.strategy := by
  have made := Registry.withDefaults_eq config
  rw [strategyOf]
  dsimp only
  rw [made]
  cases config.claim.validate <;> rfl

/-- A session makes a reconciler of its configuration by selecting the strategy, and names it. -/
theorem Session.outcome_reconcilerName (session : Session) :
    (session.step .reconcilerName).outcome =
      (strategyOf session.config).1.map fun strategy => .text strategy.name := by
  simp only [step, perform, Run.start, Run.on_bind, Run.on_subject, Run.on_ofReported]
  cases (strategyOf session.config).1 <;> rfl

/-! ## Agreement with validation -/

section

variable {config : VolumesConfig}

theorem Registry.exists_withDefaults_iff :
    (∃ registry, (withDefaults config).1 = .ok registry) ↔ config.claim.validate = .ok () := by
  rw [withDefaults_eq]
  cases config.claim.validate with
  | error error => exact iff_of_false nofun nofun
  | ok => exact iff_of_true ⟨_, rfl⟩ rfl

theorem Registry.withDefaults_eq_error_iff {error : VolumeError} :
    (withDefaults config).1 = .error error ↔ config.claim.validate = .error error := by
  rw [withDefaults_eq]
  cases config.claim.validate with
  | error cause =>
    change Except.error cause = _ ↔ _
    rw [Except.error.injEq, Except.error.injEq]
  | ok => exact iff_of_false nofun nofun

/-- A registry that could be made is the one that was to be expected. -/
theorem Registry.eq_builtIn {registry : Registry} (made : (withDefaults config).1 = .ok registry) :
    registry = builtIn config := by
  have valid := exists_withDefaults_iff.1 ⟨registry, made⟩
  rw [withDefaults_eq, valid] at made
  exact (Except.ok.inj made).symm

theorem strategyOf_of_valid (valid : config.claim.validate = .ok ()) :
    (strategyOf config).1 = (Registry.builtIn config).get config.strategy := by
  rw [strategyOf_eq, valid]
  rfl

theorem valid_of_strategyOf {strategy : Strategy}
    (selected : (strategyOf config).1 = .ok strategy) : config.claim.validate = .ok () := by
  rw [strategyOf_eq] at selected
  cases valid : config.claim.validate with
  | error error =>
    rw [valid] at selected
    cases selected
  | ok => rfl

/-- Where the settings of claims are valid, a strategy is missing only under a key that there is
not. -/
theorem eq_unknownStrategy_of_valid {error : VolumeError} (valid : config.claim.validate = .ok ())
    (fails : (strategyOf config).1 = .error error) :
    error = .config (.unknownStrategy config.strategy [commonKey, emptyDirKey, noneKey]) := by
  rw [strategyOf_of_valid valid, Registry.get, Registry.keys_builtIn] at fails
  split at fails
  case h_1 => cases fails
  case h_2 => exact (Except.error.inj fails).symm

/-- The settings of claims of a configuration that was loaded are valid. -/
theorem VolumesConfig.validate_claim_of_load {environment : Environment} {file : Option ConfigFile}
    (loads : load environment file = .ok config) : config.claim.validate = .ok () := by
  have valid := (load_eq_ok_iff.1 loads).1
  cases blank : Text.isEmptyOrBlank config.strategy with
  | true =>
    rw [validate, blank] at valid
    cases valid
  | false => rwa [validate_eq_of_named blank] at valid

end

/-- **Selecting a strategy agrees with validation.**  Take any configuration.  The registry of its
strategies can be made if, and only if, the stem of names and the quantity of claims both pass;
otherwise it fails with the error that validation gives for the same configuration under any
strategy that is not blank.  The strategy that it names can be had if, and only if, moreover the
registry has it as a key, and then the strategy has that name, with an override around it or
without.  So if the configuration was loaded, then all that selecting the strategy, or making a
reconciler of it, can fail with is that there is no such strategy. -/
theorem selection_agrees (config : VolumesConfig) :
    ((∃ registry, (Registry.withDefaults config).1 = .ok registry) ↔
      validateNameStem config.claim.name = .ok () ∧
        validateQuantity config.claim.quantity = .ok ()) ∧
    (∀ error strategy, (Registry.withDefaults config).1 = .error error →
      Text.isEmptyOrBlank strategy = false →
        { config with strategy }.validate = .error error) ∧
    ((∃ strategy, (strategyOf config).1 = .ok strategy) ↔
      validateNameStem config.claim.name = .ok () ∧
        validateQuantity config.claim.quantity = .ok () ∧
        ∃ registry, (Registry.withDefaults config).1 = .ok registry ∧
          config.strategy ∈ registry.keys) ∧
    (∀ strategy, (strategyOf config).1 = .ok strategy → strategy.name = config.strategy) ∧
    ∀ environment file, VolumesConfig.load environment file = .ok config →
      let unknown := .config (.unknownStrategy config.strategy [commonKey, emptyDirKey, noneKey])
      (∀ error, (strategyOf config).1 = .error error → error = unknown) ∧
      ∀ session error, session.config = config →
        (Session.step session .reconcilerName).outcome = .error error → error = unknown := by
  refine ⟨Registry.exists_withDefaults_iff.trans ClaimSettings.validate_eq_ok_iff, ?_, ?_, ?_, ?_⟩
  · intro error strategy fails named
    have same : { config with strategy }.validate = config.claim.validate :=
      VolumesConfig.validate_eq_of_named named
    exact same.trans (Registry.withDefaults_eq_error_iff.1 fails)
  · constructor
    · rintro ⟨strategy, selected⟩
      have valid := valid_of_strategyOf selected
      obtain ⟨stem, quantity⟩ := ClaimSettings.validate_eq_ok_iff.1 valid
      refine ⟨stem, quantity, Registry.builtIn config, ?_, ?_⟩
      · rw [Registry.withDefaults_eq, valid]
        rfl
      · rw [strategyOf_of_valid valid] at selected
        exact Registry.get_builtIn_eq_ok_iff.1 ⟨strategy, selected⟩
    · rintro ⟨stem, quantity, registry, made, known⟩
      rw [strategyOf_of_valid (ClaimSettings.validate_eq_ok_iff.2 ⟨stem, quantity⟩)]
      exact Registry.get_builtIn_eq_ok_iff.2 (Registry.eq_builtIn made ▸ known)
  · intro strategy selected
    rw [strategyOf_of_valid (valid_of_strategyOf selected)] at selected
    exact Registry.name_of_get_builtIn selected
  · intro environment file loads
    have valid := VolumesConfig.validate_claim_of_load loads
    refine ⟨fun error => eq_unknownStrategy_of_valid valid, ?_⟩
    rintro session error rfl fails
    rw [Session.outcome_reconcilerName] at fails
    cases selected : (strategyOf session.config).1 with
    | ok strategy =>
      rw [selected] at fails
      cases fails
    | error cause =>
      rw [selected] at fails
      exact Except.error.inj fails ▸ eq_unknownStrategy_of_valid valid selected

/-- A configuration that is loaded and names a strategy of its own; settings with two faults, of
which the first counts; and the common strategy, which an override goes around. -/
theorem selection_agrees_unregistered :
    let environment := Environment.ofTexts (.ofList [("VOL_STRATEGY", "nfs")])
    let unregistered : VolumesConfig := { strategy := "nfs" }
    let faulty : VolumesConfig :=
      { strategy := " ", claim := { name := "-ws", quantity := "1 Gi" } }
    let unknown := .config (.unknownStrategy "nfs" ["common", "emptyDir", "none"])
    VolumesConfig.load environment none = .ok unregistered ∧
      (∀ error, (strategyOf unregistered).1 = .error error → error = unknown) ∧
      (¬ ∃ strategy, (strategyOf unregistered).1 = .ok strategy) ∧
      { faulty with strategy := "none" }.validate = .error (.config (.malformedNameStem "-ws")) ∧
      ∃ durable transient, (strategyOf {}).1 = .ok (.override durable transient) ∧
        (Strategy.override durable transient).name = "common" := by
  intro environment unregistered faulty unknown
  have faultless : environment.faults = [] := by
    rw [Environment.faults_eq_nil_iff]
    simp only [Environment.flagFault?, Environment.modeFault?, Environment.fault?,
      environment, Environment.text?_ofTexts]
    decide
  have layer_eq : environment.layer = { strategy := some "nfs" } := by
    simp only [Environment.layer, Environment.said?, environment, Environment.text?_ofTexts]
    decide
  have loads : VolumesConfig.load environment none = .ok unregistered :=
    VolumesConfig.load_eq_ok_iff.2
      ⟨by decide, {}, .nothing, faultless, by rw [layer_eq]; rfl⟩
  obtain ⟨-, -, selects, -, onlyUnknown⟩ := selection_agrees unregistered
  obtain ⟨-, agrees, -⟩ := selection_agrees faulty
  obtain ⟨-, -, -, named, -⟩ := selection_agrees {}
  have selected : (strategyOf {}).1 =
      .ok (.override (.durable (ClaimSettings.durable {})) ⟨"claim-workspace"⟩) := by decide
  have faults : (Registry.withDefaults faulty).1 = .error (.config (.malformedNameStem "-ws")) :=
    Registry.withDefaults_eq_error_iff.2 (by decide)
  refine ⟨loads, (onlyUnknown environment none loads).1, ?_, agrees _ "none" faults (by decide),
    _, _, selected, named _ selected⟩
  rintro strategy
  obtain ⟨-, -, registry, made, known⟩ := selects.1 strategy
  obtain rfl := Registry.eq_builtIn made
  exact absurd known (by decide)

end WorkspaceVolumes
