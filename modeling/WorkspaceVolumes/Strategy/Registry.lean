import WorkspaceVolumes.Strategy.Basic

/-!
# The registry of strategies

Strategies are chosen by key.  A registry starts with the three that come with the engine,
and others can be put under keys of their own.

**All or nothing.**  The settings of every strategy are checked when the registry is made,
also of those that will not be used.  What was registered before a fault shows is still
reported.

## Main definitions

* `Registry`, with `register`, `get` and `keys`.
* `Registry.withDefaults`, `strategyOf`: the registry of a configuration, and the strategy
  that it selects.
-/

namespace WorkspaceVolumes

/-- Strategies by key. -/
structure Registry where
  strategies : StringMap Strategy := .empty

namespace Registry

/-- The keys, in increasing order. -/
def keys (registry : Registry) : List String := registry.strategies.keys

/-- Puts a strategy under a key, in place of an earlier one. -/
def insert (registry : Registry) (key : String) (strategy : Strategy) : Registry :=
  ⟨registry.strategies.insert key strategy⟩

/-- The strategy under a key. -/
def get (registry : Registry) (key : String) : Except VolumeError Strategy :=
  match registry.strategies.get? key with
  | some strategy => .ok strategy
  | none => .error (.config (.unknownStrategy key registry.keys))

/-- Puts a strategy under a key, and reports it. -/
def register (key : String) (strategy : Strategy) : Run Registry Unit := do
  Run.note .debug s!"Registering volumes strategy {key}"
  Run.setSubject ((← Run.subject).insert key strategy)

/-- The strategy under the common key: durable, perhaps with an override. -/
def commonStrategy (config : VolumesConfig) : Except VolumeError Strategy := do
  let durable ← DurableStrategy.ofSettings config.claim
  if config.ephemeralOverride then
    return .override (.durable durable) (← EmptyDirStrategy.ofStem config.claim.name)
  else return .durable durable

/-- Registers the strategies that come with the engine. -/
def registerDefaults (config : VolumesConfig) : Run Registry Unit := do
  register noneKey .none
  register emptyDirKey (.emptyDir (← Run.ofExcept (EmptyDirStrategy.ofStem config.claim.name)))
  register commonKey (← Run.ofExcept (commonStrategy config))

/-- The registry of a configuration, with what making it reports. -/
def withDefaults (config : VolumesConfig) : Except VolumeError Registry × Trace :=
  let ending := (registerDefaults config).start {}
  (ending.outcome.map fun () => ending.subject, ending.trace)

end Registry

/-- The strategy that a configuration selects, with what finding it reports. -/
def strategyOf (config : VolumesConfig) : Except VolumeError Strategy × Trace :=
  let (registry, trace) := Registry.withDefaults config
  (registry.bind (·.get config.strategy), trace)

end WorkspaceVolumes
