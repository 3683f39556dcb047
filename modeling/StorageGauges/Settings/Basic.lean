import StorageGauges.Exporter.Schedule
import StorageGauges.Settings.Environment
import StorageGauges.Text.Blank
import StorageGauges.Text.Quoted

/-!
# Settings

Everything about the exporter that can be set, with its defaults, the check
that the values make sense together, and what they mean for the parts of the
exporter.

## Main definitions

* `Settings`: The settings.
* `Settings.Error`: Why settings are refused.
* `Settings.ofEnvironment`: The settings in an environment.
* `Settings.options`, `Settings.schedule`, `Settings.sweeping`: What they mean
  for tracking, scraping and sweeping.

## Theorems

* `Settings.scrapeInterval_pos`: Accepted settings have an interval.
-/

namespace StorageGauges

/-- The settings. Intervals are in seconds for scrapes and in minutes for
    sweeps; a port of 0 is none. -/
structure Settings where
  scrapeInterval : Nat
  workers : Nat
  metricsPort : Nat
  deployType : String
  nodeName : String
  features : Features
  sweeps : Bool
  sweepInterval : Nat
  batchSize : Nat
  direct : Bool
  readOnlyPort : Nat
  insecure : Bool
  selector : Option String
  logLevel : String
deriving DecidableEq, Repr

/-- How sweeps are done. -/
structure Sweeping where
  interval : Duration
  batchSize : Nat
deriving DecidableEq, Repr

/-- Sweeps where nothing else is set. -/
def Sweeping.standard : Sweeping :=
  { interval := .ofSeconds 300, batchSize := 500 }

/-- How long a first listing that failed is waited for before the next. -/
def initRetryInterval : Duration :=
  .ofSeconds 15

/-- The setting that turns a feature on. -/
def Feature.setting : Feature → String
  | .podUsage => "ephemeral_storage_pod_usage"
  | .nodeAvailable => "ephemeral_storage_node_available"
  | .nodeCapacity => "ephemeral_storage_node_capacity"
  | .nodePercentage => "ephemeral_storage_node_percentage"
  | .containerLimitPercentage => "ephemeral_storage_container_limit_percentage"
  | .containerVolumeLimitPercentage => "ephemeral_storage_container_volume_limits_percentage"
  | .containerVolumeUsage => "ephemeral_storage_container_volume_usage"
  | .inodes => "ephemeral_storage_inodes"
  | .adjustedPollingRate => "adjusted_polling_rate"

namespace Settings

/-- Why settings are refused. -/
inductive Error
  | unusable
  | unknownDeployType (text : String)
  | noNodeName
  | noScrapeInterval
  | noSweepInterval
deriving DecidableEq, Repr

/-- A refusal in words. -/
def Error.message : Error → String
  | unusable => "Invalid configuration"
  | unknownDeployType text =>
    "DEPLOY_TYPE must be DaemonSet or Deployment, got " ++ Text.quoted text
  | noNodeName => "CURRENT_NODE_NAME must be set when DEPLOY_TYPE is DaemonSet"
  | noScrapeInterval => "SCRAPE_INTERVAL must be at least 1 second"
  | noSweepInterval => "GC_INTERVAL must be at least 1 minute"

/-- The greatest port. -/
def greatestPort : Nat := 65535

/-- The greatest number of pods in a page. -/
def greatestBatch : Nat := 4294967295

/-- The features that an environment turns on. -/
def features? (env : Environment) : Option Features := do
  let flag (f : Feature) : Option Bool := env.read? f.setting Value.truth? false
  some
    { podUsage := ← flag .podUsage
      nodeAvailable := ← flag .nodeAvailable
      nodeCapacity := ← flag .nodeCapacity
      nodePercentage := ← flag .nodePercentage
      containerLimitPercentage := ← flag .containerLimitPercentage
      containerVolumeLimitPercentage := ← flag .containerVolumeLimitPercentage
      containerVolumeUsage := ← flag .containerVolumeUsage
      inodes := ← flag .inodes
      adjustedPollingRate := ← flag .adjustedPollingRate }

/-- The names of all settings. -/
def names : List String :=
  ["scrape_interval", "max_node_concurrency", "metrics_port", "deploy_type", "current_node_name"]
    ++ Feature.all.map Feature.setting
    ++ ["gc_enabled", "gc_interval", "gc_batch_size", "scrape_from_kubelet",
      "kubelet_readonly_port", "kubelet_insecure_skip_tls_verify", "ephemeral_storage_label",
      "log_level"]

/-- The settings in an environment, each by itself. -/
def convert? (env : Environment) : Option Settings := do
  let natural (setting : String) (greatest default : Nat) : Option Nat :=
    env.read? setting (Value.natural? greatest) default
  let flag (setting : String) : Option Bool := env.read? setting Value.truth? false
  let text (setting default : String) : Option String :=
    env.read? setting (fun v => some v.toText) default
  some
    { scrapeInterval := ← natural "scrape_interval" greatestWord 15
      workers := ← natural "max_node_concurrency" greatestWord 10
      metricsPort := ← natural "metrics_port" greatestPort 9100
      deployType := ← text "deploy_type" "DaemonSet"
      nodeName := ← text "current_node_name" ""
      features := ← features? env
      sweeps := ← flag "gc_enabled"
      sweepInterval := ← natural "gc_interval" greatestWord 5
      batchSize := ← natural "gc_batch_size" greatestBatch 500
      direct := ← flag "scrape_from_kubelet"
      readOnlyPort := ← natural "kubelet_readonly_port" greatestPort 0
      insecure := ← flag "kubelet_insecure_skip_tls_verify"
      selector := ← env.read? "ephemeral_storage_label" (fun v => some (some v.toText)) none
      logLevel := ← text "log_level" "info" }

/-- The deployment mode, if there is one of this name. -/
def mode? (s : Settings) : Option DeployMode :=
  DeployMode.ofName? s.deployType

/-- Why settings do not make sense together. -/
def fault? (s : Settings) : Option Error :=
  match s.mode? with
  | none => some (.unknownDeployType s.deployType)
  | some mode =>
    if mode = .daemonSet ∧ Text.isAllBlank s.nodeName then some .noNodeName
    else if s.scrapeInterval = 0 then some .noScrapeInterval
    else if s.sweeps ∧ s.sweepInterval = 0 then some .noSweepInterval
    else none

/-- The settings in an environment, if they make sense. -/
def ofEnvironment (env : Environment) : Except Error Settings :=
  match convert? env with
  | none => .error .unusable
  | some s =>
    match s.fault? with
    | some e => .error e
    | none => .ok s

/-- The sample interval. -/
def interval (s : Settings) : Duration :=
  .ofSeconds s.scrapeInterval

/-- What goes into pod profiles: only what some feature needs. -/
def captured (s : Settings) : Pod.Captured :=
  { containerLimits := s.features.containerLimitPercentage
    volumes := s.features.needsVolumeProfiles }

/-- What the settings mean for tracking nodes and pods. -/
def options (s : Settings) : Options :=
  { mode := s.mode?.getD .daemonSet
    selfNode := s.nodeName
    direct := s.direct
    readOnlyPort := s.readOnlyPort
    features := s.features
    captured := s.captured
    caching := s.features.tracksPods }

/-- What the settings mean for scraping. A blank selector is none, and there
    is one worker at least. -/
def schedule (s : Settings) : Schedule :=
  { interval := s.interval
    workers := max s.workers 1
    readinessTimeout := s.interval.times 2
    selector := s.selector.filter fun t => !Text.isAllBlank t }

/-- What the settings mean for sweeping. -/
def sweeping (s : Settings) : Sweeping :=
  { interval := .ofSeconds (s.sweepInterval * 60)
    batchSize := max s.batchSize 1 }

theorem scrapeInterval_pos (env : Environment) (s : Settings)
    (h : ofEnvironment env = .ok s) : 0 < s.scrapeInterval := by
  unfold ofEnvironment at h
  split at h
  · simp at h
  · rename_i t _
    split at h
    · simp at h
    · rename_i hfault
      simp only [Except.ok.injEq] at h
      subst h
      unfold fault? at hfault
      split at hfault
      · simp at hfault
      · split at hfault
        · simp at hfault
        · split at hfault
          · simp at hfault
          · omega

end Settings

end StorageGauges
