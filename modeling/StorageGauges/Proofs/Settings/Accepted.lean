import StorageGauges.Settings.Basic

/-!
# Accepted Settings

Settings that were accepted are in their environment, each under its own name,
and make sense together. Both follow from the reading of the environment, which
takes the settings one after the other and then checks them, so this is all that
a fact about accepted settings can rest on.

## Main definitions

* `Settings.IsIn`: Settings are those in an environment.
* `Settings.ofNode`: Settings where nothing but the node is set.

## Theorems

* `Settings.convert?_eq_some_iff`: The settings in an environment.
* `Settings.ofEnvironment_eq_ok_iff`: The settings in an environment that make
  sense.
* `Settings.Environment.le_of_read?_natural`: Numbers are no greater than is
  allowed.
-/

namespace StorageGauges

namespace Settings

/-- A variable is converted, or else the default is taken. In both cases
    nothing has been put inside the setting. -/
theorem Environment.read?_eq_some_iff {α : Type} (env : Environment) (setting : String)
    (convert : Value → Option α) (default a : α) :
    env.read? setting convert default = some a ↔
      env.isNested setting = false ∧
        ((∃ v, env.find? setting = some v ∧ convert v = some a) ∨
          (env.find? setting = none ∧ default = a)) := by
  unfold Environment.read?
  split
  · rename_i hnested
    simp [hnested]
  · rename_i hnested
    rw [Bool.not_eq_true] at hnested
    split <;> rename_i hfound <;> simp [hnested, hfound]

theorem Value.le_of_natural? {greatest n : Nat} {v : Value} (h : v.natural? greatest = some n) :
    n ≤ greatest := by
  unfold Value.natural? at h
  exact of_decide_eq_true (Option.filter_eq_some_iff.mp h).2

theorem Environment.le_of_read?_natural {env : Environment} {setting : String}
    {greatest default n : Nat} (hdefault : default ≤ greatest)
    (h : env.read? setting (Value.natural? greatest) default = some n) : n ≤ greatest := by
  rcases ((env.read?_eq_some_iff _ _ _ _).mp h).2 with ⟨v, _, hv⟩ | ⟨_, rfl⟩
  · exact Value.le_of_natural? hv
  · exact hdefault

/-- Settings are those in an environment, each by itself. -/
structure IsIn (env : Environment) (s : Settings) : Prop where
  scrapeInterval :
    env.read? "scrape_interval" (Value.natural? greatestWord) 15 = some s.scrapeInterval
  workers : env.read? "max_node_concurrency" (Value.natural? greatestWord) 10 = some s.workers
  metricsPort : env.read? "metrics_port" (Value.natural? greatestPort) 9100 = some s.metricsPort
  deployType : env.read? "deploy_type" (fun v => some v.toText) "DaemonSet" = some s.deployType
  nodeName : env.read? "current_node_name" (fun v => some v.toText) "" = some s.nodeName
  features : features? env = some s.features
  sweeps : env.read? "gc_enabled" Value.truth? false = some s.sweeps
  sweepInterval : env.read? "gc_interval" (Value.natural? greatestWord) 5 = some s.sweepInterval
  batchSize : env.read? "gc_batch_size" (Value.natural? greatestBatch) 500 = some s.batchSize
  direct : env.read? "scrape_from_kubelet" Value.truth? false = some s.direct
  readOnlyPort :
    env.read? "kubelet_readonly_port" (Value.natural? greatestPort) 0 = some s.readOnlyPort
  insecure : env.read? "kubelet_insecure_skip_tls_verify" Value.truth? false = some s.insecure
  selector :
    env.read? "ephemeral_storage_label" (fun v => some (some v.toText)) none = some s.selector
  logLevel : env.read? "log_level" (fun v => some v.toText) "info" = some s.logLevel

/-- The settings that are read are those in the environment. -/
theorem convert?_eq_some_iff {env : Environment} {s : Settings} :
    convert? env = some s ↔ IsIn env s := by
  -- The settings are read one after the other, and each reading succeeds by itself.
  constructor
  · intro h
    unfold convert? at h
    rcases Option.bind_eq_some_iff.mp h with ⟨_, h1, h⟩
    rcases Option.bind_eq_some_iff.mp h with ⟨_, h2, h⟩
    rcases Option.bind_eq_some_iff.mp h with ⟨_, h3, h⟩
    rcases Option.bind_eq_some_iff.mp h with ⟨_, h4, h⟩
    rcases Option.bind_eq_some_iff.mp h with ⟨_, h5, h⟩
    rcases Option.bind_eq_some_iff.mp h with ⟨_, h6, h⟩
    rcases Option.bind_eq_some_iff.mp h with ⟨_, h7, h⟩
    rcases Option.bind_eq_some_iff.mp h with ⟨_, h8, h⟩
    rcases Option.bind_eq_some_iff.mp h with ⟨_, h9, h⟩
    rcases Option.bind_eq_some_iff.mp h with ⟨_, h10, h⟩
    rcases Option.bind_eq_some_iff.mp h with ⟨_, h11, h⟩
    rcases Option.bind_eq_some_iff.mp h with ⟨_, h12, h⟩
    rcases Option.bind_eq_some_iff.mp h with ⟨_, h13, h⟩
    rcases Option.bind_eq_some_iff.mp h with ⟨_, h14, h⟩
    cases h
    exact ⟨h1, h2, h3, h4, h5, h6, h7, h8, h9, h10, h11, h12, h13, h14⟩
  · intro h
    simp only [convert?, h.scrapeInterval, h.workers, h.metricsPort, h.deployType, h.nodeName,
      h.features, h.sweeps, h.sweepInterval, h.batchSize, h.direct, h.readOnlyPort, h.insecure,
      h.selector, h.logLevel, Option.bind_eq_bind, Option.bind_some]

/-- An environment is accepted if every setting in it can be read and they make
    sense together. -/
theorem ofEnvironment_eq_ok_iff {env : Environment} {s : Settings} :
    ofEnvironment env = .ok s ↔ IsIn env s ∧ s.fault? = none := by
  rw [← convert?_eq_some_iff]
  unfold ofEnvironment
  split
  · rename_i hnone
    simp [hnone]
  · rename_i t hsome
    rw [hsome, Option.some.injEq]
    split
    · rename_i e hfault
      refine ⟨fun h => absurd h (by simp), fun ⟨heq, hnone⟩ => ?_⟩
      rw [← heq, hfault] at hnone
      exact absurd hnone (by simp)
    · rename_i hfault
      rw [Except.ok.injEq]
      exact ⟨fun heq => ⟨heq, heq ▸ hfault⟩, And.left⟩

/-- Settings make sense together if none of the reasons to refuse them holds. -/
theorem fault?_eq_none_iff (s : Settings) :
    s.fault? = none ↔
      ∃ mode, s.mode? = some mode ∧ ¬ (mode = .daemonSet ∧ Text.isAllBlank s.nodeName = true) ∧
        s.scrapeInterval ≠ 0 ∧ ¬ (s.sweeps = true ∧ s.sweepInterval = 0) := by
  -- The checks are made in their order: each of them refuses or leaves it to the next.
  unfold fault?
  split
  · rename_i hnone
    simp [hnone]
  · rename_i mode hmode
    simp only [hmode, Option.some.injEq, exists_eq_left']
    split
    · rename_i h
      exact ⟨fun hc => absurd hc (by simp), fun hc => absurd h hc.1⟩
    · rename_i hnode
      split
      · rename_i h
        exact ⟨fun hc => absurd hc (by simp), fun hc => absurd h hc.2.1⟩
      · rename_i hscrape
        split
        · rename_i h
          exact ⟨fun hc => absurd hc (by simp), fun hc => absurd h hc.2.2⟩
        · rename_i hsweep
          exact ⟨fun _ => ⟨hnode, hscrape, hsweep⟩, fun _ => rfl⟩

/-- Settings where the name of the node is set and nothing else. -/
def ofNode (name : String) : Settings :=
  { scrapeInterval := 15
    workers := 10
    metricsPort := 9100
    deployType := "DaemonSet"
    nodeName := name
    features := .ofTest fun _ => false
    sweeps := false
    sweepInterval := 5
    batchSize := 500
    direct := false
    readOnlyPort := 0
    insecure := false
    selector := none
    logLevel := "info" }

theorem ofEnvironment_of_convert? {env : Environment} {s : Settings}
    (h : convert? env = some s ∧ s.fault? = none) : ofEnvironment env = .ok s :=
  ofEnvironment_eq_ok_iff.mpr ⟨convert?_eq_some_iff.mp h.1, h.2⟩

end Settings

end StorageGauges
