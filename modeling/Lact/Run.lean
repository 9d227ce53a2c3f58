import Lact.Shutdown

/-! The runs of one daemon process: `Daemon::new`, then one connection after another.  Over every
run, whatever the clients send, the cards answer and `random()` returns: every controller's handle
is a key of the config under the controller's identifier; the config's path is `/etc/lact.json`
until a client's `SetConfig` replaces it with the path of its own config; and in a privileged
daemon the last config saved is the config in memory. -/

namespace Lact

theorem Daemon.readConfig_configPath (unprivileged : Bool) (w : World) :
    (Daemon.readConfig unprivileged w).configPath = CONFIG_PATH := by
  unfold Daemon.readConfig readFromFile
  split
  · rfl
  · cases w.files CONFIG_PATH <;> rfl

/-- What `Daemon::new` does when it returns: the controllers and config `load_gpu_controllers`
builds from the config it starts from, saved when the daemon is privileged. -/
theorem Daemon.new_cases {env : Env} {unprivileged : Bool} {w w' : World} {d : Daemon}
    (h : (Daemon.new env unprivileged).run w = .ok d w') :
    ∃ w₁, loadGpuControllers env (Daemon.readConfig unprivileged w) { w with socket := true } =
        ((d.gpuControllers, d.config), w₁) ∧
      (unprivileged = false → w' = w₁.saved d.config) ∧ (unprivileged = true → w' = w₁) := by
  simp only [Daemon.new, Proc.run_bind, Proc.run_modify, Proc.run_get,
    loadGpuControllersOrPanic_run] at h
  rcases hp : drmPanic? env with _ | ⟨visited, message⟩ <;> simp only [hp, reduceCtorEq] at h
  rcases hl : loadGpuControllers env (Daemon.readConfig unprivileged w) { w with socket := true }
    with ⟨⟨gc, config⟩, w₁⟩
  rw [show Daemon.readConfig unprivileged { w with socket := true } =
    Daemon.readConfig unprivileged w from rfl, hl] at h
  cases unprivileged <;> cases hs : env.saveOk <;>
    simp [save_run, hs] at h <;> obtain ⟨rfl, rfl⟩ := h <;> exact ⟨_, rfl, by simp, by simp⟩

/-- The states of one daemon process, with the connections it has handled, latest last: the
process starts with no fan-control thread and `Daemon::new` returns, then each connection is
handled and the daemon carries on. -/
inductive Reachable (unprivileged : Bool) : List Request → Daemon → World → Prop
  | new {env : Env} {w w' : World} {d : Daemon} (hloops : w.fanLoops = [])
      (h : (Daemon.new env unprivileged).run w = .ok d w') : Reachable unprivileged [] d w'
  | handle {reqs : List Request} {d d' : Daemon} {w w' : World} {env : Env} {req : Request}
      (hr : Reachable unprivileged reqs d w) (h : (handleConnection env d req).run w = .ok d' w') :
      Reachable unprivileged (reqs ++ [req]) d' w'

theorem sample_reachable : Reachable false [] sampleDaemon sampleBooted :=
  @Reachable.new false sampleEnv bareWorld _ _ rfl rfl

/-! ### Controllers and config agree -/

section Step

variable {env : Env} {d d' : Daemon} {w w' : World} {req : Request}

theorem Handled.consistent (h : Handled env d w req d' w')
    (hc : Consistent d.gpuControllers d.config) : Consistent d'.gpuControllers d'.config := by
  rcases h with ⟨rfl, -⟩ | ⟨i, c, c', hl, hid, hgc, ⟨hcfg, -⟩ | ⟨hcfg, -⟩⟩ |
    ⟨config, w₁, -, hl, -⟩
  · exact hc
  · obtain ⟨g, hg⟩ := hc i c hl
    rw [hgc, hcfg]
    exact hc.insert (hid ▸ hg)
  · rw [hgc, hcfg]
    exact hc.insert_both i c' c'.config
  · have := loadGpuControllers_consistent env config w
    rwa [hl] at this

/-- The config in memory is the one saved last, and its file holds it. -/
def Persisted (d : Daemon) (w : World) : Prop :=
  lastSaved w.log = some d.config ∧ w.files d.config.configPath = some d.config

theorem Handled.persisted (h : Handled env d w req d' w') (hp : Persisted d w) :
    Persisted d' w' := by
  have saved : ∀ {config}, SavedLast w w' config → d'.config = config → Persisted d' w' := by
    rintro config ⟨hf, hl⟩ rfl
    exact ⟨hl, by rw [hf, writeFile_self]⟩
  rcases h with ⟨rfl, hf, hl⟩ | ⟨i, c, c', -, -, -, ⟨hcfg, hf, hl⟩ | ⟨hcfg, hs⟩⟩ |
    ⟨config, w₁, -, -, hs⟩
  · exact ⟨hl.trans hp.1, hf ▸ hp.2⟩
  · exact ⟨hl.trans (hcfg ▸ hp.1), hf ▸ hcfg ▸ hp.2⟩
  · exact saved hs rfl
  · exact saved hs rfl

/-- The path of the config a `SetConfig` request carries. -/
def Request.setConfigPath? : Request → Option String
  | .action (.setConfig config) => some config.configPath
  | _ => none

/-- A connection keeps the config's path, except `SetConfig`, which takes the path of the
client's config. -/
theorem handleConnection_configPath (h : (handleConnection env d req).run w = .ok d' w') :
    d'.config.configPath = req.setConfigPath?.getD d.config.configPath := by
  by_cases hreq : ∃ config, req = .action (.setConfig config)
  · obtain ⟨config, rfl⟩ := hreq
    obtain ⟨w₁, hl, -⟩ := handleConnection_setConfig h
    have := (loadGpuControllers_frame env config w).2
    rwa [hl] at this
  · have hnone : req.setConfigPath? = none := by
      rcases req with _ | _ | ⟨_ | _ | config | _⟩ <;> first | rfl | exact absurd ⟨config, rfl⟩ hreq
    rw [hnone, Option.getD_none]
    rcases handleConnection_cases h with ⟨rfl, -⟩ | ⟨i, c, c', -, -, -, ⟨hcfg, -⟩ | ⟨hcfg, -⟩⟩ |
      ⟨config, w₁, hr, -, -⟩
    · rfl
    · rw [hcfg]
    · rw [hcfg, Config.insert_configPath]
    · exact absurd ⟨config, hr⟩ hreq

end Step

/-- The path of the config of the last `SetConfig` among the requests. -/
def lastSetConfigPath (reqs : List Request) : Option String :=
  (reqs.filterMap Request.setConfigPath?).getLast?

theorem Reachable.consistent {unprivileged : Bool} {reqs : List Request} {d : Daemon}
    {w : World} (hr : Reachable unprivileged reqs d w) : Consistent d.gpuControllers d.config := by
  induction hr with
  | @new env w _ _ _ h =>
    obtain ⟨w₁, hl, -⟩ := Daemon.new_cases h
    have := loadGpuControllers_consistent env (Daemon.readConfig unprivileged w)
      { w with socket := true }
    rwa [hl] at this
  | handle _ h ih => exact (handleConnection_cases h).consistent ih

/-- In every state of a daemon, whatever configs clients send and whatever `random()` returns,
every controller's handle is a key of the config under the controller's identifier; so the
`unwrap` of the stored settings in `Shutdown` never panics. -/
theorem reachable_consistent {unprivileged : Bool} {reqs : List Request} {d : Daemon} {w : World}
    (hr : Reachable unprivileged reqs d w) :
    Consistent d.gpuControllers d.config ∧
      ∀ env w', (handleConnection env d (.action .shutdown)).run w ≠ .error (.panic unwrapNone) w' := by
  have hc := hr.consistent
  refine ⟨hc, fun env w' => ?_⟩
  have hs := shutdown_no_unwrap env hc w w'
  rw [handleConnection_action_run]
  simp only [dispatch]
  rcases hx : (shutdown env d).run w with ⟨⟨d₁, r⟩, w₁⟩ | ⟨e, w₁⟩
  · exact absurd hx shutdown_not_ok
  · simpa [hx] using hs

/-- The sample config with another path. -/
def movedConfig : Config := { sampleConfig with configPath := "/var/tmp/lact.json" }

theorem reachable_consistent_sample :
    ∃ d w, Reachable false [.action (.setConfig movedConfig), .action (.startFanControl 7)] d w ∧
      (Consistent d.gpuControllers d.config ∧
        ∀ env w', (handleConnection env d (.action .shutdown)).run w ≠ .error (.panic unwrapNone) w') :=
  have hr : Reachable false [.action (.setConfig movedConfig), .action (.startFanControl 7)] _ _ :=
    @Reachable.handle false _ _ _ _ _ sampleEnv (.action (.startFanControl 7))
      (@Reachable.handle false [] sampleDaemon _ sampleBooted _ sampleEnv
        (.action (.setConfig movedConfig)) sample_reachable rfl) rfl
  ⟨_, _, hr, reachable_consistent hr⟩

theorem lastSetConfigPath_append (reqs : List Request) (req : Request) :
    lastSetConfigPath (reqs ++ [req]) = req.setConfigPath?.or (lastSetConfigPath reqs) := by
  cases h : req.setConfigPath? <;> simp [lastSetConfigPath, List.filterMap_append, h]

/-! ### The config saved -/

/-- A privileged `Daemon::new` saves the config it builds, in the file of its path. -/
theorem Daemon.new_persisted {env : Env} {w w' : World} {d : Daemon}
    (h : (Daemon.new env false).run w = .ok d w') : Persisted d w' := by
  obtain ⟨w₁, -, hs, -⟩ := Daemon.new_cases h
  rw [hs rfl]
  exact ⟨by simp, by simp [World.saved]⟩

theorem reachable_persisted {reqs : List Request} {d : Daemon} {w : World}
    (hr : Reachable false reqs d w) : Persisted d w := by
  induction hr with
  | new _ h => exact Daemon.new_persisted h
  | handle _ h ih => exact (handleConnection_cases h).persisted ih

/-- The config's path is `/etc/lact.json` from `Daemon::new` on, until a client sends
`SetConfig`; from then on it is the path of the last config a client sent, and a privileged
daemon's config is saved in the file at that path. -/
theorem config_path_set_by_client {unprivileged : Bool} {reqs : List Request} {d : Daemon}
    {w : World} (hr : Reachable unprivileged reqs d w) :
    d.config.configPath = (lastSetConfigPath reqs).getD CONFIG_PATH ∧
      (unprivileged = false → w.files d.config.configPath = some d.config) := by
  refine ⟨?_, fun hu => (reachable_persisted (hu ▸ hr)).2⟩
  induction hr with
  | @new env w _ _ _ h =>
    obtain ⟨w₁, hl, -⟩ := Daemon.new_cases h
    have := (loadGpuControllers_frame env (Daemon.readConfig unprivileged w)
      { w with socket := true }).2
    rw [hl, Daemon.readConfig_configPath] at this
    exact this
  | @handle reqs _ _ _ _ _ req _ h ih =>
    rw [handleConnection_configPath h, ih, lastSetConfigPath_append]
    cases req.setConfigPath? <;> rfl

theorem config_path_set_by_client_sample :
    ∃ d w, Reachable false [.action (.setConfig movedConfig)] d w ∧
      (d.config.configPath = (lastSetConfigPath [.action (.setConfig movedConfig)]).getD CONFIG_PATH ∧
        (false = false → w.files d.config.configPath = some d.config)) :=
  have hr : Reachable false [.action (.setConfig movedConfig)] _ _ :=
    @Reachable.handle false [] sampleDaemon _ sampleBooted _ sampleEnv
      (.action (.setConfig movedConfig)) sample_reachable rfl
  ⟨_, _, hr, config_path_set_by_client hr⟩

/-- A client's `SetConfig` moves the file a privileged daemon writes: after it, the config's
path is the one the client chose. -/
theorem client_moves_config_path :
    ¬ ∀ reqs d w, Reachable false reqs d w → d.config.configPath = CONFIG_PATH := fun h =>
  absurd (h _ _ _ (@Reachable.handle false [] sampleDaemon _ sampleBooted _ sampleEnv
    (.action (.setConfig movedConfig)) sample_reachable rfl)) (by decide)

/-- In a privileged daemon the last config saved is the config in memory, after `Daemon::new`
and after every connection.  A mutating action on a handle with a controller runs its call on
that controller and no other; when the call goes through, the controller's identifier and
settings are written back under the handle, every other entry kept, and exactly that config is
saved before the `Ok` response, and when it is refused the config stays and nothing is saved. -/
theorem saved_config_current :
    (∀ reqs d w, Reachable false reqs d w → lastSaved w.log = some d.config) ∧
    (∀ (env : Env) (d : Daemon) (w : World) (a : Action) i op err c,
      a.mutation? = some (i, op, err) → d.gpuControllers.lookup i = some c →
      let c' := (c.call env.hw op w).1.1
      let reply := (c.call env.hw op w).1.2
      let config' := d.config.insert i (c'.identifier, c'.config)
      (config'.gpuConfigs.lookup i = some (c'.identifier, c'.config) ∧
        ∀ k, k ≠ i → config'.gpuConfigs.lookup k = d.config.gpuConfigs.lookup k) ∧
      (worldOf ((handleConnection env d (.action a)).run w)).log = w.log ++ .call c.serial op ::
        (if reply.isSome then
          (if env.saveOk then [.save config'.configPath config', .respond (.ok .ok)] else [])
        else [.respond (.error err)]) ∧
      ∀ d' w', (handleConnection env d (.action a)).run w = .ok d' w' →
        d' = ⟨d.gpuControllers.insert i c', if reply.isSome then config' else d.config⟩) := by
  refine ⟨fun _ _ _ hr => (reachable_persisted hr).1, ?_⟩
  intro env d w a i op err c ha hl
  refine ⟨⟨by simp, fun k hk => by simp [AList.lookup_insert_ne hk]⟩, ?_⟩
  rw [handleConnection_action_run, dispatch_of_mutation ha, mutate_run hl]
  have hlog := GpuController.call_log env.hw op c w
  rcases hc : c.call env.hw op w with ⟨⟨c', _ | reply⟩, w₁⟩ <;> rw [hc] at hlog <;> dsimp only at hlog <;>
    cases hs : env.saveOk <;> cases hd : env.delivered <;> simp [hlog]

/-- One connection that is neither a mutating action nor `SetConfig`, after which the daemon
carries on. -/
def Reads (s s' : Daemon × World) : Prop :=
  ∃ env req, (∀ a, req = .action a → a.mutation? = none) ∧
    (∀ config, req ≠ .action (.setConfig config)) ∧ (handleConnection env s.1 req).run s.2 = .ok s'.1 s'.2

theorem Reads.run {d₀ : Daemon} {w₀ : World} {s : Daemon × World}
    (hs : Relation.ReflTransGen Reads (d₀, w₀) s) : s.1 = d₀ ∧ NoSave w₀ s.2 := by
  induction hs with
  | refl => exact ⟨rfl, NoSave.refl w₀⟩
  | tail _ step ih =>
    obtain ⟨env, req, hm, hc, h⟩ := step
    obtain ⟨hd, hns⟩ := handleConnection_reads hm hc h
    exact ⟨hd.trans ih.1, ih.2.trans hns⟩

/-- The sample config once fan control is on for the card: what `GetConfig` answers after
`StartFanControl 7`. -/
def fanConfig : Config :=
  sampleConfig.insert 7 (sampleId, { GpuConfig.new with fanControlEnabled := true })

/-- `SetConfig` with the config `GetConfig` answers drops the controller whose fan-control thread
runs without stopping it: afterwards the thread of controller `0` still runs, no controller `0`
is in the map, and the rebuilt controller `1` has started a second thread for the same card. -/
theorem setConfig_orphans_fan_thread :
    ∃ d₁ w₁ d w, Reachable false [.action (.startFanControl 7)] d₁ w₁ ∧ d₁.config = fanConfig ∧
      (handleConnection sampleEnv d₁ (.action (.setConfig fanConfig))).run w₁ = .ok d w ∧
      d.gpuControllers.entries.map (·.2.serial) = [1] ∧
      w.fanLoops = [⟨0, "/sys/class/drm/card0/device"⟩, ⟨1, "/sys/class/drm/card0/device"⟩] :=
  ⟨_, _, _, _, @Reachable.handle false [] sampleDaemon _ sampleBooted _ sampleEnv
    (.action (.startFanControl 7)) sample_reachable rfl, rfl, rfl, rfl, rfl⟩

end Lact
