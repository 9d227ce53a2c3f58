import Lact.Restart
import Lact.Spawn
import Lact.Stray

/-! What a start of the daemon brings.  A daemon that finds no stored config gives every card the
default settings and starts no fan-control thread, so an unprivileged daemon runs none until a
client sends `StartFanControl` or `SetConfig`.  Every daemon of a run with restarts is a
state of its own process (`Reachable`), so the invariants of the `Live` module hold of it.  When it
stops and `Daemon::new(false)` runs again on a machine that lists the same cards, each card comes
back under its handle with the settings the stopped daemon's controller had, and its fan-control
thread runs again exactly when those settings enable fan control.  `SetConfig` with the config
`GetConfig` returns brings each card back in the same way, without a restart. -/

namespace Lact

/-! ### A start with no stored config -/

/-- A walk of `load_gpu_controllers` in which every config entry and every controller has the
settings of `GpuConfig::new()`, and the threads are `loops`. -/
structure Defaulted (loops : List FanLoop) (s : Loading) : Prop where
  entries : ∀ h v, s.config.gpuConfigs.lookup h = some v → v.2 = GpuConfig.new
  controllers : ∀ h c, s.gpuControllers.lookup h = some c → c.config = GpuConfig.new
  threads : s.world.fanLoops = loops

/-- What holds of every value under a handle holds after `insert` of a value of which it holds. -/
theorem forall_lookup_insert {V : Type} {P : V → Prop} {m : HashMap V}
    (hm : ∀ h v, m.lookup h = some v → P v) {i : UInt32} {v : V} (hv : P v) :
    ∀ h v₁, (m.insert i v).lookup h = some v₁ → P v₁ := fun h v₁ h₁ => by
  rcases lookup_insert_some h₁ with ⟨-, rfl⟩ | ⟨-, h₁⟩
  · exact hv
  · exact hm h v₁ h₁

/-- A card matched to a default entry takes the default settings, which start no thread; an
unmatched card gets a default entry. -/
theorem loadEntry_defaulted (env : Env) (pciDb : Option PciDatabase) {loops : List FanLoop}
    {s : Loading} (hs : Defaulted loops s) (e : DrmEntry) :
    Defaulted loops (loadEntry env pciDb s e) := by
  cases hcard : isCard e.fileName
  · rwa [loadEntry_not_card env pciDb s hcard]
  simp only [loadEntry, hcard, if_true]
  split
  · rename_i id g hfind
    obtain rfl : g = GpuConfig.new := hs.entries id _ (lookup_of_findConfig hfind)
    exact ⟨hs.entries, forall_lookup_insert hs.controllers rfl, hs.threads⟩
  · exact ⟨forall_lookup_insert hs.entries rfl, forall_lookup_insert hs.controllers rfl, hs.threads⟩

theorem loadGpuControllers_defaulted (env : Env) (path : String) (w : World) :
    Defaulted w.fanLoops (env.drm.foldl (loadEntry env (pciDb env (Config.new path)))
      (Loading.init (Config.new path) w)) :=
  List.foldlRecOn (motive := Defaulted w.fanLoops) env.drm _ _
    ⟨by simp [Loading.init, Config.new], by simp [Loading.init], rfl⟩
    fun _ hs e _ => loadEntry_defaulted env _ hs e

/-- `Daemon::new` from no stored config walks from `Config::new`: it keeps what that walk builds,
and the threads the walk leaves. -/
theorem Daemon.new_defaulted {env : Env} {unprivileged : Bool} {w w' : World} {d : Daemon}
    (hstore : unprivileged = true ∨ readFromFile w CONFIG_PATH = none)
    (hnew : (Daemon.new env unprivileged).run w = .ok d w') :
    ∃ s, Defaulted w.fanLoops s ∧ d.gpuControllers = s.gpuControllers ∧ d.config = s.config ∧
      w'.fanLoops = s.world.fanLoops := by
  obtain ⟨w₁, hl, hsave, hkeep⟩ := Daemon.new_cases hnew
  have hcfg : Daemon.readConfig unprivileged w = Config.new CONFIG_PATH := by
    rcases hstore with rfl | hf
    · rfl
    · cases unprivileged <;> simp [Daemon.readConfig, hf]
  simp only [loadGpuControllers, hcfg, Prod.mk.injEq] at hl
  obtain ⟨⟨hgc, hconfig⟩, hw₁⟩ := hl
  refine ⟨_, loadGpuControllers_defaulted env CONFIG_PATH { w with socket := true }, hgc.symm,
    hconfig.symm, ?_⟩
  rw [hw₁]
  cases unprivileged
  · rw [hsave rfl, World.saved_fanLoops]
  · rw [hkeep rfl]

/-- A daemon that starts with no stored config, an unprivileged one or a privileged one on a
machine where `/etc/lact.json` cannot be read, gives every card and every config entry the
default settings of `GpuConfig::new()` and starts no fan-control thread: the daemon takes fan
control over only when a client enables it. -/
theorem first_start_takes_defaults {env : Env} {unprivileged : Bool} {w w' : World} {d : Daemon}
    (hstore : unprivileged = true ∨ readFromFile w CONFIG_PATH = none)
    (hnew : (Daemon.new env unprivileged).run w = .ok d w') :
    w'.fanLoops = w.fanLoops ∧
      (∀ h c, d.gpuControllers.lookup h = some c → c.config = GpuConfig.new) ∧
      ∀ h v, d.config.gpuConfigs.lookup h = some v → v.2 = GpuConfig.new := by
  obtain ⟨s, hD, hgc, hconfig, hw⟩ := Daemon.new_defaulted hstore hnew
  exact ⟨hw.trans hD.threads, fun h c hc => hD.controllers h c (hgc ▸ hc),
    fun h v hv => hD.entries h v (hconfig ▸ hv)⟩

theorem first_start_takes_defaults_sample :
    (Daemon.new sampleEnv false).run bareWorld = .ok sampleDaemon sampleBooted ∧
      (sampleBooted.fanLoops = bareWorld.fanLoops ∧
        (∀ h c, sampleDaemon.gpuControllers.lookup h = some c → c.config = GpuConfig.new) ∧
        ∀ h v, sampleDaemon.config.gpuConfigs.lookup h = some v → v.2 = GpuConfig.new) :=
  have hnew : (Daemon.new sampleEnv false).run bareWorld = .ok sampleDaemon sampleBooted := rfl
  ⟨hnew, first_start_takes_defaults (.inr rfl) hnew⟩

/-- Along every run of an unprivileged daemon in which no client sends `StartFanControl` or
`SetConfig`, no fan-control thread ever runs, whatever else the clients send, the cards answer and
`random()` returns: an unprivileged daemon takes no fan over unless a client asks. -/
theorem unprivileged_fans_untouched_until_asked {reqs : List Request} {d : Daemon} {w : World}
    (hr : Reachable true reqs d w)
    (hreqs : ∀ r ∈ reqs, (∀ i, r ≠ .action (.startFanControl i)) ∧
      ∀ config, r ≠ .action (.setConfig config)) :
    w.fanLoops = [] := by
  induction hr with
  | new hloops h =>
    obtain ⟨s, hD, -, -, hw⟩ := Daemon.new_defaulted (.inl rfl) h
    rw [hw, hD.threads, hloops]
  | @handle reqs d d' w w' env req _ h ih =>
    have hold := ih fun r hm => hreqs r (List.mem_append_left _ hm)
    obtain ⟨hs, hc⟩ := hreqs _ (List.mem_append_right _ (List.mem_singleton_self _))
    -- a request other than `StartFanControl` and `SetConfig` starts no thread
    have hnone : req.starts env = 0 := by
      rcases req with _ | _ | a
      · rfl
      · rfl
      · cases a <;> first | rfl | exact absurd rfl (hs _) | exact absurd rfl (hc _)
    have hlen := handleConnection_spawns env d req w
    rw [h, worldOf_ok, hold, hnone] at hlen
    exact List.eq_nil_of_length_eq_zero (Nat.le_zero.mp hlen)

theorem unprivileged_fans_untouched_until_asked_sample :
    ∃ d w, Reachable true [.action (.stopFanControl 7), .action (.getFanControl 7)] d w ∧
      w.fanLoops = [] :=
  have hnew : (Daemon.new sampleEnv true).run bareWorld =
      .ok sampleDaemon
        { bareWorld with socket := true, serials := 1, log := [.build 0 "/sys/class/drm/card0/device"] } :=
    rfl
  have hr : Reachable true [.action (.stopFanControl 7), .action (.getFanControl 7)] _ _ :=
    @Reachable.handle true _ _ _ _ _ sampleEnv (.action (.getFanControl 7))
      (@Reachable.handle true [] _ _ _ _ sampleEnv (.action (.stopFanControl 7)) (.new rfl hnew) rfl)
      rfl
  ⟨_, _, hr, unprivileged_fans_untouched_until_asked hr fun r hm => by
    simp only [List.mem_cons, List.mem_singleton, List.not_mem_nil, or_false] at hm
    rcases hm with rfl | rfl <;> exact ⟨nofun, nofun⟩⟩

/-! ### A restart -/

/-- Every daemon of a run with restarts was reached from its own start by the connections it
handled. -/
theorem Host.reachable {cards : List GpuIdentifier} {w₀ : World} {s : Host}
    (hs : Relation.ReflTransGen (StableStep cards) ⟨none, w₀⟩ s) :
    ∀ d, s.daemon = some d → ∃ reqs, Reachable false reqs d s.world := by
  induction hs with
  | refl => nofun
  | tail _ step ih =>
    cases step with
    | @start env w _ _ =>
      rcases hnew : (Daemon.new env false).run { w with fanLoops := [] } with ⟨d', w'⟩ | ⟨e, w'⟩ <;>
        simp only [Host.after_ok, Host.after_error]
      · rintro d ⟨⟩
        exact ⟨[], .new rfl hnew⟩
      · nofun
    | @handle env d w req _ _ =>
      obtain ⟨reqs, hr⟩ := ih d rfl
      rcases hrun : (handleConnection env d req).run w with ⟨d', w'⟩ | ⟨e, w'⟩ <;>
        simp only [Host.after_ok, Host.after_error]
      · rintro _ ⟨⟩
        exact ⟨reqs ++ [req], hr.handle hrun⟩
      · nofun
    | stop => nofun

/-- `Daemon::new(false)` on the world a settled daemon stopped in starts from that daemon's
config. -/
theorem Settled.readConfig {cards : List GpuIdentifier} {d : Daemon} {w : World}
    (hs : Settled cards d w) : Daemon.readConfig false w = d.config := by
  simp [Daemon.readConfig, readFromFile, hs.saved]
  rw [← hs.path]

/-- Two settled daemons on the same cards, with equal configs that hold their controllers'
settings, have under each handle controllers for the same card with the same settings. -/
theorem Settled.same_settings {cards : List GpuIdentifier} {d d' : Daemon} {w w' : World}
    (hS : Settled cards d w) (hS' : Settled cards d' w') (hs : Synced d.gpuControllers d.config)
    (hs' : Synced d'.gpuControllers d'.config) (hcfg : d'.config = d.config) {k : UInt32}
    {c : GpuController} (hc : d.gpuControllers.lookup k = some c) :
    ∃ c', d'.gpuControllers.lookup k = some c' ∧ c'.identifier = c.identifier ∧
      c'.config = c.config := by
  obtain ⟨hx, g, hg⟩ := (hS.registered k c.identifier).mp ⟨c, hc, rfl⟩
  obtain ⟨c', hc', hid⟩ := (hS'.registered k c.identifier).mpr ⟨hx, g, hcfg ▸ hg⟩
  have hnow := hs' k c' hc'
  rw [hcfg, hs k c hc, Option.some_inj, Prod.mk.injEq] at hnow
  exact ⟨c', hc', hid, hnow.2.symm⟩

/-- In a run of a privileged daemon with restarts, from a store with distinct identifiers on a
machine that lists the same cards (with distinct identifiers) in any order: when the daemon stops
and starts again, every card that had a controller under `h` has one under `h` again, for the same
card and with the settings the stopped daemon's controller had, and the new controller's
fan-control thread runs exactly when those settings enable fan control. -/
theorem restart_restores_settings {cards : List GpuIdentifier} (hcards : cards.Nodup) {w₀ : World}
    (hstore : ∀ c, w₀.files CONFIG_PATH = some c → Distinct c) {d : Daemon} {w : World}
    (hs : Relation.ReflTransGen (StableStep cards) ⟨none, w₀⟩ ⟨some d, w⟩) {env : Env}
    (hperm : (discovered env.drm).Perm cards) {d' : Daemon} {w' : World}
    (hnew : (Daemon.new env false).run { w with fanLoops := [] } = .ok d' w') {h : UInt32}
    {c : GpuController} (hc : d.gpuControllers.lookup h = some c) :
    ∃ c', d'.gpuControllers.lookup h = some c' ∧ c'.identifier = c.identifier ∧
      c'.config = c.config ∧
      ((∃ l ∈ w'.fanLoops, l.owner = c'.serial) ↔ c.config.fanControlEnabled = true) := by
  obtain ⟨hst, -⟩ := stable_run hcards hs ⟨hstore, nofun⟩
  have hS : Settled cards d w := hst.running d rfl
  obtain ⟨reqs, hr⟩ := Host.reachable hs d rfl
  -- the restart loads the stopped daemon's config again, and settles on it
  have hload := hS.load hperm { w with fanLoops := [], socket := true }
  rw [← hS.readConfig] at hload
  obtain ⟨hup, -⟩ := start_stable hcards hperm hload.1 hst.store
  rw [hnew] at hup
  obtain ⟨w₁, hl, -, -⟩ := Daemon.new_cases hnew
  have hcfg : d'.config = d.config := by
    rw [← hS.readConfig, ← hload.2]
    exact (congrArg (·.1.2) hl).symm
  have hd' := Daemon.new_holds rfl hnew
  obtain ⟨c', hc', hid, hsame⟩ :=
    hS.same_settings (hup.running d' rfl) hr.holds.synced hd'.synced hcfg hc
  refine ⟨c', hc', hid, hsame, ?_⟩
  rw [← hsame]
  exact hd'.live.running h c' hc'

theorem restart_restores_settings_sample :
    ∃ d w d' w', Relation.ReflTransGen (StableStep [sampleId]) ⟨none, bareWorld⟩ ⟨some d, w⟩ ∧
      (Daemon.new sampleEnv false).run { w with fanLoops := [] } = .ok d' w' ∧
      d.gpuControllers.lookup 7 = some sampleController ∧
      ∃ c', d'.gpuControllers.lookup 7 = some c' ∧ c'.identifier = sampleController.identifier ∧
        c'.config = sampleController.config ∧
        ((∃ l ∈ w'.fanLoops, l.owner = c'.serial) ↔
          sampleController.config.fanControlEnabled = true) :=
  ⟨sampleDaemon, sampleBooted, _, _, sample_started, rfl, rfl,
    restart_restores_settings (by decide) (by simp [bareWorld]) sample_started (by decide)
      (rfl : (Daemon.new sampleEnv false).run { sampleBooted with fanLoops := [] } = _) rfl⟩

/-- After a walk that kept the threads of `w` and adopted every thread it started, the threads
no controller owns are exactly those of `w`. -/
theorem Loaded.ownerless_iff {w w' : World} {gc : HashMap GpuController} {config : Config}
    (hL : Loaded w gc config w') (ht : Threads w) (ha : Adopted w gc w') {l : FanLoop}
    (hl : l ∈ w'.fanLoops) :
    (∀ k c, gc.lookup k = some c → l.owner ≠ c.serial) ↔ l ∈ w.fanLoops := by
  refine ⟨fun hnone => ?_, fun hold k c hc ho => ?_⟩
  · rcases ha l hl with hold | ⟨k, c, hc, ho⟩
    · exact hold
    · exact absurd ho (hnone k c hc)
  · have := ht.owners l hold
    have := hL.fresh k c hc
    omega

/-- In a run of a privileged daemon with restarts (`StableStep`: every start finds no
fan-control thread and draws handles that are not yet keys, every connection's machine lists the
same cards, with distinct identifiers, in any order, and every `SetConfig` carries the config
`GetConfig` answers), from a store with distinct identifiers: `SetConfig` with the config
`GetConfig` returns leaves the config as it was, keeps a controller under exactly the handles
that had one, and puts under each a controller for the same card with the same settings.  Every
fan-control thread that ran before still runs and no rebuilt controller owns it, and every other
thread belongs to a rebuilt controller: the threads left with no controller are exactly those of
before. -/
theorem config_roundtrip_keeps_settings {cards : List GpuIdentifier} (hcards : cards.Nodup)
    {w₀ : World} (hstore : ∀ c, w₀.files CONFIG_PATH = some c → Distinct c) {d : Daemon}
    {w : World} (hs : Relation.ReflTransGen (StableStep cards) ⟨none, w₀⟩ ⟨some d, w⟩) {env : Env}
    (hperm : (discovered env.drm).Perm cards) {d' : Daemon} {w' : World}
    (h : (handleConnection env d (.action (.setConfig d.config))).run w = .ok d' w') :
    d'.config = d.config ∧
      (∀ k, (∃ c, d.gpuControllers.lookup k = some c) ↔ ∃ c', d'.gpuControllers.lookup k = some c') ∧
      (∀ k c c', d.gpuControllers.lookup k = some c → d'.gpuControllers.lookup k = some c' →
        c'.identifier = c.identifier ∧ c'.config = c.config) ∧
      w.fanLoops <+: w'.fanLoops ∧
      ∀ l ∈ w'.fanLoops,
        (∀ k c', d'.gpuControllers.lookup k = some c' → l.owner ≠ c'.serial) ↔ l ∈ w.fanLoops := by
  obtain ⟨hst, -⟩ := stable_run hcards hs ⟨hstore, nofun⟩
  have hS : Settled cards d w := hst.running d rfl
  obtain ⟨reqs, hr⟩ := Host.reachable hs d rfl
  have hS' : Settled cards d' w' :=
    hS.handled hperm (fun _ hc => by cases hc; rfl) hcards (handleConnection_cases h)
  obtain ⟨w₁, hl, -, hloops⟩ := handleConnection_setConfig h
  have hcfg : d'.config = d.config := (congrArg (·.1.2) hl).symm.trans (hS.load hperm w).2
  have hd' := (hr.handle h).holds
  have hadopt := loadGpuControllers_adopted (hperm.nodup_iff.mpr hcards) (hS.load hperm w).1
  rw [hl] at hadopt
  obtain ⟨r, w₂, hx, rfl⟩ := handleConnection_action_ok h
  obtain ⟨hL, -⟩ := setConfig_loaded hr.holds.live.toThreads hx
  refine ⟨hcfg, fun k => ⟨fun ⟨c, hc⟩ => ?_, fun ⟨c', hc'⟩ => ?_⟩, fun k c c' hc hc' => ?_,
    hL.keeps, fun l hl' => hL.ownerless_iff hr.holds.live.toThreads
      (fun l hl => hadopt l (hloops ▸ hl)) hl'⟩
  · obtain ⟨c', hc', -⟩ := hS.same_settings hS' hr.holds.synced hd'.synced hcfg hc
    exact ⟨c', hc'⟩
  · obtain ⟨c, hc, -⟩ := hS'.same_settings hS hd'.synced hr.holds.synced hcfg.symm hc'
    exact ⟨c, hc⟩
  · obtain ⟨c'', hc'', hsame⟩ := hS.same_settings hS' hr.holds.synced hd'.synced hcfg hc
    rw [hc', Option.some_inj] at hc''
    exact hc'' ▸ hsame

theorem config_roundtrip_keeps_settings_sample :
    ∃ d' w', Relation.ReflTransGen (StableStep [sampleId]) ⟨none, bareWorld⟩
        ⟨some sampleDaemon, sampleBooted⟩ ∧
      (handleConnection sampleEnv sampleDaemon (.action (.setConfig sampleDaemon.config))).run
        sampleBooted = .ok d' w' ∧
      (d'.config = sampleDaemon.config ∧
        (∀ k, (∃ c, sampleDaemon.gpuControllers.lookup k = some c) ↔
          ∃ c', d'.gpuControllers.lookup k = some c') ∧
        (∀ k c c', sampleDaemon.gpuControllers.lookup k = some c →
          d'.gpuControllers.lookup k = some c' → c'.identifier = c.identifier ∧ c'.config = c.config) ∧
        sampleBooted.fanLoops <+: w'.fanLoops ∧
        ∀ l ∈ w'.fanLoops, (∀ k c', d'.gpuControllers.lookup k = some c' → l.owner ≠ c'.serial) ↔
          l ∈ sampleBooted.fanLoops) :=
  have hrun : (handleConnection sampleEnv sampleDaemon (.action (.setConfig sampleDaemon.config))).run
      sampleBooted = .ok _ _ := rfl
  ⟨_, _, sample_started, hrun,
    config_roundtrip_keeps_settings (by decide) (by simp [bareWorld]) sample_started (by decide) hrun⟩

/-! ### A config path a client moved -/

/-- A connection after which the daemon carries on writes no file but the one the path of the
config it ends with names. -/
theorem handleConnection_files_ne {env : Env} {d d' : Daemon} {w w' : World} {req : Request}
    (h : (handleConnection env d req).run w = .ok d' w') {p : String}
    (hp : w'.fileOf p ≠ w'.fileOf d'.config.configPath) : w'.files p = w.files p := by
  rcases handleConnection_cases h with ⟨-, hs⟩ | ⟨_, _, _, -, -, -, ⟨-, hs⟩ | ⟨-, hs⟩⟩ |
    ⟨_, _, -, -, hs⟩ <;> rw [hs.1]
  all_goals exact writeFile_of_ne _ _ hp

/-- Along every run of a daemon after each connection of which the config's path names a file
other than `/etc/lact.json`, as after a client's `SetConfig` with another path, the file
`/etc/lact.json` keeps what it held: `Daemon::new(false)` after a restart starts from the config
saved before the path moved, and every change made since is lost. -/
theorem moved_config_path_loses_changes {s s' : Daemon × World}
    (hrun : Relation.ReflTransGen (fun s s' => Serves s s' ∧
      s'.2.fileOf s'.1.config.configPath ≠ s'.2.fileOf CONFIG_PATH) s s') :
    Daemon.readConfig false s'.2 = Daemon.readConfig false s.2 := by
  induction hrun with
  | refl => rfl
  | tail _ step ih =>
    obtain ⟨⟨env, req, h⟩, hp⟩ := step
    rw [← ih]
    simp only [Daemon.readConfig, readFromFile, handleConnection_files_ne h (Ne.symm hp)]

theorem moved_config_path_loses_changes_sample :
    ∃ d w, Relation.ReflTransGen (fun s s' => Serves s s' ∧
        s'.2.fileOf s'.1.config.configPath ≠ s'.2.fileOf CONFIG_PATH) (sampleDaemon, sampleBooted)
        (d, w) ∧
      d.config.gpuConfigs.lookup 7 = fanConfig.gpuConfigs.lookup 7 ∧
      Daemon.readConfig false w = Daemon.readConfig false sampleBooted :=
  have hrun : Relation.ReflTransGen (fun s s' => Serves s s' ∧
      s'.2.fileOf s'.1.config.configPath ≠ s'.2.fileOf CONFIG_PATH) (sampleDaemon, sampleBooted)
      (_, _) :=
    .tail (b := (_, _)) (.single ⟨⟨sampleEnv, .action (.setConfig movedConfig), rfl⟩, by decide⟩)
      ⟨⟨sampleEnv, .action (.startFanControl 7), rfl⟩, by decide⟩
  ⟨_, _, hrun, rfl, moved_config_path_loses_changes hrun⟩

end Lact
