import Lact.Run

/-! The controllers of a daemon and their fan-control threads, over the whole run of its process.
Under every controller's handle the config holds the controller's identifier and its live
settings (`Synced`), so the config `GetConfig` answers and a privileged daemon saves is what the
cards run with.  Every controller comes from its own `GpuController::new` call, and a
controller's fan-control thread runs, on the controller's card, exactly when its settings enable
fan control; no controller runs two (`Live`).  `SetConfig` stops no thread: the threads of the
controllers it drops keep running, owned by none of the controllers it builds. -/

namespace Lact

/-- What is found under a handle after `insert`: the value inserted, under its handle, or what was
there before. -/
theorem lookup_insert_some {V : Type} {m : HashMap V} {i h : UInt32} {v v₁ : V}
    (hv : (m.insert i v).lookup h = some v₁) :
    (h = i ∧ v₁ = v) ∨ (h ≠ i ∧ m.lookup h = some v₁) := by
  by_cases hh : h = i
  · subst hh
    rw [AList.lookup_insert, Option.some_inj] at hv
    exact .inl ⟨rfl, hv.symm⟩
  · rw [AList.lookup_insert_ne hh] at hv
    exact .inr ⟨hh, hv⟩

/-! ### The config holds the controllers' settings -/

/-- Under each controller's handle the config holds the controller's identifier and its
settings. -/
def Synced (gc : HashMap GpuController) (config : Config) : Prop :=
  ∀ h c, gc.lookup h = some c → config.gpuConfigs.lookup h = some (c.identifier, c.config)

section Synced

variable {gc : HashMap GpuController} {config : Config}

theorem synced_empty (config : Config) : Synced ∅ config := by
  simp [Synced]

theorem Synced.consistent (hs : Synced gc config) : Consistent gc config :=
  fun h c hc => ⟨c.config, hs h c hc⟩

/-- Registering a controller under a handle whose entry holds its identifier and settings. -/
theorem Synced.insert (hs : Synced gc config) {i : UInt32} {c : GpuController}
    (hi : config.gpuConfigs.lookup i = some (c.identifier, c.config)) :
    Synced (gc.insert i c) config := by
  intro h c' hc'
  rcases lookup_insert_some hc' with ⟨rfl, rfl⟩ | ⟨-, hc'⟩
  · exact hi
  · exact hs h c' hc'

/-- Registering a controller and writing its identifier and settings under one handle. -/
theorem Synced.insert_both (hs : Synced gc config) (i : UInt32) (c : GpuController) :
    Synced (gc.insert i c) (config.insert i (c.identifier, c.config)) := by
  intro h c' hc'
  rw [Config.insert_gpuConfigs]
  rcases lookup_insert_some hc' with ⟨rfl, rfl⟩ | ⟨hh, hc'⟩
  · exact AList.lookup_insert _
  · rw [AList.lookup_insert_ne hh]
    exact hs h c' hc'

end Synced

/-! ### Controllers and their threads -/

/-- The fan-control threads of a world: each was started by a controller built before the
world's count of `GpuController::new` calls, and no controller runs two. -/
structure Threads (w : World) : Prop where
  owners : ∀ l ∈ w.fanLoops, l.owner < w.serials
  single : (w.fanLoops.map (·.owner)).Nodup

/-- The controllers `gc` in the world `w`: each was built before the world's count, the
controllers under two handles come from two `GpuController::new` calls, and a controller's
thread runs, on the controller's card, exactly when its settings enable fan control. -/
structure Live (gc : HashMap GpuController) (w : World) extends Threads w : Prop where
  built : ∀ h c, gc.lookup h = some c → c.serial < w.serials
  serials : ∀ h h' c c', gc.lookup h = some c → gc.lookup h' = some c' → c.serial = c'.serial →
    h = h'
  running : ∀ h c, gc.lookup h = some c →
    ((∃ l ∈ w.fanLoops, l.owner = c.serial) ↔ c.config.fanControlEnabled = true)
  card : ∀ h c, gc.lookup h = some c → ∀ l ∈ w.fanLoops, l.owner = c.serial → l.hwPath = c.hwPath

section Live

variable {gc : HashMap GpuController} {w : World}

theorem Threads.live_empty (ht : Threads w) : Live ∅ w :=
  { ht with
    built := by simp
    serials := by simp
    running := by simp
    card := by simp }

/-- Only the threads and the count of `GpuController::new` calls matter. -/
theorem Live.of_eq (hl : Live gc w) {w' : World} (hloops : w'.fanLoops = w.fanLoops)
    (hserials : w'.serials = w.serials) : Live gc w' where
  owners := by rw [hloops, hserials]; exact hl.owners
  single := by rw [hloops]; exact hl.single
  built := by rw [hserials]; exact hl.built
  serials := hl.serials
  running := by rw [hloops]; exact hl.running
  card := by rw [hloops]; exact hl.card

/-- Registering `c` under `i`, in a world whose threads differ from those of `w` at most in
`c`'s: `c` was built before the new count, shares its `GpuController::new` call with no
controller under another handle, and its thread runs, on its card, exactly when its settings
enable fan control. -/
theorem Live.insert (hl : Live gc w) {i : UInt32} {c : GpuController} {w' : World}
    (hcount : w.serials ≤ w'.serials) (hbuilt : c.serial < w'.serials)
    (hothers : ∀ h c₀, h ≠ i → gc.lookup h = some c₀ → c₀.serial ≠ c.serial)
    (hmem : ∀ l ∈ w'.fanLoops, l ∈ w.fanLoops ∨ l = ⟨c.serial, c.hwPath⟩)
    (hother : ∀ l : FanLoop, l.owner ≠ c.serial → (l ∈ w'.fanLoops ↔ l ∈ w.fanLoops))
    (hsingle : (w'.fanLoops.map (·.owner)).Nodup)
    (hcard : ∀ l ∈ w.fanLoops, l.owner = c.serial → l.hwPath = c.hwPath)
    (hrun : (∃ l ∈ w'.fanLoops, l.owner = c.serial) ↔ c.config.fanControlEnabled = true) :
    Live (gc.insert i c) w' := by
  refine ⟨⟨fun l hl' => ?_, hsingle⟩, fun h c₁ hc₁ => ?_, fun h h' c₁ c₂ h₁ h₂ heq => ?_,
    fun h c₁ hc₁ => ?_, fun h c₁ hc₁ l hl' ho => ?_⟩
  · rcases hmem l hl' with hl' | rfl
    · exact lt_of_lt_of_le (hl.owners l hl') hcount
    · exact hbuilt
  · rcases lookup_insert_some hc₁ with ⟨-, rfl⟩ | ⟨-, hc₁⟩
    · exact hbuilt
    · exact lt_of_lt_of_le (hl.built h c₁ hc₁) hcount
  · rcases lookup_insert_some h₁ with ⟨rfl, rfl⟩ | ⟨hh, h₁'⟩ <;>
      rcases lookup_insert_some h₂ with ⟨rfl, rfl⟩ | ⟨hh', h₂'⟩
    · rfl
    · exact absurd heq.symm (hothers h' c₂ hh' h₂')
    · exact absurd heq (hothers h c₁ hh h₁')
    · exact hl.serials h h' c₁ c₂ h₁' h₂' heq
  · rcases lookup_insert_some hc₁ with ⟨-, rfl⟩ | ⟨hh, hc₁⟩
    · exact hrun
    · have hne := hothers h c₁ hh hc₁
      rw [← hl.running h c₁ hc₁]
      exact exists_congr fun l => and_congr_left fun ho => hother l (ho ▸ hne)
  · rcases lookup_insert_some hc₁ with ⟨-, rfl⟩ | ⟨hh, hc₁⟩
    · rcases hmem l hl' with hl' | rfl
      · exact hcard l hl' ho
      · rfl
    · exact hl.card h c₁ hc₁ l ((hother l (ho ▸ hothers h c₁ hh hc₁)).mp hl') ho

/-- A call on the controller under `i` keeps the controllers live, whether or not the card
carries it out. -/
theorem Live.call (hl : Live gc w) {i : UInt32} {c : GpuController} (hi : gc.lookup i = some c)
    (hw : Hardware) (op : ControllerCall) :
    Live (gc.insert i (c.call hw op w).1.1) (c.call hw op w).2 := by
  have hothers : ∀ h c₀, h ≠ i → gc.lookup h = some c₀ → c₀.serial ≠ c.serial :=
    fun h c₀ hh hc₀ heq => hh (hl.serials h i c₀ c hc₀ hi heq)
  cases hgo : op.goesThrough hw c
  · rw [GpuController.call_refused hw op c w hgo]
    exact hl.insert le_rfl (hl.built i c hi) hothers (fun l h => .inl h) (fun _ _ => Iff.rfl)
      hl.single (hl.card i c hi) (hl.running i c hi)
  · rw [GpuController.call_done hw op c w hgo]
    exact hl.insert le_rfl (hl.built i c hi) hothers (fun l h => op.mem_loops c _ h)
      (fun l hne => op.mem_loops_of_ne c _ hne) (op.nodup_loops c _ hl.single) (hl.card i c hi)
      (op.running_loops c _ (hl.running i c hi))

end Live

/-! ### The walk of `load_gpu_controllers` -/

/-- What the walk of `load_gpu_controllers` started in the world `w` keeps between entries: the
config holds the controllers' identifiers and settings, the controllers are live, each was built
during the walk, and the threads that ran before still run. -/
structure Loaded (w : World) (gc : HashMap GpuController) (config : Config) (w' : World) :
    Prop where
  synced : Synced gc config
  live : Live gc w'
  fresh : ∀ h c, gc.lookup h = some c → w.serials ≤ c.serial
  count : w.serials ≤ w'.serials
  keeps : w.fanLoops <+: w'.fanLoops

section Loaded

variable {w : World}

theorem Threads.loaded_init (ht : Threads w) (config : Config) : Loaded w ∅ config w :=
  ⟨synced_empty config, ht.live_empty, by simp, le_rfl, List.prefix_refl _⟩

/-- Registering the controller of the last `GpuController::new` call, whose thread is started
when its settings enable fan control. -/
theorem Loaded.insert_new {gc : HashMap GpuController} {config : Config} {w₀ : World}
    (hs : Loaded w gc config w₀) {i : UInt32} {c : GpuController} {config' : Config}
    {w' : World} (hsync : Synced (gc.insert i c) config') (hserial : c.serial = w₀.serials)
    (hcount : w'.serials = w₀.serials + 1)
    (hloops : w'.fanLoops =
      if c.config.fanControlEnabled then startLoop c.serial c.hwPath w₀.fanLoops else w₀.fanLoops) :
    Loaded w (gc.insert i c) config' w' := by
  have hc := hs.count
  have hnone : ∀ l ∈ w₀.fanLoops, l.owner ≠ c.serial :=
    fun l hl heq => absurd (hs.live.owners l hl) (by omega)
  have hloops' : (∀ l ∈ w'.fanLoops, l ∈ w₀.fanLoops ∨ l = ⟨c.serial, c.hwPath⟩) ∧
      (∀ l : FanLoop, l.owner ≠ c.serial → (l ∈ w'.fanLoops ↔ l ∈ w₀.fanLoops)) ∧
      (w'.fanLoops.map (·.owner)).Nodup ∧
      ((∃ l ∈ w'.fanLoops, l.owner = c.serial) ↔ c.config.fanControlEnabled = true) ∧
      w₀.fanLoops <+: w'.fanLoops := by
    rw [hloops]
    cases c.config.fanControlEnabled
    · exact ⟨fun l h => .inl h, fun _ _ => Iff.rfl, hs.live.single,
        ⟨fun ⟨l, hl, ho⟩ => absurd ho (hnone l hl), nofun⟩, List.prefix_refl _⟩
    · exact ⟨fun l h => ControllerCall.startFanControl.mem_loops c _ h,
        fun l hne => ControllerCall.startFanControl.mem_loops_of_ne c _ hne,
        nodup_startLoop hs.live.single, ⟨fun _ => rfl, fun _ => exists_owner_startLoop _ _ _⟩,
        prefix_startLoop _ _ _⟩
  obtain ⟨hmem, hother, hsingle, hrun, hpre⟩ := hloops'
  refine ⟨hsync, hs.live.insert (by omega) (by omega) ?_ hmem hother hsingle
    (fun l hl ho => absurd ho (hnone l hl)) hrun, fun h c₁ hc₁ => ?_, by omega,
    hs.keeps.trans hpre⟩
  · exact fun h c₀ _ hc₀ => by have := hs.live.built h c₀ hc₀; omega
  · rcases lookup_insert_some hc₁ with ⟨-, rfl⟩ | ⟨-, hc₁⟩
    · omega
    · exact hs.fresh h c₁ hc₁

theorem loadEntry_loaded (env : Env) (pciDb : Option PciDatabase) {s : Loading}
    (hs : Loaded w s.gpuControllers s.config s.world) (e : DrmEntry) :
    Loaded w (loadEntry env pciDb s e).gpuControllers (loadEntry env pciDb s e).config
      (loadEntry env pciDb s e).world := by
  cases hcard : isCard e.fileName
  · rwa [loadEntry_not_card env pciDb s hcard]
  simp only [loadEntry, hcard, if_true]
  split
  · rename_i id g hfind
    exact hs.insert_new (hs.synced.insert (lookup_of_findConfig hfind)) rfl
      (GpuController.loadConfig_serials _ g _) (GpuController.loadConfig_fanLoops _ g _)
  · exact hs.insert_new (hs.synced.insert_both _ _) rfl rfl rfl

/-- `load_gpu_controllers` from a world whose threads each belong to an earlier controller:
the config it returns holds the controllers' identifiers and settings, the controllers are live,
each was built by the walk, and every thread that ran before still runs. -/
theorem loadGpuControllers_loaded (env : Env) (config : Config) (ht : Threads w) :
    Loaded w (loadGpuControllers env config w).1.1 (loadGpuControllers env config w).1.2
      (loadGpuControllers env config w).2 :=
  List.foldlRecOn (motive := fun s : Loading => Loaded w s.gpuControllers s.config s.world) env.drm _
    _ (ht.loaded_init config) fun _ hs e _ => loadEntry_loaded env _ hs e

end Loaded

/-! ### A running daemon -/

/-- What holds of a running daemon in the world `w`: its config holds its controllers'
identifiers and settings, its controllers are live, and its socket is bound. -/
structure Daemon.Holds (d : Daemon) (w : World) : Prop where
  synced : Synced d.gpuControllers d.config
  live : Live d.gpuControllers w
  socket : w.socket = true

section Arms

variable {env : Env} {d d' : Daemon} {w w' : World} {r : Response}

theorem Daemon.Holds.frame (hd : d.Holds w) (hloops : w'.fanLoops = w.fanLoops)
    (hserials : w'.serials = w.serials) (hsocket : w'.socket = w.socket) : d.Holds w' :=
  ⟨hd.synced, hd.live.of_eq hloops hserials, hsocket.trans hd.socket⟩

theorem Daemon.Holds.record (hd : d.Holds w) (e : Event) : d.Holds (w.record e) :=
  hd.frame rfl rfl rfl

/-- A call that starts and stops no thread keeps what holds of the daemon. -/
theorem Daemon.Holds.call (hd : d.Holds w) (hw : Hardware) {op : ControllerCall}
    (c : GpuController) (hop : op.loops c = id) : d.Holds (c.call hw op w).2 := by
  refine hd.frame ?_ (GpuController.call_serials hw op c w) (GpuController.call_socket hw op c w)
  unfold GpuController.call
  split <;> simp [hop]

/-- A mutating arm keeps what holds of the daemon, whether or not the card carries the call
out. -/
theorem mutate_holds {i : UInt32} {op : ControllerCall} {err : DaemonError} (hd : d.Holds w)
    (h : (mutate env d i op err).run w = .ok (d', r) w') : d'.Holds w' := by
  obtain ⟨-, rfl, -, rfl⟩ | ⟨c, hl, ⟨hgo, rfl, -, rfl⟩ | ⟨hgo, -, rfl, -, rfl⟩⟩ := mutate_ok h
  · exact hd
  · have hlive := hd.live.call hl env.hw op
    rw [GpuController.call_refused env.hw op c w hgo] at hlive
    exact ⟨hd.synced.insert (hd.synced i c hl), hlive, hd.socket⟩
  · have hlive := hd.live.call hl env.hw op
    rw [GpuController.call_done env.hw op c w hgo] at hlive
    exact ⟨hd.synced.insert_both i _, hlive.of_eq rfl rfl, hd.socket⟩

/-- A reading arm whose call starts and stops no thread keeps what holds of the daemon. -/
theorem query_holds {i : UInt32} {op : ControllerCall} (hd : d.Holds w)
    (h : (query env d i op).run w = .ok (d', r) w') (hop : ∀ c, op.loops c = id) :
    d'.Holds w' := by
  obtain ⟨rfl, ⟨-, -, rfl⟩ | ⟨c, -, rfl, -⟩⟩ := query_ok h
  · exact hd
  · exact hd.call env.hw c (hop c)

theorem getInfo_holds {i : UInt32} (hd : d.Holds w) (h : (getInfo d i).run w = .ok (d', r) w') :
    d'.Holds w' := by
  obtain ⟨rfl, rfl⟩ := getInfo_ok h
  exact hd

/-- What `SetConfig` keeps when it returns: the walk from the world's threads, then the save. -/
theorem setConfig_loaded {config : Config} (ht : Threads w)
    (h : (setConfig env config).run w = .ok (d', r) w') :
    Loaded w d'.gpuControllers d'.config w' ∧ w'.socket = w.socket := by
  rw [setConfig_run config (setConfig_walks h)] at h
  have hL := loadGpuControllers_loaded env config ht
  have hf := (loadGpuControllers_frame env config w).1
  rcases hl : loadGpuControllers env config w with ⟨⟨gc, config'⟩, w₁⟩
  rw [hl] at h hL hf
  cases hs : env.saveOk <;> simp only [hs, if_true, Bool.false_eq_true, if_false,
    EStateM.Result.ok.injEq, Prod.mk.injEq, reduceCtorEq] at h
  obtain ⟨⟨rfl, -⟩, rfl⟩ := h
  exact ⟨⟨hL.synced, hL.live.of_eq rfl rfl, hL.fresh, hL.count, hL.keeps⟩, hf.socket⟩

theorem dispatch_holds {a : Action} (hd : d.Holds w)
    (h : (dispatch env d a).run w = .ok (d', r) w') : d'.Holds w' := by
  have pure_holds : ∀ {x : Daemon × Response}, (pure x : Proc _).run w = .ok (d', r) w' →
      x.1 = d → d'.Holds w' := by
    intro x hx hd₁
    simp only [Proc.run_pure, EStateM.Result.ok.injEq] at hx
    obtain ⟨rfl, rfl⟩ := hx
    obtain rfl : d' = d := hd₁
    exact hd
  cases a with
  | checkAlive | getGpus | getConfig => exact pure_holds h rfl
  | getInfo i => exact getInfo_holds hd h
  | getStats i | getFanControl i | getPowerCap i => exact query_holds hd h fun _ => rfl
  | startFanControl i | stopFanControl i | setFanCurve i _ | setPowerCap i _
  | setPowerProfile i _ | setGPUMaxPowerState i _ _ | setVRAMMaxClock i _
  | commitGPUPowerStates i | resetGPUPowerStates i => exact mutate_holds hd h
  | shutdown => exact absurd h shutdown_not_ok
  | setConfig config =>
    obtain ⟨hL, hsocket⟩ := setConfig_loaded hd.live.toThreads h
    exact ⟨hL.synced, hL.live, hsocket.trans hd.socket⟩

theorem handleConnection_holds {req : Request} (hd : d.Holds w)
    (h : (handleConnection env d req).run w = .ok d' w') : d'.Holds w' := by
  cases req with
  | unreadable => simp [handleConnection] at h
  | undecodable =>
    simp only [handleConnection, Proc.run_bind, emit_run, Proc.run_pure,
      EStateM.Result.ok.injEq] at h
    obtain ⟨rfl, rfl⟩ := h
    exact hd.record _
  | action a =>
    obtain ⟨r, w₁, hx, rfl⟩ := handleConnection_action_ok h
    exact (dispatch_holds hd hx).record _

end Arms

/-- `Daemon::new` in a world with no fan-control thread leaves a daemon that holds. -/
theorem Daemon.new_holds {env : Env} {unprivileged : Bool} {w w' : World} {d : Daemon}
    (hloops : w.fanLoops = []) (h : (Daemon.new env unprivileged).run w = .ok d w') :
    d.Holds w' := by
  obtain ⟨w₁, hl, hsave, hkeep⟩ := Daemon.new_cases h
  have ht : Threads { w with socket := true } := ⟨by simp [hloops], by simp [hloops]⟩
  have hL := loadGpuControllers_loaded env (Daemon.readConfig unprivileged w) ht
  have hf := (loadGpuControllers_frame env (Daemon.readConfig unprivileged w)
    { w with socket := true }).1
  rw [hl] at hL hf
  have h₁ : d.Holds w₁ := ⟨hL.synced, hL.live, hf.socket⟩
  cases unprivileged
  · rw [hsave rfl]
    exact h₁.frame rfl rfl rfl
  · rw [hkeep rfl]
    exact h₁

theorem Reachable.holds {unprivileged : Bool} {reqs : List Request} {d : Daemon} {w : World}
    (hr : Reachable unprivileged reqs d w) : d.Holds w := by
  induction hr with
  | new hloops h => exact Daemon.new_holds hloops h
  | handle _ h ih => exact handleConnection_holds ih h

/-! ### What the invariant tells -/

/-- In every state of a daemon, whatever the clients send, the cards answer and `random()`
returns, the config holds under each controller's handle the controller's identifier and its
current settings, and a privileged daemon has saved them in the file of the config's path. -/
theorem config_holds_controller_settings {unprivileged : Bool} {reqs : List Request} {d : Daemon}
    {w : World} (hr : Reachable unprivileged reqs d w) {h : UInt32} {c : GpuController}
    (hc : d.gpuControllers.lookup h = some c) :
    d.config.gpuConfigs.lookup h = some (c.identifier, c.config) ∧
      (unprivileged = false → ∃ saved, w.files d.config.configPath = some saved ∧
        saved.gpuConfigs.lookup h = some (c.identifier, c.config)) := by
  have hs := hr.holds.synced h c hc
  exact ⟨hs, fun hu => ⟨d.config, (reachable_persisted (hu ▸ hr)).2, hs⟩⟩

theorem config_holds_controller_settings_sample :
    Reachable false [] sampleDaemon sampleBooted ∧
      sampleDaemon.gpuControllers.lookup 7 = some sampleController ∧
      (sampleDaemon.config.gpuConfigs.lookup 7 =
          some (sampleController.identifier, sampleController.config) ∧
        (false = false → ∃ saved, sampleBooted.files sampleDaemon.config.configPath = some saved ∧
          saved.gpuConfigs.lookup 7 = some (sampleController.identifier, sampleController.config))) :=
  ⟨sample_reachable, rfl, config_holds_controller_settings sample_reachable rfl⟩

/-- In every state of a daemon, the fan-control thread of a controller runs exactly when the
config entry under its handle, the one `Shutdown` reads, enables fan control; the thread writes
the controller's card; no controller runs two threads; and no other handle holds a controller of
the same `GpuController::new` call. -/
theorem fan_thread_runs_iff_enabled {unprivileged : Bool} {reqs : List Request} {d : Daemon}
    {w : World} (hr : Reachable unprivileged reqs d w) {h : UInt32} {c : GpuController}
    (hc : d.gpuControllers.lookup h = some c) :
    ((∃ l ∈ w.fanLoops, l.owner = c.serial) ↔
      ∃ g, d.config.gpuConfigs.lookup h = some (c.identifier, g) ∧ g.fanControlEnabled = true) ∧
    (∀ l ∈ w.fanLoops, l.owner = c.serial → l.hwPath = c.hwPath) ∧
    (w.fanLoops.map (·.owner)).Nodup ∧
    ∀ h' c', d.gpuControllers.lookup h' = some c' → c'.serial = c.serial → h' = h := by
  have hd := hr.holds
  have hs := hd.synced h c hc
  refine ⟨(hd.live.running h c hc).trans ⟨fun he => ⟨c.config, hs, he⟩, ?_⟩, hd.live.card h c hc,
    hd.live.single, fun h' c' hc' heq => hd.live.serials h' h c' c hc' hc heq⟩
  rintro ⟨g, hg, he⟩
  rw [hs, Option.some_inj, Prod.mk.injEq] at hg
  exact hg.2 ▸ he

theorem fan_thread_runs_iff_enabled_sample :
    Reachable false [] sampleDaemon sampleBooted ∧
      sampleDaemon.gpuControllers.lookup 7 = some sampleController ∧
      (((∃ l ∈ sampleBooted.fanLoops, l.owner = sampleController.serial) ↔
        ∃ g, sampleDaemon.config.gpuConfigs.lookup 7 = some (sampleController.identifier, g) ∧
          g.fanControlEnabled = true) ∧
      (∀ l ∈ sampleBooted.fanLoops, l.owner = sampleController.serial →
        l.hwPath = sampleController.hwPath) ∧
      (sampleBooted.fanLoops.map (·.owner)).Nodup ∧
      ∀ h' c', sampleDaemon.gpuControllers.lookup h' = some c' →
        c'.serial = sampleController.serial → h' = 7) :=
  ⟨sample_reachable, rfl, fan_thread_runs_iff_enabled sample_reachable rfl⟩

/-- From every state of a daemon, `SetConfig` stops no fan-control thread, and no controller it
builds owns one that ran before: every thread keeps running, and the thread of each dropped
controller whose settings enable fan control is left running with no controller. -/
theorem setConfig_orphans_fan_threads {unprivileged : Bool} {reqs : List Request}
    {d d' : Daemon} {w w' : World} (hr : Reachable unprivileged reqs d w) {env : Env}
    {config : Config} (h : (handleConnection env d (.action (.setConfig config))).run w = .ok d' w') :
    w.fanLoops <+: w'.fanLoops ∧
    ∀ i c, d.gpuControllers.lookup i = some c → c.config.fanControlEnabled = true →
      ∃ l ∈ w'.fanLoops, l.owner = c.serial ∧
        ∀ i' c', d'.gpuControllers.lookup i' = some c' → c'.serial ≠ c.serial := by
  have hd := hr.holds
  obtain ⟨r, w₁, hx, rfl⟩ := handleConnection_action_ok h
  obtain ⟨hL, -⟩ := setConfig_loaded hd.live.toThreads hx
  refine ⟨hL.keeps, fun i c hc he => ?_⟩
  obtain ⟨l, hl, ho⟩ := (hd.live.running i c hc).mpr he
  refine ⟨l, hL.keeps.subset hl, ho, fun i' c' hc' heq => ?_⟩
  have := hd.live.built i c hc
  have := hL.fresh i' c' hc'
  omega

theorem setConfig_orphans_fan_threads_sample :
    ∃ d₁ w₁ d' w', Reachable false [.action (.startFanControl 7)] d₁ w₁ ∧
      (handleConnection sampleEnv d₁ (.action (.setConfig d₁.config))).run w₁ = .ok d' w' ∧
      (w₁.fanLoops <+: w'.fanLoops ∧
        ∀ i c, d₁.gpuControllers.lookup i = some c → c.config.fanControlEnabled = true →
          ∃ l ∈ w'.fanLoops, l.owner = c.serial ∧
            ∀ i' c', d'.gpuControllers.lookup i' = some c' → c'.serial ≠ c.serial) :=
  have hr := @Reachable.handle false [] sampleDaemon _ sampleBooted _ sampleEnv
    (.action (.startFanControl 7)) sample_reachable rfl
  have hrun : (handleConnection sampleEnv _ (.action (.setConfig _))).run _ = .ok _ _ := rfl
  ⟨_, _, _, _, hr, hrun, setConfig_orphans_fan_threads hr hrun⟩

/-- In every state of a daemon, `GetFanControl` on a handle with a controller whose card answers
reports fan control enabled exactly when the controller's fan-control thread runs, with the
curve of the config entry under the handle, and leaves the daemon as it was. -/
theorem getFanControl_reports_thread {unprivileged : Bool} {reqs : List Request} {d : Daemon}
    {w : World} (hr : Reachable unprivileged reqs d w) {env : Env} {i : UInt32}
    {c : GpuController} (hc : d.gpuControllers.lookup i = some c)
    (hgo : ControllerCall.getFanControl.goesThrough env.hw c = true) :
    ∃ info w', (dispatch env d (.getFanControl i)).run w = .ok (d, .ok (.fanControlInfo info)) w' ∧
      (info.enabled = true ↔ ∃ l ∈ w.fanLoops, l.owner = c.serial) ∧
      ∃ g, d.config.gpuConfigs.lookup i = some (c.identifier, g) ∧ info.curve = g.fanCurve := by
  have hd := hr.holds
  have hrun : (dispatch env d (.getFanControl i)).run w =
      .ok (d, .ok (.fanControlInfo ⟨c.config.fanControlEnabled, c.config.fanCurve⟩))
        (w.record (.call c.serial .getFanControl)) := by
    show (query env d i .getFanControl).run w = _
    rw [query_run hc, GpuController.call_done env.hw _ c w hgo]
    rfl
  exact ⟨_, _, hrun, (hd.live.running i c hc).symm, c.config, hd.synced i c hc, rfl⟩

theorem getFanControl_reports_thread_sample :
    Reachable false [] sampleDaemon sampleBooted ∧
      sampleDaemon.gpuControllers.lookup 7 = some sampleController ∧
      ControllerCall.getFanControl.goesThrough sampleEnv.hw sampleController = true ∧
      ∃ info w', (dispatch sampleEnv sampleDaemon (.getFanControl 7)).run sampleBooted =
          .ok (sampleDaemon, .ok (.fanControlInfo info)) w' ∧
        (info.enabled = true ↔ ∃ l ∈ sampleBooted.fanLoops, l.owner = sampleController.serial) ∧
        ∃ g, sampleDaemon.config.gpuConfigs.lookup 7 = some (sampleController.identifier, g) ∧
          info.curve = g.fanCurve :=
  ⟨sample_reachable, rfl, rfl, getFanControl_reports_thread sample_reachable rfl rfl⟩

/-! ### Over the rest of a run -/

/-- The daemon carries on from one state to the next through one connection. -/
def Serves (s s' : Daemon × World) : Prop :=
  ∃ env req, (handleConnection env s.1 req).run s.2 = .ok s'.1 s'.2

/-- What holds of a running daemon holds in every state it carries on to. -/
theorem serves_holds {s s' : Daemon × World} (hrun : Relation.ReflTransGen Serves s s')
    (hd : s.1.Holds s.2) : s'.1.Holds s'.2 := by
  induction hrun with
  | refl => exact hd
  | tail _ step ih =>
    obtain ⟨env, req, h⟩ := step
    exact handleConnection_holds ih h

end Lact
