import Lact.Live

/-! Where fan-control threads come from, and the ones no controller owns.  A connection starts a
thread only through `StartFanControl`, for the controller under its handle, or through
`SetConfig`.  `SetConfig` replaces every controller and stops
no thread, so the thread of a dropped controller whose settings enabled fan control keeps running
with no controller (`setConfig_orphans_fan_threads`).  Here that leak is followed over the rest of
the daemon's life: a stray thread is kept by every connection, since a call stops only its own
controller's thread and every controller built later comes from a later `GpuController::new`
call, so no request the daemon handles afterwards can stop it. -/

namespace Lact

/-- The threads after a connection other than `SetConfig`: those before, or those after a call
that a mutating request on a handle with a controller made on it. -/
theorem handleConnection_fanLoops {env : Env} {d d' : Daemon} {w w' : World} {req : Request}
    (h : (handleConnection env d req).run w = .ok d' w')
    (hs : ∀ config, req ≠ .action (.setConfig config)) :
    w'.fanLoops = w.fanLoops ∨ ∃ a i op err c, req = .action a ∧ a.mutation? = some (i, op, err) ∧
      d.gpuControllers.lookup i = some c ∧ w'.fanLoops = op.loops c w.fanLoops := by
  cases req with
  | unreadable => simp [handleConnection] at h
  | undecodable =>
    simp only [handleConnection, Proc.run_bind, emit_run, Proc.run_pure,
      EStateM.Result.ok.injEq] at h
    obtain ⟨rfl, rfl⟩ := h
    exact .inl rfl
  | action a =>
    obtain ⟨r, w₁, hx, rfl⟩ := handleConnection_action_ok h
    rcases hm : a.mutation? with _ | ⟨i, op, err⟩
    · refine .inl ?_
      cases a <;> simp only [Action.mutation?, reduceCtorEq] at hm
      case checkAlive | getGpus | getConfig =>
        cases hx
        rfl
      case getInfo i =>
        obtain ⟨rfl, rfl⟩ := getInfo_ok hx
        rfl
      case getStats i | getFanControl i | getPowerCap i =>
        obtain ⟨rfl, ⟨-, -, rfl⟩ | ⟨c, -, rfl, -⟩⟩ := query_ok hx
        · rfl
        · exact (congrArg World.fanLoops
            (GpuController.call_of_loops_id env.hw _ c w (by rfl))).trans rfl
      case shutdown => exact absurd hx shutdown_not_ok
      case setConfig config => exact absurd rfl (hs config)
    rw [dispatch_of_mutation hm] at hx
    obtain ⟨-, rfl, -, rfl⟩ | ⟨c, hc, ⟨-, rfl, -, rfl⟩ | ⟨-, -, rfl, -, rfl⟩⟩ := mutate_ok hx
    · exact .inl rfl
    · exact .inl rfl
    · exact .inr ⟨a, i, op, err, c, rfl, hm, hc, rfl⟩

/-- Every connection after which the daemon carries on, from any state of it, starts a fan-control
thread only when it is `SetConfig`, or `StartFanControl` on a handle with a controller, and then
only that controller's thread, on that controller's card: no other request takes fan control
over. -/
theorem only_startFanControl_starts_threads {env : Env} {d d' : Daemon} {w w' : World}
    {req : Request} (h : (handleConnection env d req).run w = .ok d' w') {l : FanLoop}
    (hl : l ∈ w'.fanLoops) (hnew : l ∉ w.fanLoops) :
    (∃ config, req = .action (.setConfig config)) ∨
      ∃ i c, req = .action (.startFanControl i) ∧ d.gpuControllers.lookup i = some c ∧
        l = ⟨c.serial, c.hwPath⟩ := by
  by_cases hs : ∃ config, req = .action (.setConfig config)
  · exact .inl hs
  push_neg at hs
  rcases handleConnection_fanLoops h hs with heq | ⟨a, i, op, err, c, rfl, hm, hc, heq⟩
  · exact absurd (heq ▸ hl) hnew
  rw [heq] at hl
  by_cases hop : op = .startFanControl
  · subst hop
    have ha : a = .startFanControl i := by
      cases a <;> simp only [Action.mutation?, reduceCtorEq, Option.some.injEq, Prod.mk.injEq,
        false_and, and_false] at hm
      exact congrArg _ hm.1
    exact .inr ⟨i, c, ha ▸ rfl, hc, (ControllerCall.mem_loops _ c _ hl).resolve_left hnew⟩
  · exact absurd (ControllerCall.mem_loops_of_ne_start op c _ hop hl) hnew

theorem only_startFanControl_starts_threads_sample :
    ∃ d' w', (handleConnection sampleEnv sampleDaemon (.action (.startFanControl 7))).run
        sampleBooted = .ok d' w' ∧
      ⟨0, sampleController.hwPath⟩ ∈ w'.fanLoops ∧ ⟨0, sampleController.hwPath⟩ ∉ sampleBooted.fanLoops ∧
      ((∃ config, Request.action (.startFanControl 7) = .action (.setConfig config)) ∨
        ∃ i c, Request.action (.startFanControl 7) = .action (.startFanControl i) ∧
          sampleDaemon.gpuControllers.lookup i = some c ∧
          (⟨0, sampleController.hwPath⟩ : FanLoop) = ⟨c.serial, c.hwPath⟩) :=
  have hrun : (handleConnection sampleEnv sampleDaemon (.action (.startFanControl 7))).run
      sampleBooted = .ok _ _ := rfl
  ⟨_, _, hrun, by decide, by decide, only_startFanControl_starts_threads hrun (by decide) (by decide)⟩

/-- A fan-control thread that runs in `w`, started by a controller built before the world's count
of `GpuController::new` calls, and owned by none of the controllers `gc`. -/
structure Stray (gc : HashMap GpuController) (w : World) (l : FanLoop) : Prop where
  runs : l ∈ w.fanLoops
  built : l.owner < w.serials
  unowned : ∀ h c, gc.lookup h = some c → c.serial ≠ l.owner

section Stray

variable {gc : HashMap GpuController} {w : World} {l : FanLoop}

/-- Only the threads and the count of `GpuController::new` calls matter. -/
theorem Stray.of_eq (hs : Stray gc w l) {w' : World} (hloops : w'.fanLoops = w.fanLoops)
    (hserials : w'.serials = w.serials) : Stray gc w' l :=
  ⟨hloops ▸ hs.runs, hserials ▸ hs.built, hs.unowned⟩

theorem Stray.insert (hs : Stray gc w l) {i : UInt32} {c : GpuController}
    (hc : c.serial ≠ l.owner) : Stray (gc.insert i c) w l := by
  refine ⟨hs.runs, hs.built, fun h c₁ hc₁ => ?_⟩
  rcases lookup_insert_some hc₁ with ⟨-, rfl⟩ | ⟨-, hc₁⟩
  · exact hc
  · exact hs.unowned h c₁ hc₁

/-- A call on a controller starts or stops only that controller's thread. -/
theorem Stray.call (hs : Stray gc w l) {i : UInt32} {c : GpuController} (hi : gc.lookup i = some c)
    (hw : Hardware) (op : ControllerCall) : Stray gc (c.call hw op w).2 l :=
  ⟨(GpuController.mem_call_fanLoops hw op c w (hs.unowned i c hi).symm).mpr hs.runs,
    (GpuController.call_serials hw op c w).symm ▸ hs.built, hs.unowned⟩

/-- A thread that ran before the walk of `load_gpu_controllers` runs after it, and belongs to none
of the controllers the walk built. -/
theorem Loaded.stray {gc' : HashMap GpuController} {config : Config} {w' : World}
    (hL : Loaded w gc' config w') (ht : Threads w) (hl : l ∈ w.fanLoops) : Stray gc' w' l := by
  have hb := ht.owners l hl
  refine ⟨hL.keeps.subset hl, lt_of_lt_of_le hb hL.count, fun h c hc heq => ?_⟩
  have := hL.fresh h c hc
  omega

end Stray

/-! ### Each arm keeps a stray thread -/

section Arms

variable {env : Env} {d d' : Daemon} {w w' : World} {r : Response} {l : FanLoop}

theorem mutate_stray {i : UInt32} {op : ControllerCall} {err : DaemonError}
    (hs : Stray d.gpuControllers w l) (h : (mutate env d i op err).run w = .ok (d', r) w') :
    Stray d'.gpuControllers w' l := by
  obtain ⟨-, rfl, -, rfl⟩ | ⟨c, hl, ⟨-, rfl, -, rfl⟩ | ⟨hgo, -, rfl, -, rfl⟩⟩ := mutate_ok h
  · exact hs
  · exact (hs.insert (hs.unowned i c hl)).of_eq rfl rfl
  · have hcall := hs.call hl env.hw op
    rw [GpuController.call_done env.hw op c w hgo] at hcall
    exact (hcall.insert (c := { c with config := op.settings c.config }) (hs.unowned i c hl)).of_eq
      rfl rfl

theorem query_stray {i : UInt32} {op : ControllerCall} (hs : Stray d.gpuControllers w l)
    (h : (query env d i op).run w = .ok (d', r) w') : Stray d'.gpuControllers w' l := by
  obtain ⟨rfl, ⟨-, -, rfl⟩ | ⟨c, hl, rfl, -⟩⟩ := query_ok h
  · exact hs
  · exact hs.call hl env.hw op

/-- Every action that returns keeps a stray thread stray, from a world whose threads each belong
to an earlier controller. -/
theorem dispatch_stray {a : Action} (ht : Threads w) (hs : Stray d.gpuControllers w l)
    (h : (dispatch env d a).run w = .ok (d', r) w') : Stray d'.gpuControllers w' l := by
  cases a with
  | checkAlive | getGpus | getConfig =>
    cases h
    exact hs
  | getInfo i =>
    obtain ⟨rfl, rfl⟩ := getInfo_ok h
    exact hs
  | getStats i | getFanControl i | getPowerCap i => exact query_stray hs h
  | startFanControl i | stopFanControl i | setFanCurve i _ | setPowerCap i _
  | setPowerProfile i _ | setGPUMaxPowerState i _ _ | setVRAMMaxClock i _
  | commitGPUPowerStates i | resetGPUPowerStates i => exact mutate_stray hs h
  | shutdown => exact absurd h shutdown_not_ok
  | setConfig config => exact (setConfig_loaded ht h).1.stray ht hs.runs

theorem handleConnection_stray {req : Request} (ht : Threads w) (hs : Stray d.gpuControllers w l)
    (h : (handleConnection env d req).run w = .ok d' w') : Stray d'.gpuControllers w' l := by
  cases req with
  | unreadable => simp [handleConnection] at h
  | undecodable =>
    simp only [handleConnection, Proc.run_bind, emit_run, Proc.run_pure,
      EStateM.Result.ok.injEq] at h
    obtain ⟨rfl, rfl⟩ := h
    exact hs.of_eq rfl rfl
  | action a =>
    obtain ⟨r, w₁, hx, rfl⟩ := handleConnection_action_ok h
    exact (dispatch_stray ht hs hx).of_eq rfl rfl

end Arms

/-! ### Over the rest of a run -/

/-- A stray thread stays stray in every state the daemon carries on to. -/
theorem serves_stray {s s' : Daemon × World} (hrun : Relation.ReflTransGen Serves s s')
    (hd : s.1.Holds s.2) {l : FanLoop} (hs : Stray s.1.gpuControllers s.2 l) :
    Stray s'.1.gpuControllers s'.2 l := by
  induction hrun with
  | refl => exact hs
  | tail hrun step ih =>
    obtain ⟨env, req, h⟩ := step
    exact handleConnection_stray (serves_holds hrun hd).live.toThreads ih h

/-- The sample controller once fan control is on for its card: the controller under `7` after
`StartFanControl 7`. -/
def fanController : GpuController :=
  { sampleController with config := { sampleController.config with fanControlEnabled := true } }

section Orphans

variable {unprivileged : Bool} {reqs : List Request} {d : Daemon} {w : World} {env : Env}
  {config : Config} {d₁ : Daemon} {w₁ : World} {i : UInt32} {c : GpuController}
  {s : Daemon × World}

/-- The thread of a controller that `SetConfig` drops while its settings enable fan control is a
stray thread on that controller's card in every state the daemon reaches afterwards, where what
holds of a running daemon holds. -/
theorem setConfig_stray (hr : Reachable unprivileged reqs d w)
    (h : (handleConnection env d (.action (.setConfig config))).run w = .ok d₁ w₁)
    (hc : d.gpuControllers.lookup i = some c) (hen : c.config.fanControlEnabled = true)
    (hlater : Relation.ReflTransGen Serves (d₁, w₁) s) :
    s.1.Holds s.2 ∧
      ∃ l, Stray s.1.gpuControllers s.2 l ∧ l.owner = c.serial ∧ l.hwPath = c.hwPath := by
  have hd := hr.holds
  have hd₁ := handleConnection_holds hd h
  obtain ⟨l, hl, ho⟩ := (hd.live.running i c hc).mpr hen
  obtain ⟨r, w₂, hx, rfl⟩ := handleConnection_action_ok h
  have hs₁ : Stray d₁.gpuControllers w₂ l :=
    (setConfig_loaded hd.live.toThreads hx).1.stray hd.live.toThreads hl
  exact ⟨serves_holds hlater hd₁, l, serves_stray hlater hd₁ (hs₁.of_eq rfl rfl), ho,
    hd.live.card i c hc l hl ho⟩

/-- From every state of a daemon, the fan-control thread of a controller that `SetConfig` drops
while its settings enable fan control runs, writing that controller's card, in every state the
daemon reaches afterwards, and no controller of those states owns it: no request can stop it. -/
theorem orphaned_fan_thread_never_stops (hr : Reachable unprivileged reqs d w)
    (h : (handleConnection env d (.action (.setConfig config))).run w = .ok d₁ w₁)
    (hc : d.gpuControllers.lookup i = some c) (hen : c.config.fanControlEnabled = true)
    (hlater : Relation.ReflTransGen Serves (d₁, w₁) s) :
    ∃ l ∈ s.2.fanLoops, l.owner = c.serial ∧ l.hwPath = c.hwPath ∧
      ∀ i' c', s.1.gpuControllers.lookup i' = some c' → c'.serial ≠ c.serial := by
  obtain ⟨-, l, hs, ho, hp⟩ := setConfig_stray hr h hc hen hlater
  exact ⟨l, hs.runs, ho, hp, fun i' c' hc' => ho ▸ hs.unowned i' c' hc'⟩

theorem orphaned_fan_thread_never_stops_sample :
    ∃ d w d₁ w₁ d₂ w₂, Reachable false [.action (.startFanControl 7)] d w ∧
      (handleConnection sampleEnv d (.action (.setConfig d.config))).run w = .ok d₁ w₁ ∧
      d.gpuControllers.lookup 7 = some fanController ∧
      Relation.ReflTransGen Serves (d₁, w₁) (d₂, w₂) ∧
      ∃ l ∈ w₂.fanLoops, l.owner = fanController.serial ∧ l.hwPath = fanController.hwPath ∧
        ∀ i' c', d₂.gpuControllers.lookup i' = some c' → c'.serial ≠ fanController.serial :=
  have hr := @Reachable.handle false [] sampleDaemon _ sampleBooted _ sampleEnv
    (.action (.startFanControl 7)) sample_reachable rfl
  have hrun : (handleConnection sampleEnv _ (.action (.setConfig _))).run _ = .ok _ _ := rfl
  ⟨_, _, _, _, _, _, hr, hrun, rfl, by exact .single ⟨sampleEnv, .action (.stopFanControl 7), rfl⟩,
    orphaned_fan_thread_never_stops hr hrun (i := 7) (c := fanController) (s := (_, _)) rfl rfl
      (by exact .single ⟨sampleEnv, .action (.stopFanControl 7), rfl⟩)⟩

/-- From every state of a daemon, once `SetConfig` has dropped a controller whose settings enable
fan control, every later state with a controller for the same card whose settings enable fan
control has two fan-control threads of two controllers writing that card at once: the dropped
controller's and the new one's. -/
theorem orphan_and_new_thread_share_card (hr : Reachable unprivileged reqs d w)
    (h : (handleConnection env d (.action (.setConfig config))).run w = .ok d₁ w₁)
    (hc : d.gpuControllers.lookup i = some c) (hen : c.config.fanControlEnabled = true)
    (hlater : Relation.ReflTransGen Serves (d₁, w₁) s) (i' : UInt32) {c' : GpuController}
    (hc' : s.1.gpuControllers.lookup i' = some c') (hen' : c'.config.fanControlEnabled = true)
    (hpath : c'.hwPath = c.hwPath) :
    ∃ l₁ ∈ s.2.fanLoops, ∃ l₂ ∈ s.2.fanLoops, l₁.owner = c.serial ∧ l₂.owner = c'.serial ∧
      l₁.owner ≠ l₂.owner ∧ l₁.hwPath = c.hwPath ∧ l₂.hwPath = c.hwPath := by
  obtain ⟨hd, l, hs, ho, hp⟩ := setConfig_stray hr h hc hen hlater
  obtain ⟨l₂, hl₂, ho₂⟩ := (hd.live.running i' c' hc').mpr hen'
  exact ⟨l, hs.runs, l₂, hl₂, ho, ho₂, ho₂ ▸ (hs.unowned i' c' hc').symm, hp,
    (hd.live.card i' c' hc' l₂ hl₂ ho₂).trans hpath⟩

theorem orphan_and_new_thread_share_card_sample :
    ∃ d w d₁ w₁, Reachable false [.action (.startFanControl 7)] d w ∧
      (handleConnection sampleEnv d (.action (.setConfig d.config))).run w = .ok d₁ w₁ ∧
      d.gpuControllers.lookup 7 = some fanController ∧
      ∃ c', d₁.gpuControllers.lookup 7 = some c' ∧ c'.config.fanControlEnabled = true ∧
        c'.hwPath = fanController.hwPath ∧
        ∃ l₁ ∈ w₁.fanLoops, ∃ l₂ ∈ w₁.fanLoops, l₁.owner = fanController.serial ∧
          l₂.owner = c'.serial ∧ l₁.owner ≠ l₂.owner ∧ l₁.hwPath = fanController.hwPath ∧
          l₂.hwPath = fanController.hwPath :=
  have hr := @Reachable.handle false [] sampleDaemon _ sampleBooted _ sampleEnv
    (.action (.startFanControl 7)) sample_reachable rfl
  have hrun : (handleConnection sampleEnv _ (.action (.setConfig _))).run _ = .ok _ _ := rfl
  ⟨_, _, _, _, hr, hrun, rfl, _, rfl, rfl, rfl,
    orphan_and_new_thread_share_card hr hrun (i := 7) (c := fanController) (s := (_, _)) rfl rfl
      .refl 7 rfl rfl rfl⟩

end Orphans

end Lact
