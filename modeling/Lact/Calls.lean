import Lact.Dispatch

/-! Which cards a connection drives.  A controller method runs on the card of its controller, and
the log records each method with the controller it ran on: the calls of the arms, and the
`GpuController::new` and `load_config` of the walk over `/sys/class/drm`.  However the connection
ends, a request that names a handle runs methods only on the controller under that handle,
`Shutdown` only on the daemon's controllers, `SetConfig` only on the controllers it builds itself,
and every other request on none. -/

namespace Lact

/-- `w'` is `w` with events appended, and each controller method among them ran on a controller
whose serial satisfies `S`. -/
def CallsOn (S : Nat → Prop) (w w' : World) : Prop :=
  ∃ es, w'.log = w.log ++ es ∧ ∀ e ∈ es, ∀ s, e.controller? = some s → S s

section CallsOn

variable {S S' : Nat → Prop} {w₁ w₂ w₃ : World}

theorem CallsOn.refl (S : Nat → Prop) (w : World) : CallsOn S w w :=
  ⟨[], (List.append_nil _).symm, by simp⟩

theorem CallsOn.trans (h₁ : CallsOn S w₁ w₂) (h₂ : CallsOn S w₂ w₃) : CallsOn S w₁ w₃ := by
  obtain ⟨es₁, hl₁, hs₁⟩ := h₁
  obtain ⟨es₂, hl₂, hs₂⟩ := h₂
  refine ⟨es₁ ++ es₂, by rw [hl₂, hl₁, List.append_assoc], fun e he => ?_⟩
  rcases List.mem_append.mp he with he | he
  · exact hs₁ e he
  · exact hs₂ e he

theorem CallsOn.mono (h : CallsOn S w₁ w₂) (hS : ∀ s, S s → S' s) : CallsOn S' w₁ w₂ :=
  let ⟨es, hl, hs⟩ := h
  ⟨es, hl, fun e he s hc => hS s (hs e he s hc)⟩

/-- One event appended, a method only on a controller that `S` allows. -/
theorem CallsOn.append {e : Event} (hl : w₂.log = w₁.log ++ [e])
    (he : ∀ s, e.controller? = some s → S s) : CallsOn S w₁ w₂ :=
  ⟨[e], hl, fun _ he' => List.mem_singleton.mp he' ▸ he⟩

/-- Building controllers runs methods only on the controllers built. -/
theorem World.Frame.callsOn (h : World.Frame w₁ w₂) : CallsOn (w₁.serials ≤ ·) w₁ w₂ :=
  let ⟨es, hl, hb⟩ := h.log
  ⟨es, hl, fun e he _ hs => (hb e he).controller? hs⟩

end CallsOn

/-- A computation that, however it ends, only appends to the log, and runs controller methods
only on controllers whose serial satisfies `S`. -/
def Drives {α : Type} (S : Nat → Prop) (p : Proc α) : Prop :=
  ∀ w, CallsOn S w (worldOf (p.run w))

section Drives

variable {α β : Type} {S S' : Nat → Prop}

theorem drives_pure (a : α) : Drives S (pure a : Proc α) := fun w => .refl S w

theorem drives_throw (e : Stop) : Drives S (throw e : Proc α) := fun w => .refl S w

/-- A computation that, from `w`, runs methods only where `S` allows, then one that does so from
every world. -/
theorem CallsOn.bind {p : Proc α} {f : α → Proc β} {w : World}
    (hp : CallsOn S w (worldOf (p.run w))) (hf : ∀ a, Drives S (f a)) :
    CallsOn S w (worldOf ((p >>= f).run w)) := by
  rw [Proc.run_bind]
  cases h : p.run w with
  | ok a w₁ =>
    rw [h] at hp
    exact hp.trans (hf a w₁)
  | error e w₁ =>
    rw [h] at hp
    exact hp

theorem Drives.bind {p : Proc α} {f : α → Proc β} (hp : Drives S p) (hf : ∀ a, Drives S (f a)) :
    Drives S (p >>= f) :=
  fun w => CallsOn.bind (hp w) hf

theorem Drives.mono {p : Proc α} (hp : Drives S p) (hS : ∀ s, S s → S' s) : Drives S' p :=
  fun w => (hp w).mono hS

/-- A call on `c`, then a computation given the controller the call returns, which carries `c`'s
serial. -/
theorem drives_call_bind {hw : Hardware} {op : ControllerCall} {c : GpuController}
    {f : GpuController × Option Reply → Proc β} (hS : S c.serial)
    (hf : ∀ r : GpuController × Option Reply, r.1.serial = c.serial → Drives S (f r)) :
    Drives S (modifyGet (c.call hw op) >>= f) := fun w => by
  rw [Proc.run_bind, Proc.run_modifyGet]
  refine (CallsOn.append (GpuController.call_log hw op c w) ?_).trans
    (hf _ (GpuController.call_serial hw op c w) _)
  rintro s ⟨⟩
  exact hS

theorem drives_save (ok : Bool) (message : String) (config : Config) :
    Drives S (save ok message config) := fun w => by
  rw [save_run]
  split
  · exact CallsOn.append rfl nofun
  · exact .refl S w

theorem drives_emit {e : Event} (he : ∀ s, e.controller? = some s → S s) : Drives S (emit e) :=
  fun _ => CallsOn.append rfl he

theorem drives_removeSocket : Drives S removeSocket := fun w => by
  rw [removeSocket_run]
  split
  · exact CallsOn.append rfl nofun
  · exact .refl S w

theorem drives_respond (delivered : Bool) (response : Response) :
    Drives S (respond delivered response) := fun w => by
  rw [respond_run]
  split <;> exact CallsOn.append rfl nofun

end Drives

/-! ### The arms -/

section Arms

variable (env : Env) (d : Daemon)

theorem mutate_drives (i : UInt32) (op : ControllerCall) (err : DaemonError) :
    Drives (fun s => ∃ c, d.gpuControllers.lookup i = some c ∧ s = c.serial)
      (mutate env d i op err) := by
  unfold mutate
  split
  · exact drives_pure _
  · rename_i c hc
    refine drives_call_bind ⟨c, hc, rfl⟩ fun (_, r) _ => ?_
    cases r
    · exact drives_pure _
    · exact (drives_save _ _ _).bind fun _ => drives_pure _

theorem query_drives (i : UInt32) (op : ControllerCall) :
    Drives (fun s => ∃ c, d.gpuControllers.lookup i = some c ∧ s = c.serial)
      (query env d i op) := by
  unfold query
  split
  · exact drives_pure _
  · rename_i c hc
    refine drives_call_bind ⟨c, hc, rfl⟩ fun (_, r) _ => ?_
    cases r <;> exact drives_pure _

/-- The turn of one controller in the `Shutdown` loop calls only that controller. -/
theorem shutdownController_drives (config : Config) (id : UInt32) (c : GpuController) :
    Drives (· = c.serial) (shutdownController env config id c) := by
  unfold shutdownController
  refine drives_call_bind rfl fun (c₁, _) h₁ => drives_call_bind h₁ fun (c₂, _) h₂ =>
    drives_call_bind (h₂.trans h₁) fun (c₃, _) h₃ => ?_
  dsimp only
  split
  · exact (drives_throw _).bind fun _ => drives_removeSocket
  · split
    · exact drives_call_bind (S := (· = c.serial)) (h₃.trans (h₂.trans h₁)) fun _ _ =>
        (drives_pure _).bind fun _ => drives_removeSocket
    · exact (drives_pure _).bind fun _ => drives_removeSocket

theorem shutdownLoop_drives (config : Config) (l : List ((_ : UInt32) × GpuController)) :
    Drives (fun s => ∃ e ∈ l, s = e.2.serial) (shutdownLoop env config l) := by
  induction l with
  | nil => exact drives_pure _
  | cons e rest ih =>
    refine ((shutdownController_drives env config e.1 e.2).mono ?_).bind fun _ => ih.mono ?_
    · exact fun s hs => ⟨e, List.mem_cons_self _ _, hs⟩
    · exact fun s ⟨e', he', hs⟩ => ⟨e', List.mem_cons_of_mem _ he', hs⟩

/-- However `SetConfig` ends, it runs methods only on the controllers its walk builds. -/
theorem setConfig_callsOn (config : Config) (w : World) :
    CallsOn (w.serials ≤ ·) w (worldOf ((setConfig env config).run w)) :=
  CallsOn.bind (loadGpuControllersOrPanic_frame env config w).callsOn fun _ =>
    (drives_save _ _ _).bind fun _ => drives_pure _

theorem dispatch_drives (a : Action) (hc : ∀ config, a ≠ .setConfig config) :
    Drives (fun s => ∃ i c, d.gpuControllers.lookup i = some c ∧ s = c.serial ∧
      (a = .shutdown ∨ a.handle? = some i)) (dispatch env d a) := by
  cases a with
  | checkAlive | getGpus | getConfig => exact drives_pure _
  | getInfo i =>
    show Drives _ (getInfo d i)
    unfold getInfo
    split <;> exact drives_pure _
  | getStats i | getFanControl i | getPowerCap i =>
    exact (query_drives env d i _).mono fun s ⟨c, hc, hs⟩ => ⟨i, c, hc, hs, .inr rfl⟩
  | startFanControl i | stopFanControl i | setFanCurve i _ | setPowerCap i _
  | setPowerProfile i _ | setGPUMaxPowerState i _ _ | setVRAMMaxClock i _
  | commitGPUPowerStates i | resetGPUPowerStates i =>
    exact (mutate_drives env d i _ _).mono fun s ⟨c, hc, hs⟩ => ⟨i, c, hc, hs, .inr rfl⟩
  | shutdown =>
    refine ((shutdownLoop_drives env _ _).mono ?_).bind fun _ => drives_throw _
    exact fun s ⟨e, he, hs⟩ => ⟨e.1, e.2, env.controllerOrder.mem_visit.mp he, hs, .inl rfl⟩
  | setConfig config => exact absurd rfl (hc config)

end Arms

end Lact
