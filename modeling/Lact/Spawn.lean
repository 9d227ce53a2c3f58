import Lact.Listen

/-! How many fan-control threads a run of the daemon can start.  Two requests start threads:
`StartFanControl`, which starts the thread of the controller under its handle when that
controller has none, and `SetConfig`, whose walk of the DRM listing starts one for each card
whose settings enable fan control.  Every other request starts none, `Shutdown` and a connection
that fails part way included.  A thread that `SetConfig` leaves without a controller never stops,
so this bounds the threads a long-running daemon accumulates. -/

namespace Lact

/-- The threads a controller method can start: one for `start_fan_control`, none for the rest. -/
def ControllerCall.starts : ControllerCall → Nat
  | .startFanControl => 1
  | _ => 0

/-- The cards of the DRM listing, each of which the walk of `load_gpu_controllers` builds a
controller for. -/
def Env.cardCount (env : Env) : Nat := (env.drm.filter fun e => isCard e.fileName).length

/-- The threads an action can start: one for `StartFanControl`, one for each card of the listing
for `SetConfig`, and none for the rest. -/
def Action.starts (env : Env) : Action → Nat
  | .startFanControl _ => 1
  | .setConfig _ => env.cardCount
  | _ => 0

/-- The threads a connection can start. -/
def Request.starts (env : Env) : Request → Nat
  | .action a => a.starts env
  | _ => 0

/-- The threads a run of the loop over `conns` can start: those of each connection it handles,
up to the first `Err`. -/
def connectionStarts : List (Option (Env × Request)) → Nat
  | [] => 0
  | none :: _ => 0
  | some (env, req) :: rest => req.starts env + connectionStarts rest

/-! ### One call, one entry of the listing -/

theorem ControllerCall.length_loops (op : ControllerCall) (c : GpuController)
    (loops : List FanLoop) : (op.loops c loops).length ≤ loops.length + op.starts := by
  unfold ControllerCall.loops
  split
  · exact length_startLoop _ _ _
  · exact (List.length_filter_le _ _).trans (Nat.le_add_right _ _)
  · exact Nat.le_add_right _ _

theorem GpuController.length_call (hw : Hardware) (op : ControllerCall) (c : GpuController)
    (w : World) : (c.call hw op w).2.fanLoops.length ≤ w.fanLoops.length + op.starts := by
  unfold GpuController.call
  split
  · exact op.length_loops c _
  · exact Nat.le_add_right _ _

/-- An entry of the listing starts at most one thread, and only when it is a card: the thread of
its controller, when the stored settings enable fan control. -/
theorem loadEntry_length (env : Env) (pciDb : Option PciDatabase) (s : Loading) (e : DrmEntry) :
    (loadEntry env pciDb s e).world.fanLoops.length ≤
      s.world.fanLoops.length + if isCard e.fileName then 1 else 0 := by
  cases hcard : isCard e.fileName
  · rw [loadEntry_not_card env pciDb s hcard]
    exact Nat.le_refl _
  simp only [loadEntry, hcard, if_true]
  split
  · rw [GpuController.loadConfig_fanLoops]
    split
    · exact length_startLoop _ _ _
    · exact Nat.le_succ _
  · exact Nat.le_succ _

theorem foldl_loadEntry_length (env : Env) (pciDb : Option PciDatabase) :
    ∀ (es : List DrmEntry) (s : Loading), (es.foldl (loadEntry env pciDb) s).world.fanLoops.length ≤
      s.world.fanLoops.length + (es.filter fun e => isCard e.fileName).length
  | [], _ => Nat.le_add_right _ _
  | e :: es, s => by
    have h₁ := loadEntry_length env pciDb s e
    have h₂ := foldl_loadEntry_length env pciDb es (loadEntry env pciDb s e)
    rw [List.foldl_cons, List.filter_cons]
    cases hc : isCard e.fileName <;>
      simp only [hc, if_true, Bool.false_eq_true, if_false, List.length_cons] at h₁ ⊢ <;> omega

/-! ### Computations that start a bounded number of threads -/

/-- However `p` ends, it leaves at most `n` more fan-control threads running than it found. -/
def Spawns {α : Type} (n : Nat) (p : Proc α) : Prop :=
  ∀ w, (worldOf (p.run w)).fanLoops.length ≤ w.fanLoops.length + n

section Spawns

variable {α β : Type} {m n : Nat}

theorem spawns_pure (a : α) : Spawns n (pure a : Proc α) := fun _ => Nat.le_add_right _ _

theorem spawns_throw (e : Stop) : Spawns n (throw e : Proc α) := fun _ => Nat.le_add_right _ _

theorem Spawns.bind {p : Proc α} {f : α → Proc β} (hp : Spawns m p) (hf : ∀ a, Spawns n (f a)) :
    Spawns (m + n) (p >>= f) := by
  intro w
  have hw := hp w
  rw [Proc.run_bind]
  cases h : p.run w with
  | ok a w₁ =>
    rw [h] at hw
    exact (hf a w₁).trans (by rw [← Nat.add_assoc]; exact Nat.add_le_add_right hw n)
  | error e w₁ =>
    rw [h] at hw
    exact hw.trans (Nat.add_le_add_left (Nat.le_add_right m n) _)

theorem spawns_call_bind {hw : Hardware} {op : ControllerCall} {c : GpuController}
    {f : GpuController × Option Reply → Proc β} (hf : ∀ r, Spawns n (f r)) :
    Spawns (op.starts + n) (modifyGet (c.call hw op) >>= f) :=
  Spawns.bind (fun w => by simpa using GpuController.length_call hw op c w) hf

theorem spawns_save (ok : Bool) (message : String) (config : Config) :
    Spawns 0 (save ok message config) := fun w => by
  rw [save_run]
  split <;> exact Nat.le_refl _

theorem spawns_emit (e : Event) : Spawns 0 (emit e) := fun _ => Nat.le_refl _

theorem spawns_removeSocket : Spawns 0 removeSocket := fun w => by
  rw [removeSocket_run]
  split <;> exact Nat.le_refl _

theorem spawns_respond (delivered : Bool) (response : Response) :
    Spawns 0 (respond delivered response) := fun w => by
  rw [respond_run]
  split <;> exact Nat.le_refl _

/-- The walk of `load_gpu_controllers` starts at most one thread for each card of the listing,
whether it goes through or panics part way. -/
theorem spawns_load (env : Env) (config : Config) :
    Spawns env.cardCount (loadGpuControllersOrPanic env config) := fun w => by
  rw [loadGpuControllersOrPanic_run]
  split
  · simpa using foldl_loadEntry_length env _ env.drm _
  · rename_i visited message hp
    have hcards : (visited.filter fun e => isCard e.fileName).length ≤ env.cardCount :=
      ((drmPanic?_visited hp).sublist.filter _).length_le
    exact (foldl_loadEntry_length env _ visited (Loading.init config w)).trans
      (Nat.add_le_add_left hcards _)

end Spawns

/-! ### The arms -/

section Arms

variable (env : Env) (d : Daemon)

theorem mutate_spawns (i : UInt32) (op : ControllerCall) (err : DaemonError) :
    Spawns op.starts (mutate env d i op err) := by
  unfold mutate
  split
  · exact spawns_pure _
  · refine spawns_call_bind (n := 0) fun (_, r) => ?_
    cases r
    · exact spawns_pure _
    · exact (spawns_save _ _ _).bind fun _ => spawns_pure (n := 0) _

theorem query_spawns (i : UInt32) (op : ControllerCall) : Spawns op.starts (query env d i op) := by
  unfold query
  split
  · exact spawns_pure _
  · refine spawns_call_bind (n := 0) fun (_, r) => ?_
    cases r <;> exact spawns_pure _

/-- The turn of one controller in the `Shutdown` loop starts no thread: it resets, commits, sets
the automatic profile and stops fan control. -/
theorem shutdownController_spawns (config : Config) (id : UInt32) (c : GpuController) :
    Spawns 0 (shutdownController env config id c) := by
  unfold shutdownController
  refine spawns_call_bind (n := 0) fun _ => spawns_call_bind (n := 0) fun _ =>
    spawns_call_bind (n := 0) fun _ => ?_
  dsimp only
  split
  · exact (spawns_throw (n := 0) _).bind fun _ => spawns_removeSocket
  · split
    · exact spawns_call_bind fun _ => (spawns_pure (n := 0) _).bind fun _ => spawns_removeSocket
    · exact (spawns_pure (n := 0) _).bind fun _ => spawns_removeSocket

theorem shutdownLoop_spawns (config : Config) :
    ∀ l : List ((_ : UInt32) × GpuController), Spawns 0 (shutdownLoop env config l)
  | [] => spawns_pure _
  | ⟨id, c⟩ :: rest => (shutdownController_spawns env config id c).bind fun _ =>
    shutdownLoop_spawns config rest

theorem dispatch_spawns (a : Action) : Spawns (a.starts env) (dispatch env d a) := by
  cases a with
  | checkAlive | getGpus | getConfig => exact spawns_pure _
  | getInfo i =>
    show Spawns 0 (getInfo d i)
    unfold getInfo
    split <;> exact spawns_pure _
  | getStats i | getFanControl i | getPowerCap i => exact query_spawns env d i _
  | startFanControl i | stopFanControl i | setFanCurve i _ | setPowerCap i _
  | setPowerProfile i _ | setGPUMaxPowerState i _ _ | setVRAMMaxClock i _
  | commitGPUPowerStates i | resetGPUPowerStates i => exact mutate_spawns env d i _ _
  | shutdown => exact (shutdownLoop_spawns env _ _).bind fun _ => spawns_throw (n := 0) _
  | setConfig config =>
    exact (spawns_load env config).bind fun _ =>
      (spawns_save _ _ _).bind fun _ => spawns_pure (n := 0) _

theorem handleConnection_spawns (req : Request) :
    Spawns (req.starts env) (handleConnection env d req) := by
  cases req with
  | unreadable => exact spawns_throw _
  | undecodable => exact (spawns_emit _).bind fun _ => spawns_pure (n := 0) _
  | action a =>
    exact (dispatch_spawns env d a).bind fun (_, r) =>
      (spawns_respond _ r).bind fun _ => spawns_pure (n := 0) _

end Arms

/-- However a run of the loop over the connections ends, the daemon leaves at most as many
fan-control threads running as it found, plus one for each `StartFanControl` it handled and, for
each `SetConfig`, one for each card of the listing that connection met.  No other request, and
no connection that fails part way, starts a thread. -/
theorem listen_starts_bounded_threads :
    ∀ (d : Daemon) (conns : List (Option (Env × Request))) (w : World),
      (worldOf ((d.listen conns).run w)).fanLoops.length ≤
        w.fanLoops.length + connectionStarts conns
  | _, [], _ => Nat.le_add_right _ _
  | _, none :: _, _ => Nat.le_add_right _ _
  | d, some (env, req) :: rest, w =>
    ((handleConnection_spawns env d req).bind fun d' w' =>
      listen_starts_bounded_threads d' rest w') w

end Lact
