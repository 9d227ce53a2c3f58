import Lact.World

/-! Modelled from the spec: the controller of one card (`gpu_controller.rs` is not in the source).
A controller holds the card's identifier, fixed when it is built, and a live copy of the card's
settings.  A call on it is logged, is carried out or refused by the hardware, and when carried out
changes the settings as the spec's section 4.2 says.  Starting fan control starts a thread that
runs the loop of section 4.3 for this controller; stopping it ends the thread.  A thread is not
tied to the lifetime of the controller value: dropping a controller leaves its thread running. -/

namespace Lact

/-- Modelled from the spec: a controller of one card.  `serial` numbers the `GpuController::new`
call that built it. -/
structure GpuController where
  serial : Nat
  hwPath : String
  identifier : GpuIdentifier
  info : GpuInfo
  config : GpuConfig
  deriving DecidableEq, Repr

/-- Modelled from the spec: how the cards answer the daemon's calls, by device path. -/
structure Hardware where
  accepts : String → ControllerCall → Bool
  stats : String → GpuStats
  powerCap : String → Int × Int

/-- What a call that goes through returns. -/
inductive Reply
  | unit
  | stats (stats : GpuStats)
  | fanControl (info : FanControlInfo)
  | powerCap (cap : Int × Int)
  deriving DecidableEq, Repr

/-- The response a reply becomes. -/
def Reply.response : Reply → DaemonResponse
  | .unit => .ok
  | .stats s => .gpuStats s
  | .fanControl f => .fanControlInfo f
  | .powerCap p => .powerCap p

/-! ### Fan-control threads -/

/-- Starts the fan-control thread of controller `serial`, unless it runs already. -/
def startLoop (serial : Nat) (hwPath : String) (loops : List FanLoop) : List FanLoop :=
  if loops.any (·.owner == serial) then loops else loops ++ [⟨serial, hwPath⟩]

/-- Ends the fan-control thread of controller `serial`. -/
def stopLoop (serial : Nat) (loops : List FanLoop) : List FanLoop :=
  loops.filter (·.owner != serial)

theorem mem_startLoop {serial : Nat} {hwPath : String} {loops : List FanLoop} {l : FanLoop} :
    l ∈ startLoop serial hwPath loops ↔ l ∈ loops ∨ l = ⟨serial, hwPath⟩ ∧
      ∀ l' ∈ loops, l'.owner ≠ serial := by
  unfold startLoop
  split <;> simp_all

theorem mem_stopLoop {serial : Nat} {loops : List FanLoop} {l : FanLoop} :
    l ∈ stopLoop serial loops ↔ l ∈ loops ∧ l.owner ≠ serial := by
  simp [stopLoop]

/-! ### Building a controller -/

/-- `GpuController::new(path, config, &pci_db)`: a controller of `device` with the settings
`config`; the online database, when there is one, names the card. -/
def GpuController.new (hwPath : String) (device : Device) (config : GpuConfig)
    (pciDb : Option PciDatabase) (w : World) : GpuController × World :=
  let gpuModel := match pciDb with
    | some db => db.gpuModel device.identifier
    | none => device.gpuModel
  (⟨w.serials, hwPath, device.identifier, ⟨⟨gpuModel⟩⟩, config⟩,
    { w.record (.build w.serials hwPath) with serials := w.serials + 1 })

/-- `GpuController::load_config`: takes the settings over and, when they enable fan control,
starts the fan-control thread. -/
def GpuController.loadConfig (c : GpuController) (config : GpuConfig) (w : World) :
    GpuController × World :=
  let w := w.record (.load c.serial config)
  ({ c with config },
    if config.fanControlEnabled then { w with fanLoops := startLoop c.serial c.hwPath w.fanLoops }
    else w)

@[simp] theorem GpuController.new_identifier (hwPath : String) (device : Device)
    (config : GpuConfig) (pciDb : Option PciDatabase) (w : World) :
    (GpuController.new hwPath device config pciDb w).1.identifier = device.identifier := rfl

@[simp] theorem GpuController.new_config (hwPath : String) (device : Device) (config : GpuConfig)
    (pciDb : Option PciDatabase) (w : World) :
    (GpuController.new hwPath device config pciDb w).1.config = config := rfl

theorem GpuController.new_frame (hwPath : String) (device : Device) (config : GpuConfig)
    (pciDb : Option PciDatabase) (w : World) :
    World.Frame w (GpuController.new hwPath device config pciDb w).2 :=
  ⟨rfl, rfl, rfl, Nat.le_succ _, [.build w.serials hwPath], rfl, by simp [Event.BuiltSince]⟩

/-- A controller built, then settings loaded into it: both events are on the new controller. -/
theorem GpuController.new_loadConfig_frame (hwPath : String) (device : Device)
    (config : GpuConfig) (pciDb : Option PciDatabase) (w : World) (g : GpuConfig) :
    World.Frame w ((GpuController.new hwPath device config pciDb w).1.loadConfig g
      (GpuController.new hwPath device config pciDb w).2).2 := by
  unfold GpuController.loadConfig
  split <;> exact ⟨rfl, rfl, rfl, Nat.le_succ _, [.build w.serials hwPath, .load w.serials g],
    by simp [GpuController.new, World.record], by simp [Event.BuiltSince]⟩

@[simp] theorem GpuController.loadConfig_identifier (c : GpuController) (config : GpuConfig)
    (w : World) : (c.loadConfig config w).1.identifier = c.identifier := rfl

/-! ### Calls -/

/-- How a call that goes through changes the settings. -/
def ControllerCall.settings : ControllerCall → GpuConfig → GpuConfig
  | .startFanControl, g => { g with fanControlEnabled := true }
  | .stopFanControl, g => { g with fanControlEnabled := false }
  | .setFanCurve curve, g => { g with fanCurve := curve }
  | .setPowerCap cap, g => { g with powerCap := some cap }
  | .setPowerProfile profile, g => { g with powerProfile := profile }
  | .setGpuMaxPowerState clockspeed voltage, g =>
    { g with gpuMaxPowerState := some (clockspeed, voltage) }
  | .setVramMaxClockspeed clockspeed, g => { g with vramMaxClock := some clockspeed }
  | .resetGpuPowerStates, g => { g with gpuMaxPowerState := none, vramMaxClock := none }
  | _, g => g

/-- How a call that goes through changes the running fan-control threads. -/
def ControllerCall.loops (c : GpuController) : ControllerCall → List FanLoop → List FanLoop
  | .startFanControl => startLoop c.serial c.hwPath
  | .stopFanControl => stopLoop c.serial
  | _ => id

/-- What a call that goes through returns. -/
def ControllerCall.reply (hw : Hardware) (c : GpuController) : ControllerCall → Reply
  | .getStats => .stats (hw.stats c.hwPath)
  | .getFanControl => .fanControl ⟨c.config.fanControlEnabled, c.config.fanCurve⟩
  | .getPowerCap => .powerCap (hw.powerCap c.hwPath)
  | _ => .unit

/-- Whether the card carries a call out. -/
def ControllerCall.goesThrough (hw : Hardware) (c : GpuController) (op : ControllerCall) : Bool :=
  hw.accepts c.hwPath op

/-- A call of method `op` on controller `c`: logged, then carried out or refused.  A refused call
leaves the controller and the threads as they were. -/
def GpuController.call (hw : Hardware) (op : ControllerCall) (c : GpuController) (w : World) :
    (GpuController × Option Reply) × World :=
  let w := w.record (.call c.serial op)
  if op.goesThrough hw c then
    (({ c with config := op.settings c.config }, some (op.reply hw c)),
      { w with fanLoops := op.loops c w.fanLoops })
  else ((c, none), w)

section Call

variable (hw : Hardware) (op : ControllerCall) (c : GpuController) (w : World)

@[simp] theorem GpuController.call_identifier : (c.call hw op w).1.1.identifier = c.identifier := by
  unfold GpuController.call; split <;> rfl

@[simp] theorem GpuController.call_serial : (c.call hw op w).1.1.serial = c.serial := by
  unfold GpuController.call; split <;> rfl

@[simp] theorem GpuController.call_log :
    (c.call hw op w).2.log = w.log ++ [.call c.serial op] := by
  unfold GpuController.call; split <;> rfl

@[simp] theorem GpuController.call_files : (c.call hw op w).2.files = w.files := by
  unfold GpuController.call; split <;> rfl

@[simp] theorem GpuController.call_socket : (c.call hw op w).2.socket = w.socket := by
  unfold GpuController.call; split <;> rfl

@[simp] theorem GpuController.call_serials : (c.call hw op w).2.serials = w.serials := by
  unfold GpuController.call; split <;> rfl

/-- A call that does not go through changes nothing but the log. -/
theorem GpuController.call_refused (h : op.goesThrough hw c = false) :
    c.call hw op w = ((c, none), w.record (.call c.serial op)) := by
  simp [GpuController.call, h]

/-- A call that goes through applies its change of settings and threads, and replies. -/
theorem GpuController.call_done (h : op.goesThrough hw c = true) :
    c.call hw op w = (({ c with config := op.settings c.config }, some (op.reply hw c)),
      { w.record (.call c.serial op) with fanLoops := op.loops c w.fanLoops }) := by
  simp [GpuController.call, h]

/-- A call that starts and stops no thread changes nothing on the machine but the log. -/
theorem GpuController.call_of_loops_id (hop : op.loops c = id) :
    (c.call hw op w).2 = w.record (.call c.serial op) := by
  unfold GpuController.call
  split
  · simp only [hop, id]
  · rfl

end Call

/-! ### What a call does to the threads -/

/-- After `startLoop` a thread of the controller runs. -/
theorem exists_owner_startLoop (serial : Nat) (hwPath : String) (loops : List FanLoop) :
    ∃ l ∈ startLoop serial hwPath loops, l.owner = serial := by
  unfold startLoop
  split
  · rename_i h
    simpa using h
  · exact ⟨_, List.mem_append_right _ (List.mem_singleton_self _), rfl⟩

/-- `startLoop` never gives a controller a second thread. -/
theorem nodup_startLoop {serial : Nat} {hwPath : String} {loops : List FanLoop}
    (h : (loops.map (·.owner)).Nodup) : ((startLoop serial hwPath loops).map (·.owner)).Nodup := by
  unfold startLoop
  split
  · exact h
  · rename_i hany
    rw [List.map_append, List.nodup_append]
    refine ⟨h, List.nodup_singleton _, ?_⟩
    simpa [List.disjoint_singleton] using hany

theorem length_startLoop (serial : Nat) (hwPath : String) (loops : List FanLoop) :
    (startLoop serial hwPath loops).length ≤ loops.length + 1 := by
  unfold startLoop
  split <;> simp

theorem prefix_startLoop (serial : Nat) (hwPath : String) (loops : List FanLoop) :
    loops <+: startLoop serial hwPath loops := by
  unfold startLoop
  split
  · exact List.prefix_refl _
  · exact List.prefix_append _ _

section Loops

variable (op : ControllerCall) (c : GpuController) (loops : List FanLoop)

/-- A call starts at most the thread of its controller. -/
theorem ControllerCall.mem_loops {l : FanLoop} (h : l ∈ op.loops c loops) :
    l ∈ loops ∨ l = ⟨c.serial, c.hwPath⟩ := by
  unfold ControllerCall.loops at h
  split at h
  · exact (mem_startLoop.mp h).imp_right And.left
  · exact .inl (mem_stopLoop.mp h).1
  · exact .inl h

/-- A call leaves the threads of the other controllers. -/
theorem ControllerCall.mem_loops_of_ne {l : FanLoop} (hl : l.owner ≠ c.serial) :
    l ∈ op.loops c loops ↔ l ∈ loops := by
  unfold ControllerCall.loops
  split
  · rw [mem_startLoop, or_iff_left]
    rintro ⟨rfl, -⟩
    exact hl rfl
  · rw [mem_stopLoop]
    exact and_iff_left hl
  · rfl

/-- Only `start_fan_control` starts a thread. -/
theorem ControllerCall.mem_loops_of_ne_start (hop : op ≠ .startFanControl) {l : FanLoop}
    (h : l ∈ op.loops c loops) : l ∈ loops := by
  unfold ControllerCall.loops at h
  split at h
  · exact absurd rfl hop
  · exact (mem_stopLoop.mp h).1
  · exact h

theorem ControllerCall.nodup_loops (h : (loops.map (·.owner)).Nodup) :
    ((op.loops c loops).map (·.owner)).Nodup := by
  unfold ControllerCall.loops
  split
  · exact nodup_startLoop h
  · exact h.sublist ((List.filter_sublist _).map _)
  · exact h

/-- A call that goes through keeps the controller's thread running exactly when its settings
enable fan control. -/
theorem ControllerCall.running_loops
    (h : (∃ l ∈ loops, l.owner = c.serial) ↔ c.config.fanControlEnabled = true) :
    (∃ l ∈ op.loops c loops, l.owner = c.serial) ↔
      (op.settings c.config).fanControlEnabled = true := by
  cases op with
  | startFanControl =>
    simpa [ControllerCall.settings] using exists_owner_startLoop c.serial c.hwPath loops
  | stopFanControl => simp [ControllerCall.loops, ControllerCall.settings, mem_stopLoop]
  | _ => exact h

end Loops

/-- A call, carried out or refused, leaves the threads of the other controllers. -/
theorem GpuController.mem_call_fanLoops (hw : Hardware) (op : ControllerCall) (c : GpuController)
    (w : World) {l : FanLoop} (hl : l.owner ≠ c.serial) :
    l ∈ (c.call hw op w).2.fanLoops ↔ l ∈ w.fanLoops := by
  unfold GpuController.call
  split
  · exact op.mem_loops_of_ne c _ hl
  · exact Iff.rfl

/-- The threads after `load_config`: the controller's is started when the settings enable fan
control. -/
theorem GpuController.loadConfig_fanLoops (c : GpuController) (config : GpuConfig) (w : World) :
    (c.loadConfig config w).2.fanLoops =
      if config.fanControlEnabled then startLoop c.serial c.hwPath w.fanLoops else w.fanLoops := by
  unfold GpuController.loadConfig
  cases config.fanControlEnabled <;> rfl

@[simp] theorem GpuController.loadConfig_serials (c : GpuController) (config : GpuConfig)
    (w : World) : (c.loadConfig config w).2.serials = w.serials := by
  unfold GpuController.loadConfig
  split <;> rfl

end Lact
