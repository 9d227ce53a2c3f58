import Lact.Load

/-! `Daemon::new` and `Daemon::handle_connection`.  A connection carries one request; the daemon
runs the arm of its action against the controllers and the config, writes the response back, and
waits for the next connection.  The arms that act on one card come in two families: those that
change the card's settings (`mutate`), which write the controller's identifier and settings back
into the config and save it when the call goes through, and those that read the card
(`query`). -/

namespace Lact

/-- The state `Daemon` keeps between connections; its listener is the socket of the world. -/
structure Daemon where
  gpuControllers : HashMap GpuController
  config : Config

/-- What one connection delivers: `read_to_end` fails, the bytes are no `Action`, or an
action. -/
inductive Request
  | unreadable
  | undecodable
  | action (a : Action)

/-- The path `Daemon::new` gives the config. -/
def CONFIG_PATH : String := "/etc/lact.json"

/-! ### The arms of `handle_connection` -/

/-- The arm of an action that changes a card: `op` runs on the controller under `i` in place;
when it goes through, the controller's identifier and settings are written back under `i` and
the config is saved, otherwise the response is `err`. -/
def mutate (env : Env) (d : Daemon) (i : UInt32) (op : ControllerCall) (err : DaemonError) :
    Proc (Daemon × Response) :=
  match d.gpuControllers.lookup i with
  | none => pure (d, .error .invalidID)
  | some controller => do
    let (controller, r) ← modifyGet (controller.call env.hw op)
    let gpuControllers := d.gpuControllers.insert i controller
    match r with
    | some _ => do
      let config := d.config.insert i (controller.identifier, controller.config)
      save env.saveOk unwrapErr config
      pure (⟨gpuControllers, config⟩, .ok .ok)
    | none => pure (⟨gpuControllers, d.config⟩, .error err)

/-- The arm of an action that reads a card through `op`; a refused call answers
`HWMonError`. -/
def query (env : Env) (d : Daemon) (i : UInt32) (op : ControllerCall) :
    Proc (Daemon × Response) :=
  match d.gpuControllers.lookup i with
  | none => pure (d, .error .invalidID)
  | some controller => do
    let (_, r) ← modifyGet (controller.call env.hw op)
    match r with
    | some reply => pure (d, .ok reply.response)
    | none => pure (d, .error .hwMonError)

/-- `GetInfo`: the stored info, which reading cannot fail. -/
def getInfo (d : Daemon) (i : UInt32) : Proc (Daemon × Response) :=
  match d.gpuControllers.lookup i with
  | none => pure (d, .error .invalidID)
  | some controller => pure (d, .ok (.gpuInfo controller.info))

/-- `GetGpus`: each controller's handle with the model name of its info. -/
def gpus (env : Env) (d : Daemon) : HashMap (Option String) :=
  (env.controllerOrder.visit d.gpuControllers).foldl
    (fun gpus e => gpus.insert e.1 e.2.info.vendorData.gpuModel) ∅

/-- The body of the `Shutdown` loop for the controller under `id`: reset, commit and the automatic
profile, whatever their results; fan control stopped when the stored settings enable it; then the
socket removed. -/
def shutdownController (env : Env) (config : Config) (id : UInt32) (controller : GpuController) :
    Proc Unit := do
  let (controller, _) ← modifyGet (controller.call env.hw .resetGpuPowerStates)
  let (controller, _) ← modifyGet (controller.call env.hw .commitGpuPowerStates)
  let (controller, _) ← modifyGet (controller.call env.hw (.setPowerProfile .auto))
  match config.gpuConfigs.lookup id with
  | none => throw (.panic unwrapNone)
  | some (_, gpuConfig) =>
    if gpuConfig.fanControlEnabled then
      let _ ← modifyGet (controller.call env.hw .stopFanControl)
  removeSocket

/-- The `for` loop of `Shutdown` over the controllers, in the order visited. -/
def shutdownLoop (env : Env) (config : Config) :
    List ((_ : UInt32) × GpuController) → Proc Unit
  | [] => pure ()
  | ⟨id, controller⟩ :: rest => do
    shutdownController env config id controller
    shutdownLoop env config rest

/-- `Shutdown`: the loop, then `std::process::exit(0)`. -/
def shutdown (env : Env) (d : Daemon) : Proc (Daemon × Response) := do
  shutdownLoop env d.config (env.controllerOrder.visit d.gpuControllers)
  throw (.exit 0)

/-- `SetConfig(config)`: the client's config replaces the daemon's, the controllers are dropped
and built again from it, and it is saved.  Dropping a controller does not end its fan-control
thread. -/
def setConfig (env : Env) (config : Config) : Proc (Daemon × Response) := do
  let (gpuControllers, config) ← loadGpuControllersOrPanic env config
  save env.saveOk "Failed to save config" config
  pure (⟨gpuControllers, config⟩, .ok .ok)

/-- The `match action` of `handle_connection`: the new state and the response. -/
def dispatch (env : Env) (d : Daemon) : Action → Proc (Daemon × Response)
  | .checkAlive => pure (d, .ok .ok)
  | .getGpus => pure (d, .ok (.gpus (gpus env d)))
  | .getStats i => query env d i .getStats
  | .getInfo i => getInfo d i
  | .startFanControl i => mutate env d i .startFanControl .hwMonError
  | .stopFanControl i => mutate env d i .stopFanControl .hwMonError
  | .getFanControl i => query env d i .getFanControl
  | .setFanCurve i curve => mutate env d i (.setFanCurve curve) .hwMonError
  | .setPowerCap i cap => mutate env d i (.setPowerCap cap) .hwMonError
  | .getPowerCap i => query env d i .getPowerCap
  | .setPowerProfile i profile => mutate env d i (.setPowerProfile profile) .controllerError
  | .setGPUMaxPowerState i clockspeed voltage =>
    mutate env d i (.setGpuMaxPowerState clockspeed voltage) .controllerError
  | .setVRAMMaxClock i clockspeed =>
    mutate env d i (.setVramMaxClockspeed clockspeed) .controllerError
  | .commitGPUPowerStates i => mutate env d i .commitGpuPowerStates .controllerError
  | .resetGPUPowerStates i => mutate env d i .resetGpuPowerStates .controllerError
  | .shutdown => shutdown env d
  | .setConfig config => setConfig env config
  | .getConfig => pure (d, .ok (.config d.config))

/-- `Daemon::handle_connection`: one connection, start to end. -/
def handleConnection (env : Env) (d : Daemon) : Request → Proc Daemon
  | .unreadable => throw (.panic unwrapErr)
  | .undecodable => do
    emit (.print "Failed deserializing action")
    pure d
  | .action a => do
    let (d, response) ← dispatch env d a
    respond env.delivered response
    pure d

/-- The config `Daemon::new` starts from: a fresh one for an unprivileged daemon, otherwise the
one read from `/etc/lact.json`, or a fresh one when that fails. -/
def Daemon.readConfig (unprivileged : Bool) (w : World) : Config :=
  if unprivileged then Config.new CONFIG_PATH
  else (readFromFile w CONFIG_PATH).getD (Config.new CONFIG_PATH)

/-- `Daemon::new(unprivileged)`: takes the socket over, builds the controllers from the config it
starts from, and saves the config when privileged. -/
def Daemon.new (env : Env) (unprivileged : Bool) : Proc Daemon := do
  modify fun w => { w with socket := true }
  let w ← get
  let (gpuControllers, config) ← loadGpuControllersOrPanic env (Daemon.readConfig unprivileged w)
  if !unprivileged then save env.saveOk unwrapErr config
  pure ⟨gpuControllers, config⟩

/-! ### A machine with one card

A machine whose `/sys/class/drm` lists one card and its render node, where every call, save and
write goes through, and the daemon as `Daemon::new` leaves it there. -/

/-- The identifier of the card of the sample machine. -/
def sampleId : GpuIdentifier := ⟨"0000:03:00.0", 0x1002, 0x67df, 0x1da2, 0xe387⟩

/-- Surroundings of a machine with one card, whose `/sys/class/drm` also lists the card's render
node: every call and write goes through, maps are visited in stored order, and `random()` returns
`7`. -/
def sampleEnv : Env where
  drm := [⟨"card0", ⟨sampleId, some "Ellesmere"⟩⟩, ⟨"renderD128", ⟨sampleId, none⟩⟩]
  drmListed := true
  drmFault := none
  configOrder := IterOrder.stored _
  controllerOrder := IterOrder.stored _
  random := fun _ => 7
  pciDbOnline := none
  hw := ⟨fun _ _ => true, fun _ => ⟨45, 1200, 1750, 3⟩, fun _ => (150, 200)⟩
  saveOk := true
  delivered := true

/-- A machine before the daemon starts: nothing saved, every path its own file, no socket, no
thread. -/
def bareWorld : World := ⟨fun _ => none, id, false, [], 0, []⟩

/-- The controller `Daemon::new` builds for the card. -/
def sampleController : GpuController :=
  ⟨0, "/sys/class/drm/card0/device", sampleId, ⟨⟨some "Ellesmere"⟩⟩, GpuConfig.new⟩

/-- The config `Daemon::new` saves: the card under handle `7` with default settings. -/
def sampleConfig : Config := (Config.new CONFIG_PATH).insert 7 (sampleId, GpuConfig.new)

/-- The privileged daemon of the sample machine after `Daemon::new`. -/
def sampleDaemon : Daemon := ⟨(∅ : HashMap GpuController).insert 7 sampleController, sampleConfig⟩

/-- The sample machine after `Daemon::new`: the socket bound, one controller built, the config
saved. -/
def sampleBooted : World :=
  World.saved
    { bareWorld with socket := true, serials := 1, log := [.build 0 "/sys/class/drm/card0/device"] }
    sampleConfig

/-- The sample machine with a second card; `random()` returns `7`, then `8`. -/
def twoCardEnv : Env :=
  { sampleEnv with
    drm := sampleEnv.drm ++ [⟨"card1", ⟨{ sampleId with pciSlot := "0000:04:00.0" }, none⟩⟩]
    random := fun n => 7 + n.toUInt32 }

end Lact
