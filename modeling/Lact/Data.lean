import Mathlib.Data.List.AList

/-! The data of the daemon in `daemon/src/lib.rs`: the maps it keeps, the persisted `Config`, the
requests of the protocol and its responses.  `lib.rs` uses `config.rs` and `gpu_controller.rs`
without their text being part of the source; the types it takes from them (`GpuIdentifier`,
`GpuConfig`, `PowerProfile`, the snapshots a controller returns) are modelled from the spec, with
the fields that `lib.rs` reads under their Rust names. -/

namespace Lact

/-! ### Maps -/

/-- A `HashMap<u32, V>`: its entries, under pairwise distinct keys. -/
abbrev HashMap (V : Type) := AList (fun _ : UInt32 => V)

/-- An order in which `for (key, value) in &map` may visit a map.  Rust fixes none, so code that
iterates over a map is given the order, and only its being a permutation of the entries is
known. -/
structure IterOrder (V : Type) where
  visit : HashMap V → List ((_ : UInt32) × V)
  perm : ∀ m, (visit m).Perm m.entries

/-- The order in which the entries are stored: one of the orders `IterOrder` allows. -/
def IterOrder.stored (V : Type) : IterOrder V := ⟨fun m => m.entries, fun _ => List.Perm.refl _⟩

theorem IterOrder.mem_visit {V : Type} (o : IterOrder V) {m : HashMap V} {k : UInt32} {v : V} :
    (⟨k, v⟩ : (_ : UInt32) × V) ∈ o.visit m ↔ m.lookup k = some v := by
  rw [(o.perm m).mem_iff, ← AList.mem_lookup_iff, Option.mem_def]

/-! ### Cards and their settings -/

/-- An `f64` as its IEEE 754 bits: the daemon stores and forwards fan speeds and never computes
with them. -/
abbrev F64 := UInt64

/-- A fan curve, `BTreeMap<i64, f64>`: fan speed fractions by temperature, keys ascending. -/
abbrev FanCurve := List (Int × F64)

/-- Modelled from the spec: the hardware fingerprint of a card, its bus address and its PCI
vendor, device and subsystem ids.  Equality is field by field. -/
structure GpuIdentifier where
  pciSlot : String
  vendorId : UInt16
  deviceId : UInt16
  subsysVendorId : UInt16
  subsysDeviceId : UInt16
  deriving DecidableEq, Repr

/-- Modelled from the spec: the power profile selector; `lib.rs` names only `Auto`. -/
inductive PowerProfile
  | auto
  | low
  | high
  deriving DecidableEq, Repr

/-- Modelled from the spec: the settings kept for one card.  `fanControlEnabled` is the field
`lib.rs` reads; the staged clock edits are those `CommitGPUPowerStates` applies. -/
structure GpuConfig where
  fanControlEnabled : Bool
  fanCurve : FanCurve
  powerCap : Option Int
  powerProfile : PowerProfile
  gpuMaxPowerState : Option (Int × Option Int)
  vramMaxClock : Option Int
  deriving DecidableEq, Repr

/-- `GpuConfig::new()`: fan control off, no curve, no cap, the automatic profile, nothing
staged. -/
def GpuConfig.new : GpuConfig :=
  ⟨false, [], none, .auto, none, none⟩

/-- `config::Config`: each card's identifier and settings under its handle, the global option
`allow_online_update`, and the file `Config::save` writes. -/
structure Config where
  gpuConfigs : HashMap (GpuIdentifier × GpuConfig)
  allowOnlineUpdate : Option Bool
  configPath : String
  deriving DecidableEq

/-- `Config::new(path)`: no cards and no global option set. -/
def Config.new (path : String) : Config := ⟨∅, none, path⟩

/-- `config.gpu_configs.insert(id, entry)`. -/
def Config.insert (config : Config) (id : UInt32) (entry : GpuIdentifier × GpuConfig) : Config :=
  { config with gpuConfigs := config.gpuConfigs.insert id entry }

@[simp] theorem Config.insert_gpuConfigs (config : Config) (id : UInt32)
    (entry : GpuIdentifier × GpuConfig) :
    (config.insert id entry).gpuConfigs = config.gpuConfigs.insert id entry := rfl

@[simp] theorem Config.insert_configPath (config : Config) (id : UInt32)
    (entry : GpuIdentifier × GpuConfig) : (config.insert id entry).configPath = config.configPath :=
  rfl

/-! ### What a card tells -/

/-- Modelled from the spec: the online PCI database, which names cards for display only. -/
structure PciDatabase where
  gpuModel : GpuIdentifier → Option String

/-- Modelled from the spec: a card as the kernel shows it under `/sys/class/drm/cardN/device`. -/
structure Device where
  identifier : GpuIdentifier
  gpuModel : Option String
  deriving DecidableEq, Repr

/-- An entry of `/sys/class/drm`: its file name and the device behind it. -/
structure DrmEntry where
  fileName : String
  device : Device
  deriving DecidableEq, Repr

/-- `vendor_data` of a `GpuInfo`, with the one field `lib.rs` reads. -/
structure VendorData where
  gpuModel : Option String
  deriving DecidableEq, Repr

/-- `GpuInfo`, with the part `lib.rs` reads. -/
structure GpuInfo where
  vendorData : VendorData
  deriving DecidableEq, Repr

/-- Modelled from the spec: the live readings `get_stats` returns. -/
structure GpuStats where
  temperature : Int
  gpuClock : Int
  vramClock : Int
  utilization : Nat
  deriving DecidableEq, Repr

/-- Modelled from the spec: what `get_fan_control` reports. -/
structure FanControlInfo where
  enabled : Bool
  curve : FanCurve
  deriving DecidableEq, Repr

/-! ### Requests and responses -/

/-- The methods of `GpuController` that `lib.rs` calls on the card, with their arguments; the
getters `get_info`, `get_identifier` and `get_config` only read the controller. -/
inductive ControllerCall
  | getStats
  | startFanControl
  | stopFanControl
  | getFanControl
  | setFanCurve (curve : FanCurve)
  | setPowerCap (cap : Int)
  | getPowerCap
  | setPowerProfile (profile : PowerProfile)
  | setGpuMaxPowerState (clockspeed : Int) (voltage : Option Int)
  | setVramMaxClockspeed (clockspeed : Int)
  | commitGpuPowerStates
  | resetGpuPowerStates
  deriving DecidableEq, Repr

/-- `Action`: the requests a client sends. -/
inductive Action
  | checkAlive
  | getConfig
  | setConfig (config : Config)
  | getGpus
  | getInfo (id : UInt32)
  | getStats (id : UInt32)
  | startFanControl (id : UInt32)
  | stopFanControl (id : UInt32)
  | getFanControl (id : UInt32)
  | setFanCurve (id : UInt32) (curve : FanCurve)
  | setPowerCap (id : UInt32) (cap : Int)
  | getPowerCap (id : UInt32)
  | setPowerProfile (id : UInt32) (profile : PowerProfile)
  | setGPUMaxPowerState (id : UInt32) (clockspeed : Int) (voltage : Option Int)
  | setVRAMMaxClock (id : UInt32) (clockspeed : Int)
  | commitGPUPowerStates (id : UInt32)
  | resetGPUPowerStates (id : UInt32)
  | shutdown
  deriving DecidableEq

/-- `DaemonResponse`. -/
inductive DaemonResponse
  | ok
  | gpuInfo (info : GpuInfo)
  | gpuStats (stats : GpuStats)
  | gpus (gpus : HashMap (Option String))
  | powerCap (cap : Int × Int)
  | fanControlInfo (info : FanControlInfo)
  | config (config : Config)
  deriving DecidableEq

/-- `DaemonError`. -/
inductive DaemonError
  | connectionFailed
  | invalidID
  | hwMonError
  | controllerError
  deriving DecidableEq, Repr

/-- The `Result<DaemonResponse, DaemonError>` written back to a client. -/
abbrev Response := Except DaemonError DaemonResponse

instance Response.decEq : DecidableEq Response
  | .ok a, .ok b => decidable_of_iff (a = b) (by simp)
  | .error a, .error b => decidable_of_iff (a = b) (by simp)
  | .ok _, .error _ => isFalse (by simp)
  | .error _, .ok _ => isFalse (by simp)

end Lact
