import Lact.Controller

/-! `Daemon::load_gpu_controllers`: the walk over `/sys/class/drm` that builds a controller for
each card and finds the card's handle in the config, or draws a fresh one with `random()`.  The
inner `for` over `config.gpu_configs` visits the map in an order Rust leaves open, so the order is
an input, as are the listing, the values `random()` returns and the online database.  The walk
panics when `read_dir` fails, when the listing returns an error or a five-byte name that is not
UTF-8, and at a five-byte name whose fifth byte is inside a character; these faults are inputs too,
and the walk that meets none is `loadGpuControllers`.  Each step of the walk keeps every
controller's handle a key of the config under the controller's identifier (`Consistent`), whatever
the config, the order and the draws. -/

namespace Lact

/-- How reading the listing of `/sys/class/drm` fails after `read_dir` opened it: the iterator
returns an error (`entry.unwrap()`), or a five-byte name is not UTF-8 (`to_str().unwrap()`). -/
inductive DrmFault where
  | badEntry
  | notUtf8
  deriving DecidableEq, Repr

/-- The message each fault panics with. -/
def DrmFault.message : DrmFault → String
  | .badEntry => unwrapErr
  | .notUtf8 => unwrapNone

/-- What the surroundings decide during one step of the daemon: the listing of
`/sys/class/drm` (whether `read_dir` opens it, the entries it returns, and the fault it ends with
after them, if any), the orders in which the two maps are visited, the values `random()` returns,
the result of `get_pci_db_online()`, the cards' answers, whether `Config::save` can write, and
whether the client's stream takes the response. -/
structure Env where
  drm : List DrmEntry
  drmListed : Bool
  drmFault : Option DrmFault
  configOrder : IterOrder (GpuIdentifier × GpuConfig)
  controllerOrder : IterOrder GpuController
  random : Nat → UInt32
  pciDbOnline : Option PciDatabase
  hw : Hardware
  saveOk : Bool
  delivered : Bool

/-- The variables of `load_gpu_controllers` during its walk: the controllers found, the config,
how many values `random()` has returned, and the world. -/
structure Loading where
  gpuControllers : HashMap GpuController
  config : Config
  draws : Nat
  world : World

/-- `entry.file_name().len() == 5` and `split_at(4).0 == "card"`.  On a five-byte name whose
fifth byte is inside a character Rust's `split_at` panics; the kernel names these entries in
ASCII. -/
def isCard (fileName : String) : Bool :=
  fileName.utf8ByteSize == 5 && fileName.take 4 == "card"

/-- `split_at(4)` on a five-byte name panics unless byte 4 starts a character, that is unless the
name's last character takes one byte. -/
def splitPanics (fileName : String) : Bool :=
  fileName.utf8ByteSize == 5 && fileName.back.utf8Size != 1

example : splitPanics "carδ" = true ∧ splitPanics "card0" = false ∧ splitPanics "δcar" = false := by
  decide

/-- The message of `str::split_at` at a byte inside a character, without the string's text. -/
def notCharBoundary : String := "byte index 4 is not a char boundary"

/-- `entry.path().join("device")`. -/
def devicePath (fileName : String) : String := "/sys/class/drm/" ++ fileName ++ "/device"

/-- The inner loop: the first entry visited whose identifier is `currentIdentifier`, with its
handle and settings. -/
def findConfig (currentIdentifier : GpuIdentifier) :
    List ((_ : UInt32) × (GpuIdentifier × GpuConfig)) → Option (UInt32 × GpuConfig)
  | [] => none
  | ⟨id, (gpuIdentifier, gpuConfig)⟩ :: rest =>
    if currentIdentifier == gpuIdentifier then some (id, gpuConfig)
    else findConfig currentIdentifier rest

/-- The body of the `'entries` loop for one entry of `/sys/class/drm`. -/
def loadEntry (env : Env) (pciDb : Option PciDatabase) (s : Loading) (entry : DrmEntry) :
    Loading :=
  if isCard entry.fileName then
    let (controller, world) :=
      GpuController.new (devicePath entry.fileName) entry.device GpuConfig.new pciDb s.world
    match findConfig controller.identifier (env.configOrder.visit s.config.gpuConfigs) with
    | some (id, gpuConfig) =>
      let (controller, world) := controller.loadConfig gpuConfig world
      { s with gpuControllers := s.gpuControllers.insert id controller, world }
    | none =>
      let id := env.random s.draws
      { gpuControllers := s.gpuControllers.insert id controller
        config := s.config.insert id (controller.identifier, controller.config)
        draws := s.draws + 1
        world }
  else s

/-- The database `load_gpu_controllers` names cards with: the online one when the config allows
it and the download worked. -/
def pciDb (env : Env) (config : Config) : Option PciDatabase :=
  match config.allowOnlineUpdate with
  | some true => env.pciDbOnline
  | _ => none

/-- The walk started from no controllers. -/
def Loading.init (config : Config) (w : World) : Loading := ⟨∅, config, 0, w⟩

/-- `Daemon::load_gpu_controllers(&mut config)`: the controllers by handle and the config after
the walk. -/
def loadGpuControllers (env : Env) (config : Config) (w : World) :
    (HashMap GpuController × Config) × World :=
  let s := env.drm.foldl (loadEntry env (pciDb env config)) (Loading.init config w)
  ((s.gpuControllers, s.config), s.world)

/-- Where the `'entries` loop over `entries` panics, if it does: the entries it handled before,
and the message.  A five-byte name that `split_at(4)` cannot cut panics at its entry, and the
listing's `fault` after the last entry. -/
def entriesPanic? (fault : Option DrmFault) : List DrmEntry → Option (List DrmEntry × String)
  | [] => fault.map fun f => ([], f.message)
  | e :: es =>
    if splitPanics e.fileName then some ([], notCharBoundary)
    else (entriesPanic? fault es).map fun (visited, message) => (e :: visited, message)

/-- Where `load_gpu_controllers` panics, if it does: before any entry when
`read_dir("/sys/class/drm")` fails, otherwise where the `'entries` loop does. -/
def drmPanic? (env : Env) : Option (List DrmEntry × String) :=
  if env.drmListed then entriesPanic? env.drmFault env.drm
  else some ([], "Could not open /sys/class/drm")

/-- `Self::load_gpu_controllers(&mut config)` as `Daemon::new` and `SetConfig` call it: the walk,
or its panic once the controllers of the entries before it are built. -/
def loadGpuControllersOrPanic (env : Env) (config : Config) :
    Proc (HashMap GpuController × Config) :=
  match drmPanic? env with
  | none => modifyGet (loadGpuControllers env config)
  | some (visited, message) => do
    modify fun w => (visited.foldl (loadEntry env (pciDb env config)) (Loading.init config w)).world
    throw (.panic message)

/-! ### The inner loop -/

theorem findConfig_some {i : GpuIdentifier} {l : List ((_ : UInt32) × (GpuIdentifier × GpuConfig))}
    {id : UInt32} {g : GpuConfig} (h : findConfig i l = some (id, g)) : ⟨id, (i, g)⟩ ∈ l := by
  induction l with
  | nil => cases h
  | cons e rest ih =>
    obtain ⟨k, i', g'⟩ := e
    simp only [findConfig, beq_iff_eq] at h
    split at h
    · cases h; subst i'; exact List.mem_cons_self _ _
    · exact List.mem_cons_of_mem _ (ih h)

theorem findConfig_none {i : GpuIdentifier} {l : List ((_ : UInt32) × (GpuIdentifier × GpuConfig))}
    (h : findConfig i l = none) : ∀ e ∈ l, e.2.1 ≠ i := by
  induction l with
  | nil => simp
  | cons e rest ih =>
    obtain ⟨k, i', g'⟩ := e
    simp only [findConfig, beq_iff_eq] at h
    split at h
    · cases h
    · simp only [List.mem_cons, forall_eq_or_imp]
      exact ⟨Ne.symm ‹_›, ih h⟩

/-- A match found by the inner loop is an entry of the config. -/
theorem lookup_of_findConfig {o : IterOrder (GpuIdentifier × GpuConfig)}
    {m : HashMap (GpuIdentifier × GpuConfig)} {i : GpuIdentifier} {id : UInt32} {g : GpuConfig}
    (h : findConfig i (o.visit m) = some (id, g)) : m.lookup id = some (i, g) :=
  o.mem_visit.mp (findConfig_some h)

/-- When the inner loop finds nothing, no entry of the config has the identifier. -/
theorem lookup_of_findConfig_none {o : IterOrder (GpuIdentifier × GpuConfig)}
    {m : HashMap (GpuIdentifier × GpuConfig)} {i : GpuIdentifier}
    (h : findConfig i (o.visit m) = none) {id : UInt32} {v : GpuIdentifier × GpuConfig}
    (hv : m.lookup id = some v) : v.1 ≠ i :=
  findConfig_none h ⟨id, v⟩ (o.mem_visit.mpr hv)

/-- The inner loop finds nothing when no entry has the identifier. -/
theorem findConfig_eq_none {o : IterOrder (GpuIdentifier × GpuConfig)}
    {m : HashMap (GpuIdentifier × GpuConfig)} {i : GpuIdentifier}
    (h : ∀ id v, m.lookup id = some v → v.1 ≠ i) : findConfig i (o.visit m) = none := by
  cases hf : findConfig i (o.visit m) with
  | none => rfl
  | some r => exact absurd rfl (h r.1 (i, r.2) (lookup_of_findConfig hf))

/-! ### One entry -/

section Entry

variable (env : Env) (pciDb : Option PciDatabase) (s : Loading) {entry : DrmEntry}

theorem loadEntry_not_card (h : isCard entry.fileName = false) : loadEntry env pciDb s entry = s := by
  simp [loadEntry, h]

/-- Everything one entry that is a card can do: its controller, with the card's identifier, is
registered under the handle of a config entry with that identifier, and the config stays; or no
entry has the identifier, and the controller and a new config entry with the default settings go
under the next value of `random()`. -/
theorem loadEntry_card (h : isCard entry.fileName = true) :
    (∃ id g c w, s.config.gpuConfigs.lookup id = some (entry.device.identifier, g) ∧
      c.identifier = entry.device.identifier ∧
      loadEntry env pciDb s entry =
        { s with gpuControllers := s.gpuControllers.insert id c, world := w }) ∨
    ((∀ id v, s.config.gpuConfigs.lookup id = some v → v.1 ≠ entry.device.identifier) ∧
      ∃ c w, c.identifier = entry.device.identifier ∧
      loadEntry env pciDb s entry =
        { gpuControllers := s.gpuControllers.insert (env.random s.draws) c
          config := s.config.insert (env.random s.draws) (entry.device.identifier, GpuConfig.new)
          draws := s.draws + 1
          world := w }) := by
  simp only [loadEntry, h, if_true]
  split
  · rename_i id g hfind
    exact .inl ⟨id, g, _, _, lookup_of_findConfig hfind, rfl, rfl⟩
  · rename_i hfind
    exact .inr ⟨fun _ _ hv => lookup_of_findConfig_none hfind hv, _, _, rfl, rfl⟩

end Entry

/-! ### Controllers and config agree -/

/-- Every controller's handle is a key of the config, under the controller's identifier. -/
def Consistent (gpuControllers : HashMap GpuController) (config : Config) : Prop :=
  ∀ h c, gpuControllers.lookup h = some c → ∃ g, config.gpuConfigs.lookup h = some (c.identifier, g)

theorem consistent_empty (config : Config) : Consistent ∅ config := by
  simp [Consistent]

/-- Registering a controller under a handle whose config entry carries its identifier. -/
theorem Consistent.insert {gc : HashMap GpuController} {config : Config} (hc : Consistent gc config)
    {id : UInt32} {c : GpuController} {g : GpuConfig}
    (hid : config.gpuConfigs.lookup id = some (c.identifier, g)) :
    Consistent (gc.insert id c) config := by
  intro h c' hc'
  by_cases hh : h = id
  · subst hh
    rw [AList.lookup_insert, Option.some_inj] at hc'
    exact ⟨g, hc' ▸ hid⟩
  · rw [AList.lookup_insert_ne hh] at hc'
    exact hc h c' hc'

/-- Registering a controller and a config entry with its identifier under one handle. -/
theorem Consistent.insert_both {gc : HashMap GpuController} {config : Config}
    (hc : Consistent gc config) (id : UInt32) (c : GpuController) (g : GpuConfig) :
    Consistent (gc.insert id c) (config.insert id (c.identifier, g)) := by
  intro h c' hc'
  by_cases hh : h = id
  · subst hh
    rw [AList.lookup_insert, Option.some_inj] at hc'
    exact ⟨g, by rw [← hc', Config.insert_gpuConfigs, AList.lookup_insert]⟩
  · rw [AList.lookup_insert_ne hh] at hc'
    rw [Config.insert_gpuConfigs, AList.lookup_insert_ne hh]
    exact hc h c' hc'

theorem loadEntry_consistent (env : Env) (pciDb : Option PciDatabase) {s : Loading}
    (hs : Consistent s.gpuControllers s.config) (entry : DrmEntry) :
    Consistent (loadEntry env pciDb s entry).gpuControllers (loadEntry env pciDb s entry).config := by
  cases hcard : isCard entry.fileName
  · rwa [loadEntry_not_card env pciDb s hcard]
  · rcases loadEntry_card env pciDb s hcard with
      ⟨id, g, c, w, hid, hcid, heq⟩ | ⟨-, c, w, hcid, heq⟩
    · rw [heq]
      exact hs.insert (hcid ▸ hid)
    · rw [heq, ← hcid]
      exact hs.insert_both _ c GpuConfig.new

/-- `load_gpu_controllers` leaves every controller's handle a key of the returned config, under
the controller's identifier, for every config, listing, order and value of `random()`. -/
theorem loadGpuControllers_consistent (env : Env) (config : Config) (w : World) :
    Consistent (loadGpuControllers env config w).1.1 (loadGpuControllers env config w).1.2 :=
  List.foldlRecOn (motive := fun s : Loading => Consistent s.gpuControllers s.config) env.drm _ _
    (consistent_empty config) fun _ hs e _ => loadEntry_consistent env _ hs e

/-! ### What the walk leaves alone -/

theorem loadEntry_frame (env : Env) (pciDb : Option PciDatabase) (s : Loading) (entry : DrmEntry) :
    World.Frame s.world (loadEntry env pciDb s entry).world ∧
      (loadEntry env pciDb s entry).config.configPath = s.config.configPath := by
  cases hcard : isCard entry.fileName
  · rw [loadEntry_not_card env pciDb s hcard]
    exact ⟨World.Frame.refl _, rfl⟩
  · simp only [loadEntry, hcard, if_true]
    split
    · exact ⟨GpuController.new_loadConfig_frame .., rfl⟩
    · exact ⟨GpuController.new_frame (devicePath entry.fileName) entry.device GpuConfig.new pciDb s.world, rfl⟩

theorem foldl_loadEntry_frame (env : Env) (pciDb : Option PciDatabase) (es : List DrmEntry)
    (s : Loading) :
    World.Frame s.world (es.foldl (loadEntry env pciDb) s).world ∧
      (es.foldl (loadEntry env pciDb) s).config.configPath = s.config.configPath :=
  List.foldlRecOn (motive := fun s' : Loading =>
      World.Frame s.world s'.world ∧ s'.config.configPath = s.config.configPath)
    es _ _ ⟨World.Frame.refl _, rfl⟩ fun _ hs e _ =>
      ⟨hs.1.trans (loadEntry_frame env _ _ e).1, (loadEntry_frame env _ _ e).2.trans hs.2⟩

/-- `load_gpu_controllers` writes no file, leaves the socket, adds to the log only the events of
the controllers it builds, and keeps the config's path. -/
theorem loadGpuControllers_frame (env : Env) (config : Config) (w : World) :
    World.Frame w (loadGpuControllers env config w).2 ∧
      (loadGpuControllers env config w).1.2.configPath = config.configPath :=
  foldl_loadEntry_frame env _ env.drm (Loading.init config w)

/-! ### Panics of the walk -/

theorem entriesPanic?_visited {fault : Option DrmFault} :
    ∀ {es visited : List DrmEntry} {message : String},
      entriesPanic? fault es = some (visited, message) → visited <+: es
  | [], _, _, h => by
    cases fault <;> simp only [entriesPanic?, Option.map_some', Option.map_none',
      Option.some.injEq, Prod.mk.injEq, reduceCtorEq] at h
    exact h.1 ▸ List.nil_prefix
  | e :: es, visited, message, h => by
    simp only [entriesPanic?] at h
    split at h
    · cases h
      exact List.nil_prefix
    · obtain ⟨⟨visited', message'⟩, h', heq⟩ := Option.map_eq_some'.mp h
      cases heq
      exact (List.prefix_cons_inj e).mpr (entriesPanic?_visited h')

/-- The walk panics after entries of the listing, in order. -/
theorem drmPanic?_visited {env : Env} {visited : List DrmEntry} {message : String}
    (h : drmPanic? env = some (visited, message)) : visited <+: env.drm := by
  unfold drmPanic? at h
  split at h
  · exact entriesPanic?_visited h
  · cases h
    exact List.nil_prefix

theorem loadGpuControllersOrPanic_run (env : Env) (config : Config) (w : World) :
    (loadGpuControllersOrPanic env config).run w =
      match drmPanic? env with
      | none => .ok (loadGpuControllers env config w).1 (loadGpuControllers env config w).2
      | some (visited, message) => .error (.panic message)
          (visited.foldl (loadEntry env (pciDb env config)) (Loading.init config w)).world := by
  unfold loadGpuControllersOrPanic
  split <;> rfl

theorem loadGpuControllersOrPanic_ok {env : Env} {config : Config} {w w' : World}
    {r : HashMap GpuController × Config} (h : (loadGpuControllersOrPanic env config).run w = .ok r w') :
    drmPanic? env = none ∧ loadGpuControllers env config w = (r, w') := by
  rw [loadGpuControllersOrPanic_run] at h
  split at h
  · cases h
    exact ⟨‹_›, rfl⟩
  · cases h

/-- However `load_gpu_controllers` ends, it writes no file, leaves the socket, and adds to the log
only the events of the controllers it builds. -/
theorem loadGpuControllersOrPanic_frame (env : Env) (config : Config) (w : World) :
    World.Frame w (worldOf ((loadGpuControllersOrPanic env config).run w)) := by
  rw [loadGpuControllersOrPanic_run]
  split
  · exact (loadGpuControllers_frame env config w).1
  · exact (foldl_loadEntry_frame env _ _ (Loading.init config w)).1

end Lact
