import Lact.Data

/-! The world the daemon acts on, and the monad its code runs in.  The world holds the files
`Config::save` writes, which file each path names, whether the socket file exists, the fan-control
threads that are running, how many controllers have been built, and the log of what the daemon did
that can be seen from outside.  A computation of the daemon changes the world and returns, or ends the process through
`std::process::exit` or a panic. -/

namespace Lact

/-- `SOCK_PATH`, the socket the daemon listens on. -/
def SOCK_PATH : String := "/tmp/amdgpu-configurator.sock"

/-- A thread running the fan-control loop: the controller that started it, by the number of its
`GpuController::new` call, and the card whose PWM it writes. -/
structure FanLoop where
  owner : Nat
  hwPath : String
  deriving DecidableEq, Repr

/-- What the daemon does that can be seen from outside. -/
inductive Event
  /-- A controller method, run on the controller built by the `serial`-th `GpuController::new`. -/
  | call (serial : Nat) (op : ControllerCall)
  /-- `GpuController::new` built its `serial`-th controller, for the card at `hwPath`. -/
  | build (serial : Nat) (hwPath : String)
  /-- `load_config` took `config` over on the controller built by the `serial`-th
  `GpuController::new`. -/
  | load (serial : Nat) (config : GpuConfig)
  /-- `Config::save` wrote `config` to `path`. -/
  | save (path : String) (config : Config)
  /-- `fs::remove_file(SOCK_PATH)` removed the socket. -/
  | removeSocket
  /-- The response written back to the client. -/
  | respond (response : Response)
  /-- A line on standard output. -/
  | print (line : String)
  deriving DecidableEq

/-- The state of the machine around the daemon. -/
structure World where
  files : String → Option Config
  /-- The file a path names on this machine, with links, `.` and `..` resolved. -/
  fileOf : String → String
  socket : Bool
  fanLoops : List FanLoop
  serials : Nat
  log : List Event

/-- How the process ends: `std::process::exit(code)`, or a panic with its message. -/
inductive Stop
  | exit (code : Int)
  | panic (message : String)
  deriving DecidableEq, Repr

/-- A computation of the daemon process. -/
abbrev Proc := EStateM Stop World

/-- The message of `Option::unwrap` on `None`. -/
def unwrapNone : String := "called `Option::unwrap()` on a `None` value"

/-- The message of `Result::unwrap` on `Err`, without the error's text. -/
def unwrapErr : String := "called `Result::unwrap()` on an `Err` value"

namespace Proc

variable {α β : Type} {w : World}

@[simp] theorem run_pure (a : α) : (pure a : Proc α).run w = .ok a w := rfl

@[simp] theorem run_bind (x : Proc α) (f : α → Proc β) :
    (x >>= f).run w = match x.run w with
      | .ok a w' => (f a).run w'
      | .error e w' => .error e w' := by
  show EStateM.bind x f w = _
  unfold EStateM.bind EStateM.run
  cases x w <;> rfl

@[simp] theorem run_map (f : α → β) (x : Proc α) :
    (f <$> x).run w = match x.run w with
      | .ok a w' => .ok (f a) w'
      | .error e w' => .error e w' := by
  show EStateM.map f x w = _
  unfold EStateM.map EStateM.run
  cases x w <;> rfl

@[simp] theorem run_throw (e : Stop) : (throw e : Proc α).run w = .error e w := rfl

@[simp] theorem run_get : (get : Proc World).run w = .ok w w := rfl

@[simp] theorem run_set (w' : World) : (set w' : Proc PUnit).run w = .ok ⟨⟩ w' := rfl

@[simp] theorem run_modify (f : World → World) : (modify f : Proc PUnit).run w = .ok ⟨⟩ (f w) :=
  rfl

@[simp] theorem run_modifyGet (f : World → α × World) :
    (modifyGet f : Proc α).run w = .ok (f w).1 (f w).2 := rfl

end Proc

/-- The world a computation ends in, however it ends. -/
def worldOf {α : Type} : EStateM.Result Stop World α → World
  | .ok _ w => w
  | .error _ w => w

@[simp] theorem worldOf_ok {α : Type} (a : α) (w : World) : worldOf (.ok a w) = w := rfl

@[simp] theorem worldOf_error {α : Type} (e : Stop) (w : World) :
    worldOf (.error e w : EStateM.Result Stop World α) = w := rfl

/-- The controller an event ran a method on, by the number of its `GpuController::new` call. -/
def Event.controller? : Event → Option Nat
  | .call serial _ | .build serial _ | .load serial _ => some serial
  | _ => none

/-- A `GpuController::new` or `load_config` event on a controller built by the `n`-th
`GpuController::new` call or a later one. -/
def Event.BuiltSince (n : Nat) : Event → Prop
  | .build serial _ | .load serial _ => n ≤ serial
  | _ => False

theorem Event.BuiltSince.mono {n m : Nat} {e : Event} (h : e.BuiltSince n) (hmn : m ≤ n) :
    e.BuiltSince m := by
  cases e <;> simp only [Event.BuiltSince] at h ⊢ <;> omega

theorem Event.BuiltSince.controller? {n : Nat} {e : Event} (h : e.BuiltSince n) {s : Nat}
    (hs : e.controller? = some s) : n ≤ s := by
  cases e <;> simp only [Event.BuiltSince, Event.controller?, Option.some.injEq] at h hs <;> omega

/-- `w'` is `w` after building controllers and starting their threads: the same files, path
resolution and socket, no fewer `GpuController::new` calls, and the log extended only by the new
controllers' `GpuController::new` and `load_config` events. -/
structure World.Frame (w w' : World) : Prop where
  files : w'.files = w.files
  fileOf : w'.fileOf = w.fileOf
  socket : w'.socket = w.socket
  serials : w.serials ≤ w'.serials
  log : ∃ es, w'.log = w.log ++ es ∧ ∀ e ∈ es, e.BuiltSince w.serials

theorem World.Frame.refl (w : World) : World.Frame w w :=
  ⟨rfl, rfl, rfl, le_rfl, [], (List.append_nil _).symm, nofun⟩

theorem World.Frame.trans {w₁ w₂ w₃ : World} (h₁ : World.Frame w₁ w₂) (h₂ : World.Frame w₂ w₃) :
    World.Frame w₁ w₃ := by
  obtain ⟨es₁, hl₁, hb₁⟩ := h₁.log
  obtain ⟨es₂, hl₂, hb₂⟩ := h₂.log
  refine ⟨h₂.files.trans h₁.files, h₂.fileOf.trans h₁.fileOf, h₂.socket.trans h₁.socket,
    h₁.serials.trans h₂.serials, es₁ ++ es₂, by rw [hl₂, hl₁, List.append_assoc], fun e he => ?_⟩
  rcases List.mem_append.mp he with he | he
  · exact hb₁ e he
  · exact (hb₂ e he).mono h₁.serials

/-- The config an event saved, if it is a save. -/
def Event.saved? : Event → Option Config
  | .save _ config => some config
  | _ => none

theorem Event.BuiltSince.saved? {n : Nat} {e : Event} (h : e.BuiltSince n) : e.saved? = none := by
  cases e <;> first | rfl | exact h.elim

/-- The config of the last `Config::save` in a log. -/
def lastSaved (log : List Event) : Option Config := (log.filterMap Event.saved?).getLast?

@[simp] theorem lastSaved_append_save (log : List Event) (path : String) (config : Config) :
    lastSaved (log ++ [.save path config]) = some config := by
  simp [lastSaved, Event.saved?]

theorem lastSaved_append_of_saved? {log : List Event} {e : Event} (h : e.saved? = none) :
    lastSaved (log ++ [e]) = lastSaved log := by
  simp [lastSaved, h]

theorem lastSaved_append_of_forall {log es : List Event} (h : ∀ e ∈ es, e.saved? = none) :
    lastSaved (log ++ es) = lastSaved log := by
  simp [lastSaved, List.filterMap_eq_nil_iff.mpr h]

/-! ### Effects -/

/-- The world with `e` appended to the log. -/
def World.record (w : World) (e : Event) : World := { w with log := w.log ++ [e] }

/-- The files after `config` is written to the file that `path` names under `fileOf`: every path
that names that file reads `config`. -/
def writeFile (files : String → Option Config) (fileOf : String → String) (path : String)
    (config : Config) : String → Option Config :=
  fun p => if fileOf p = fileOf path then some config else files p

@[simp] theorem writeFile_self (files : String → Option Config) (fileOf : String → String)
    (path : String) (config : Config) : writeFile files fileOf path config path = some config :=
  if_pos rfl

theorem writeFile_of_ne (files : String → Option Config) {fileOf : String → String}
    {path p : String} (config : Config) (h : fileOf p ≠ fileOf path) :
    writeFile files fileOf path config p = files p :=
  if_neg h

/-- The world after `Config::save` wrote `config` to the file `config.configPath` names. -/
def World.saved (w : World) (config : Config) : World :=
  { w with
    files := writeFile w.files w.fileOf config.configPath config
    log := w.log ++ [.save config.configPath config] }

section Fields

variable (w : World) (e : Event) (config : Config)

@[simp] theorem World.record_log : (w.record e).log = w.log ++ [e] := rfl
@[simp] theorem World.record_files : (w.record e).files = w.files := rfl
@[simp] theorem World.record_fileOf : (w.record e).fileOf = w.fileOf := rfl
@[simp] theorem World.record_socket : (w.record e).socket = w.socket := rfl
@[simp] theorem World.record_fanLoops : (w.record e).fanLoops = w.fanLoops := rfl
@[simp] theorem World.record_serials : (w.record e).serials = w.serials := rfl
@[simp] theorem World.saved_log : (w.saved config).log = w.log ++ [.save config.configPath config] :=
  rfl
@[simp] theorem World.saved_socket : (w.saved config).socket = w.socket := rfl
@[simp] theorem World.saved_fileOf : (w.saved config).fileOf = w.fileOf := rfl
@[simp] theorem World.saved_fanLoops : (w.saved config).fanLoops = w.fanLoops := rfl
@[simp] theorem World.saved_serials : (w.saved config).serials = w.serials := rfl

end Fields

/-- Appends an event to the log. -/
def emit (e : Event) : Proc Unit := modify (·.record e)

/-- `Config::save`, then the `unwrap` or `expect` on its result: when the file system takes the
write (`ok`) the file at `config.configPath` holds `config`; otherwise the process panics with
`message`. -/
def save (ok : Bool) (message : String) (config : Config) : Proc Unit :=
  if ok then modify (·.saved config) else throw (.panic message)

/-- Modelled from the spec: `Config::read_from_file(path)` reads the store saved at `path`; the
file holds the cards and the global options, and the path is the one it was read from. -/
def readFromFile (w : World) (path : String) : Option Config :=
  (w.files path).map fun c => { c with configPath := path }

/-- `fs::remove_file(SOCK_PATH).expect("Failed to remove socket")`. -/
def removeSocket : Proc Unit := do
  let w ← get
  if w.socket then set { w.record .removeSocket with socket := false }
  else throw (.panic "Failed to remove socket")

/-- `stream.write_all(..).expect("Failed writing response")`: `delivered` is whether the client's
stream took the bytes. -/
def respond (delivered : Bool) (response : Response) : Proc Unit := do
  emit (.respond response)
  if delivered then pure () else throw (.panic "Failed writing response")

@[simp] theorem emit_run (e : Event) (w : World) : (emit e).run w = .ok () (w.record e) := rfl

theorem save_run (ok : Bool) (message : String) (config : Config) (w : World) :
    (save ok message config).run w =
      if ok then .ok () (w.saved config) else .error (.panic message) w := by
  cases ok <;> rfl

theorem removeSocket_run (w : World) :
    removeSocket.run w =
      if w.socket then .ok () { w.record .removeSocket with socket := false }
      else .error (.panic "Failed to remove socket") w := by
  cases h : w.socket <;> simp [removeSocket, h]

theorem respond_run (delivered : Bool) (response : Response) (w : World) :
    (respond delivered response).run w =
      if delivered then .ok () (w.record (.respond response))
      else .error (.panic "Failed writing response") (w.record (.respond response)) := by
  cases delivered <;> rfl

end Lact
