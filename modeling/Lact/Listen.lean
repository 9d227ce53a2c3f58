import Lact.Live

/-! `Daemon::listen`, and how a daemon process ends.  The loop handles one connection after
another, each against the daemon the last one left, until `incoming()` yields an error, unless a
connection ends the process.  Every state the loop passes through is a state of the daemon
(`Reachable`), so what holds of those holds along the loop.  The process exits with a status
only through `Shutdown`, and then with status 0; `Shutdown` exits exactly when the daemon has at
most one controller, and with one it stops fan control exactly when the controller's thread
runs, before it removes the socket. -/

namespace Lact

/-! ### Computations that never exit -/

/-- A computation that never ends the process through `std::process::exit`: it returns or
panics. -/
def NoExit {α : Type} (p : Proc α) : Prop := ∀ w code w', p.run w ≠ .error (.exit code) w'

section NoExit

variable {α β : Type}

theorem noExit_pure (a : α) : NoExit (pure a : Proc α) := by
  intro _ _ _
  simp

theorem noExit_panic (message : String) : NoExit (throw (.panic message) : Proc α) := by
  intro _ _ _
  simp

theorem noExit_modifyGet (f : World → α × World) : NoExit (modifyGet f) := by
  intro _ _ _
  simp

/-- The walk over `/sys/class/drm` returns or panics. -/
theorem noExit_load (env : Env) (config : Config) : NoExit (loadGpuControllersOrPanic env config) := by
  intro w code w'
  rw [loadGpuControllersOrPanic_run]
  split <;> simp

theorem NoExit.bind {p : Proc α} {f : α → Proc β} (hp : NoExit p) (hf : ∀ a, NoExit (f a)) :
    NoExit (p >>= f) := by
  intro w code w'
  rw [Proc.run_bind]
  cases h : p.run w with
  | ok a w₁ => exact hf a w₁ code w'
  | error e w₁ =>
    rintro ⟨⟩
    exact hp w code w' h

theorem noExit_save (ok : Bool) (message : String) (config : Config) :
    NoExit (save ok message config) := by
  intro w code w'
  rw [save_run]
  split <;> simp

theorem noExit_removeSocket : NoExit removeSocket := by
  intro w code w'
  rw [removeSocket_run]
  split <;> simp

theorem noExit_respond (delivered : Bool) (response : Response) :
    NoExit (respond delivered response) := by
  intro w code w'
  rw [respond_run]
  split <;> simp

end NoExit

section Arms

variable (env : Env) (d : Daemon)

theorem mutate_noExit (i : UInt32) (op : ControllerCall) (err : DaemonError) :
    NoExit (mutate env d i op err) := by
  unfold mutate
  split
  · exact noExit_pure _
  · refine (noExit_modifyGet _).bind fun (_, r) => ?_
    cases r
    · exact noExit_pure _
    · exact (noExit_save _ _ _).bind fun _ => noExit_pure _

theorem query_noExit (i : UInt32) (op : ControllerCall) : NoExit (query env d i op) := by
  unfold query
  split
  · exact noExit_pure _
  · refine (noExit_modifyGet _).bind fun (_, r) => ?_
    cases r <;> exact noExit_pure _

theorem shutdownLoop_noExit (config : Config) (l : List ((_ : UInt32) × GpuController)) :
    NoExit (shutdownLoop env config l) := by
  induction l with
  | nil => exact noExit_pure _
  | cons e rest ih =>
    refine NoExit.bind ?_ fun _ => ih
    unfold shutdownController
    refine (noExit_modifyGet _).bind fun _ => (noExit_modifyGet _).bind fun _ =>
      (noExit_modifyGet _).bind fun _ => ?_
    dsimp only
    split
    · exact (noExit_panic _).bind fun _ => noExit_removeSocket
    · split
      · exact (noExit_modifyGet _).bind fun _ => (noExit_pure _).bind fun _ => noExit_removeSocket
      · exact (noExit_pure _).bind fun _ => noExit_removeSocket

/-- `Shutdown` exits only with status 0. -/
theorem shutdown_exit {w w' : World} {code : Int}
    (h : (shutdown env d).run w = .error (.exit code) w') : code = 0 := by
  simp only [shutdown, Proc.run_bind, Proc.run_throw] at h
  have hloop := shutdownLoop_noExit env d.config (env.controllerOrder.visit d.gpuControllers) w
    code w'
  rcases hx : (shutdownLoop env d.config (env.controllerOrder.visit d.gpuControllers)).run w with
    ⟨_, w₁⟩ | ⟨e, w₁⟩ <;> rw [hx] at h hloop
  · cases h
    rfl
  · simp only [EStateM.Result.error.injEq] at h
    obtain ⟨rfl, rfl⟩ := h
    exact absurd rfl hloop

/-- `Shutdown` as a whole connection ends as the `Shutdown` arm does: it never returns to
respond. -/
theorem handleConnection_shutdown_run (w : World) :
    ∃ e w', (shutdown env d).run w = .error e w' ∧
      (handleConnection env d (.action .shutdown)).run w = .error e w' := by
  rw [handleConnection_action_run]
  simp only [dispatch]
  rcases hx : (shutdown env d).run w with ⟨⟨d₁, r⟩, w₁⟩ | ⟨e, w₁⟩
  · exact absurd hx shutdown_not_ok
  · exact ⟨e, w₁, rfl, rfl⟩

/-- Every action but `Shutdown` returns or panics. -/
theorem dispatch_noExit {a : Action} (ha : a ≠ .shutdown) : NoExit (dispatch env d a) := by
  cases a with
  | shutdown => exact absurd rfl ha
  | checkAlive | getGpus | getConfig => exact noExit_pure _
  | getInfo i =>
    show NoExit (getInfo d i)
    unfold getInfo
    split <;> exact noExit_pure _
  | getStats i | getFanControl i | getPowerCap i => exact query_noExit env d i _
  | startFanControl i | stopFanControl i | setFanCurve i _ | setPowerCap i _
  | setPowerProfile i _ | setGPUMaxPowerState i _ _ | setVRAMMaxClock i _
  | commitGPUPowerStates i | resetGPUPowerStates i => exact mutate_noExit env d i _ _
  | setConfig config =>
    exact (noExit_load _ _).bind fun _ => (noExit_save _ _ _).bind fun _ => noExit_pure _

/-- Only `Shutdown` exits, and with status 0. -/
theorem handleConnection_exit {req : Request} {w w' : World} {code : Int}
    (h : (handleConnection env d req).run w = .error (.exit code) w') :
    req = .action .shutdown ∧ code = 0 := by
  cases req with
  | unreadable => simp [handleConnection] at h
  | undecodable => simp [handleConnection] at h
  | action a =>
    by_cases ha : a = .shutdown
    · subst ha
      obtain ⟨e, w₁, hs, hh⟩ := handleConnection_shutdown_run env d w
      rw [hh] at h
      cases h
      exact ⟨rfl, shutdown_exit env d hs⟩
    · exact absurd h (((dispatch_noExit env d ha).bind fun (_, r) =>
        (noExit_respond _ r).bind fun _ => noExit_pure _) w code w')

end Arms

/-! ### The loop -/

/-- `Daemon::listen`: the connections `incoming()` yields, in order and as far as the run is
followed, each with the surroundings it meets; `none` is an `Err`, on which the loop ends. -/
def Daemon.listen (d : Daemon) : List (Option (Env × Request)) → Proc Unit
  | [] => pure ()
  | none :: _ => pure ()
  | some (env, req) :: rest => do
    let d ← handleConnection env d req
    d.listen rest

/-- Every run of the loop from a state of the daemon ends, after the connections it handled, in
a state of the daemon, or with a connection that ended the process from one. -/
theorem Reachable.listen {unprivileged : Bool} {reqs : List Request} {d : Daemon} {w : World}
    (hr : Reachable unprivileged reqs d w) (conns : List (Option (Env × Request))) :
    (∃ reqs' d' w', Reachable unprivileged (reqs ++ reqs') d' w' ∧
      (d.listen conns).run w = .ok () w') ∨
    (∃ reqs' d' w' env req e w'', Reachable unprivileged (reqs ++ reqs') d' w' ∧
      (handleConnection env d' req).run w' = .error e w'' ∧
      (d.listen conns).run w = .error e w'') := by
  induction conns generalizing reqs d w with
  | nil => exact .inl ⟨[], d, w, by rwa [List.append_nil], rfl⟩
  | cons conn rest ih =>
    rcases conn with _ | ⟨env, req⟩
    · exact .inl ⟨[], d, w, by rwa [List.append_nil], rfl⟩
    rcases hx : (handleConnection env d req).run w with ⟨d₁, w₁⟩ | ⟨e, w₁⟩
    · have hrun : (d.listen (some (env, req) :: rest)).run w = (d₁.listen rest).run w₁ := by
        simp [Daemon.listen, hx]
      rw [hrun]
      rcases ih (hr.handle hx) with ⟨reqs', d', w', hr', h⟩ |
        ⟨reqs', d', w', env', req', e, w'', hr', h, h'⟩
      · exact .inl ⟨req :: reqs', d', w', by simpa using hr', h⟩
      · exact .inr ⟨req :: reqs', d', w', env', req', e, w'', by simpa using hr', h, h'⟩
    · exact .inr ⟨[], d, w, env, req, e, w₁, by rwa [List.append_nil], hx,
        by simp [Daemon.listen, hx]⟩

/-! ### How the process ends -/

/-- From a daemon that holds, `Shutdown` exits with status 0 when the daemon has at most one
controller, and panics at the second removal of the socket otherwise. -/
theorem Daemon.Holds.shutdown {d : Daemon} {w : World} (hd : d.Holds w) (env : Env) :
    (d.gpuControllers.entries.length ≤ 1 → ∃ w', (shutdown env d).run w = .error (.exit 0) w') ∧
    (2 ≤ d.gpuControllers.entries.length →
      ∃ w', (shutdown env d).run w = .error (.panic "Failed to remove socket") w') := by
  refine ⟨fun hle => ?_, shutdown_two_panics env w hd.synced.consistent⟩
  rcases hent : d.gpuControllers.entries with _ | ⟨⟨i, c⟩, _ | ⟨e, rest⟩⟩
  · exact ⟨w, shutdown_empty env w hent⟩
  · obtain ⟨g, w', -, hrun, -⟩ := shutdown_single env w hd.synced.consistent hent hd.socket
    exact ⟨w', hrun⟩
  · rw [hent] at hle
    simp at hle

/-- From a daemon that holds, `Shutdown` exits only when the daemon has at most one
controller. -/
theorem length_le_of_shutdown_exit {d : Daemon} {w w' : World} (hd : d.Holds w) {env : Env}
    {code : Int} (h : (shutdown env d).run w = .error (.exit code) w') :
    d.gpuControllers.entries.length ≤ 1 := by
  by_contra hlt
  obtain ⟨w₁, hw₁⟩ := (hd.shutdown env).2 (by omega)
  rw [h] at hw₁
  cases hw₁

/-- From every state of a daemon, `Shutdown` ends the process with `exit(0)` exactly when the
daemon has at most one controller; with two or more it panics at the second removal of the
socket. -/
theorem shutdown_exits_iff_at_most_one {unprivileged : Bool} {reqs : List Request} {d : Daemon}
    {w : World} (hr : Reachable unprivileged reqs d w) (env : Env) :
    ((∃ w', (handleConnection env d (.action .shutdown)).run w = .error (.exit 0) w') ↔
      d.gpuControllers.entries.length ≤ 1) ∧
    (2 ≤ d.gpuControllers.entries.length →
      ∃ w', (handleConnection env d (.action .shutdown)).run w =
        .error (.panic "Failed to remove socket") w') := by
  have hd := hr.holds
  obtain ⟨e, w₁, hs, hh⟩ := handleConnection_shutdown_run env d w
  obtain ⟨hexit, hpanic⟩ := hd.shutdown env
  simp only [hs, hh, EStateM.Result.error.injEq, exists_and_left, exists_eq', and_true]
    at hexit hpanic ⊢
  exact ⟨⟨fun he => length_le_of_shutdown_exit hd (he ▸ hs), hexit⟩, hpanic⟩

theorem shutdown_exits_iff_at_most_one_sample :
    Reachable false [] sampleDaemon sampleBooted ∧
      (((∃ w', (handleConnection sampleEnv sampleDaemon (.action .shutdown)).run sampleBooted =
          .error (.exit 0) w') ↔ sampleDaemon.gpuControllers.entries.length ≤ 1) ∧
        (2 ≤ sampleDaemon.gpuControllers.entries.length →
          ∃ w', (handleConnection sampleEnv sampleDaemon (.action .shutdown)).run sampleBooted =
            .error (.panic "Failed to remove socket") w')) :=
  ⟨sample_reachable, shutdown_exits_iff_at_most_one sample_reachable sampleEnv⟩

/-- From every state of a daemon with one controller, `Shutdown` resets the controller's staged
clock edits, commits the reset, restores the automatic power profile, stops fan control exactly
when the controller's fan-control thread runs, and only then removes the socket and exits with
status 0. -/
theorem shutdown_one_card_stops_running_fan {unprivileged : Bool} {reqs : List Request}
    {d : Daemon} {w : World} (hr : Reachable unprivileged reqs d w) (env : Env) {i : UInt32}
    {c : GpuController} (hone : d.gpuControllers.entries = [⟨i, c⟩]) :
    ∃ w', (handleConnection env d (.action .shutdown)).run w = .error (.exit 0) w' ∧
      w'.log = w.log ++ (shutdownCalls (decide (∃ l ∈ w.fanLoops, l.owner = c.serial))).map
        (.call c.serial) ++ [.removeSocket] := by
  have hd := hr.holds
  obtain ⟨g, w', hg, hrun, -, hlog⟩ := shutdown_single env w hd.synced.consistent hone hd.socket
  have hc : d.gpuControllers.lookup i = some c := by
    rw [← Option.mem_def, AList.mem_lookup_iff, hone]
    exact List.mem_singleton_self _
  rw [hd.synced i c hc, Option.some_inj, Prod.mk.injEq] at hg
  have hfan : decide (∃ l ∈ w.fanLoops, l.owner = c.serial) = g.fanControlEnabled := by
    rw [Bool.eq_iff_iff, decide_eq_true_iff, hd.live.running i c hc, hg.2]
  obtain ⟨e, w₁, hs, hh⟩ := handleConnection_shutdown_run env d w
  rw [hrun] at hs
  cases hs
  exact ⟨w', hh, hfan ▸ hlog⟩

theorem shutdown_one_card_stops_running_fan_sample :
    Reachable false [] sampleDaemon sampleBooted ∧
      sampleDaemon.gpuControllers.entries = [⟨7, sampleController⟩] ∧
      ∃ w', (handleConnection sampleEnv sampleDaemon (.action .shutdown)).run sampleBooted =
          .error (.exit 0) w' ∧
        w'.log = sampleBooted.log ++ (shutdownCalls (decide (∃ l ∈ sampleBooted.fanLoops,
          l.owner = sampleController.serial))).map (.call sampleController.serial) ++
          [.removeSocket] :=
  ⟨sample_reachable, rfl, shutdown_one_card_stops_running_fan sample_reachable sampleEnv rfl⟩

/-- However `listen` runs from a state of a daemon, whatever the connections, the clients send,
the cards answer and `random()` returns, the process ends with an exit status only through a
`Shutdown` request to a daemon with at most one controller, and the status is 0. -/
theorem listen_exits_only_by_shutdown {unprivileged : Bool} {reqs : List Request} {d : Daemon}
    {w : World} (hr : Reachable unprivileged reqs d w) (conns : List (Option (Env × Request)))
    {code : Int} {w' : World} (h : (d.listen conns).run w = .error (.exit code) w') :
    code = 0 ∧ ∃ reqs' d' w₀ env, Reachable unprivileged (reqs ++ reqs') d' w₀ ∧
      d'.gpuControllers.entries.length ≤ 1 ∧
      (handleConnection env d' (.action .shutdown)).run w₀ = .error (.exit 0) w' := by
  rcases hr.listen conns with ⟨_, _, _, _, hok⟩ | ⟨reqs', d', w₀, env, req, e, w'', hr', hx, herr⟩
  · rw [hok] at h
    cases h
  rw [h] at herr
  cases herr
  obtain ⟨rfl, rfl⟩ := handleConnection_exit env d' hx
  refine ⟨rfl, reqs', d', w₀, env, hr', ?_, hx⟩
  obtain ⟨e, w₁, hs, hh⟩ := handleConnection_shutdown_run env d' w₀
  rw [hx] at hh
  cases hh
  exact length_le_of_shutdown_exit hr'.holds hs

theorem listen_exits_only_by_shutdown_sample :
    ∃ w', Reachable false [] sampleDaemon sampleBooted ∧
      (sampleDaemon.listen [some (sampleEnv, .action .shutdown)]).run sampleBooted =
        .error (.exit 0) w' ∧
      ((0 : Int) = 0 ∧ ∃ reqs' d' w₀ env, Reachable false ([] ++ reqs') d' w₀ ∧
        d'.gpuControllers.entries.length ≤ 1 ∧
        (handleConnection env d' (.action .shutdown)).run w₀ = .error (.exit 0) w') :=
  have hrun : (sampleDaemon.listen [some (sampleEnv, .action .shutdown)]).run sampleBooted =
      .error (.exit 0) _ := rfl
  ⟨_, sample_reachable, hrun, listen_exits_only_by_shutdown sample_reachable _ hrun⟩

end Lact
