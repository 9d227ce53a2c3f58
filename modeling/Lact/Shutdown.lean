import Lact.Dispatch

/-! The `Shutdown` arm.  Its loop runs, for each controller, reset, commit, the automatic profile
and, when the stored settings enable it, the stop of fan control, and then removes the socket:
the removal sits inside the loop.  So with no controller the process exits without removing the
socket, with one it removes it once and exits with status 0, and with two or more the second
removal finds no file and the `expect` panics.  The `unwrap` of the stored settings cannot panic
when every controller's handle is a key of the config. -/

namespace Lact

/-- The methods the `Shutdown` loop calls on one controller, in order. -/
def shutdownCalls (stopFan : Bool) : List ControllerCall :=
  [.resetGpuPowerStates, .commitGpuPowerStates, .setPowerProfile .auto] ++
    if stopFan then [.stopFanControl] else []

section Loop

variable (env : Env) {config : Config} {id : UInt32} (c : GpuController) (w : World)

/-- The calls on one controller run whatever their results, each logged on that controller. -/
theorem shutdownController_run {i : GpuIdentifier} {g : GpuConfig}
    (h : config.gpuConfigs.lookup id = some (i, g)) :
    ∃ w₁, w₁.log = w.log ++ (shutdownCalls g.fanControlEnabled).map (.call c.serial) ∧
      w₁.socket = w.socket ∧ (shutdownController env config id c).run w = removeSocket.run w₁ := by
  cases hg : g.fanControlEnabled <;> simp only [shutdownController, h, hg, Proc.run_bind,
    Proc.run_modifyGet, if_true, Bool.false_eq_true, if_false, Proc.run_pure] <;>
    exact ⟨_, by simp [shutdownCalls, hg], by simp, rfl⟩

/-- With the socket in place, one controller's turn ends with the socket removed. -/
theorem shutdownController_removes {i : GpuIdentifier} {g : GpuConfig}
    (h : config.gpuConfigs.lookup id = some (i, g)) (hs : w.socket = true) :
    ∃ w', (shutdownController env config id c).run w = .ok () w' ∧ w'.socket = false ∧
      w'.log = w.log ++ (shutdownCalls g.fanControlEnabled).map (.call c.serial) ++
        [.removeSocket] := by
  obtain ⟨w₁, hlog, hsock, hrun⟩ := shutdownController_run env c w h
  exact ⟨_, by rw [hrun, removeSocket_run, if_pos (hsock.trans hs)], rfl, by simp [hlog]⟩

/-- With the socket gone, one controller's turn panics at the removal. -/
theorem shutdownController_panics {i : GpuIdentifier} {g : GpuConfig}
    (h : config.gpuConfigs.lookup id = some (i, g)) (hs : w.socket = false) :
    ∃ w', (shutdownController env config id c).run w = .error (.panic "Failed to remove socket") w' := by
  obtain ⟨w₁, -, hsock, hrun⟩ := shutdownController_run env c w h
  exact ⟨w₁, by rw [hrun, removeSocket_run, if_neg (by simp [hsock, hs])]⟩

/-- Each turn of the loop either carries on or ends in the socket's `expect`. -/
theorem shutdownController_cases {i : GpuIdentifier} {g : GpuConfig}
    (h : config.gpuConfigs.lookup id = some (i, g)) :
    (∃ w', (shutdownController env config id c).run w = .ok () w') ∨
    (∃ w', (shutdownController env config id c).run w =
      .error (.panic "Failed to remove socket") w') := by
  cases hs : w.socket
  · exact .inr (shutdownController_panics env c w h hs)
  · obtain ⟨w', hrun, -⟩ := shutdownController_removes env c w h hs
    exact .inl ⟨w', hrun⟩

end Loop

/-- When every controller's handle is a key of the config, the `unwrap` in the `Shutdown` loop
never panics. -/
theorem shutdownLoop_no_unwrap (env : Env) (config : Config) (w : World)
    (l : List ((_ : UInt32) × GpuController))
    (hl : ∀ e ∈ l, ∃ v, config.gpuConfigs.lookup e.1 = some v) (w' : World) :
    (shutdownLoop env config l).run w ≠ .error (.panic unwrapNone) w' := by
  induction l generalizing w with
  | nil => simp [shutdownLoop]
  | cons e rest ih =>
    obtain ⟨⟨i, g⟩, hv⟩ := hl e (List.mem_cons_self _ _)
    have hrest : ∀ e ∈ rest, ∃ v, config.gpuConfigs.lookup e.1 = some v :=
      fun e he => hl e (List.mem_cons_of_mem _ he)
    simp only [shutdownLoop, Proc.run_bind]
    rcases shutdownController_cases env e.2 w hv with
      ⟨w₁, hrun⟩ | ⟨w₁, hrun⟩ <;> rw [hrun]
    · exact ih w₁ hrest
    · simp [unwrapNone]

/-- The whole `Shutdown` arm never panics in the `unwrap` when every controller's handle is a key
of the config. -/
theorem shutdown_no_unwrap (env : Env) {d : Daemon} (hd : Consistent d.gpuControllers d.config)
    (w w' : World) : (shutdown env d).run w ≠ .error (.panic unwrapNone) w' := by
  have hl : ∀ e ∈ env.controllerOrder.visit d.gpuControllers,
      ∃ v, d.config.gpuConfigs.lookup e.1 = some v := fun e he => by
    obtain ⟨g, hg⟩ := hd e.1 e.2 (env.controllerOrder.mem_visit.mp he)
    exact ⟨_, hg⟩
  have hloop := shutdownLoop_no_unwrap env d.config w _ hl w'
  simp only [shutdown, Proc.run_bind, Proc.run_throw]
  rcases hx : (shutdownLoop env d.config (env.controllerOrder.visit d.gpuControllers)).run w with
    ⟨_, w₁⟩ | ⟨e, w₁⟩
  · simp
  · simpa [hx] using hloop

/-! ### The socket -/

section Socket

variable (env : Env) {d : Daemon} (w : World)

/-- With no controller, `Shutdown` exits with status 0 and leaves the socket file in place. -/
theorem shutdown_empty (h : d.gpuControllers.entries = []) :
    (shutdown env d).run w = .error (.exit 0) w := by
  have hv : env.controllerOrder.visit d.gpuControllers = [] :=
    List.Perm.eq_nil ((env.controllerOrder.perm _).trans (h ▸ List.Perm.refl _))
  simp [shutdown, hv, shutdownLoop]

/-- With one controller and the socket in place, `Shutdown` runs the calls on it, removes the
socket once, and exits with status 0. -/
theorem shutdown_single (hd : Consistent d.gpuControllers d.config) {id : UInt32}
    {c : GpuController} (h : d.gpuControllers.entries = [⟨id, c⟩]) (hs : w.socket = true) :
    ∃ g w', d.config.gpuConfigs.lookup id = some (c.identifier, g) ∧
      (shutdown env d).run w = .error (.exit 0) w' ∧ w'.socket = false ∧
      w'.log = w.log ++ (shutdownCalls g.fanControlEnabled).map (.call c.serial) ++
        [.removeSocket] := by
  have hv : env.controllerOrder.visit d.gpuControllers = [⟨id, c⟩] :=
    List.perm_singleton.mp ((env.controllerOrder.perm _).trans (h ▸ List.Perm.refl _))
  obtain ⟨g, hg⟩ := hd id c
    (Option.mem_def.mp (AList.mem_lookup_iff.mpr (by rw [h]; exact List.mem_singleton_self _)))
  obtain ⟨w', hrun, hsock, hlog⟩ :=
    shutdownController_removes env c w hg hs
  exact ⟨g, w', hg, by simp [shutdown, hv, shutdownLoop, hrun], hsock, hlog⟩

/-- With two or more controllers whose handles are keys of the config, `Shutdown` never exits:
the socket removal of the second turn, or of the first if the socket was already gone, panics. -/
theorem shutdown_two_panics (hd : Consistent d.gpuControllers d.config)
    (h2 : 2 ≤ d.gpuControllers.entries.length) :
    ∃ w', (shutdown env d).run w = .error (.panic "Failed to remove socket") w' := by
  have hlen := (env.controllerOrder.perm d.gpuControllers).length_eq
  have hkey : ∀ e ∈ env.controllerOrder.visit d.gpuControllers,
      ∃ g, d.config.gpuConfigs.lookup e.1 = some (e.2.identifier, g) :=
    fun e he => hd e.1 e.2 (env.controllerOrder.mem_visit.mp he)
  rcases hv : env.controllerOrder.visit d.gpuControllers with _ | ⟨e₁, _ | ⟨e₂, rest⟩⟩ <;>
    rw [hv] at hlen hkey <;> simp only [List.length_nil, List.length_cons] at hlen
  · omega
  · omega
  obtain ⟨g₁, h₁⟩ := hkey e₁ (List.mem_cons_self _ _)
  obtain ⟨g₂, h₂⟩ := hkey e₂ (List.mem_cons_of_mem _ (List.mem_cons_self _ _))
  simp only [shutdown, hv, shutdownLoop, Proc.run_bind]
  cases hs : w.socket
  · obtain ⟨w', hrun⟩ := shutdownController_panics env e₁.2 w h₁ hs
    exact ⟨w', by simp [hrun]⟩
  · obtain ⟨w₁, hrun₁, hs₁, -⟩ := shutdownController_removes env e₁.2 w h₁ hs
    obtain ⟨w', hrun₂⟩ := shutdownController_panics env e₂.2 w₁ h₂ hs₁
    exact ⟨w', by simp [hrun₁, hrun₂]⟩

end Socket

/-- On the machine with two cards, the privileged daemon `Daemon::new` starts answers `Shutdown`
with a panic at the second removal of the socket, not with `exit(0)`. -/
theorem shutdown_two_cards :
    ∃ d w w', (Daemon.new twoCardEnv false).run bareWorld = .ok d w ∧
      d.gpuControllers.entries.length = 2 ∧
      (handleConnection twoCardEnv d (.action .shutdown)).run w =
        .error (.panic "Failed to remove socket") w' :=
  ⟨_, _, _, rfl, rfl, rfl⟩

end Lact
