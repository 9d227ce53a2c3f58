import Lact.Shutdown

/-! What a connection leaves in the files however it ends.  The process may panic or exit after
it saved, and the next `Daemon::new` reads what it saved.  The reading arms and `Shutdown` save
nothing; a mutating arm saves at most the config with the entry of its handle written back;
`SetConfig` saves at most what `load_gpu_controllers` builds from the client's config.  A
`Daemon::new` that does not return has saved nothing. -/

namespace Lact

/-- A computation that saves nothing, however it ends. -/
def SavesNothing {α : Type} (p : Proc α) : Prop := ∀ w, NoSave w (worldOf (p.run w))

section Effects

variable {α β : Type}

theorem savesNothing_pure (a : α) : SavesNothing (pure a : Proc α) := NoSave.refl

theorem savesNothing_throw (e : Stop) : SavesNothing (throw e : Proc α) := NoSave.refl

theorem SavesNothing.bind {p : Proc α} {f : α → Proc β} (hp : SavesNothing p)
    (hf : ∀ a, SavesNothing (f a)) : SavesNothing (p >>= f) := by
  intro w
  have hw := hp w
  rw [Proc.run_bind]
  cases h : p.run w with
  | ok a w₁ =>
    rw [h] at hw
    exact hw.trans (hf a w₁)
  | error e w₁ =>
    rw [h] at hw
    exact hw

theorem savesNothing_call (hw : Hardware) (op : ControllerCall) (c : GpuController) :
    SavesNothing (modifyGet (c.call hw op)) :=
  call_noSave hw op c

theorem savesNothing_removeSocket : SavesNothing removeSocket := fun w => by
  rw [removeSocket_run]
  split
  · exact (NoSave.refl w).record rfl
  · exact NoSave.refl w

end Effects

/-! ### The arms that save nothing -/

theorem shutdownController_savesNothing (env : Env) (config : Config) (id : UInt32)
    (c : GpuController) : SavesNothing (shutdownController env config id c) := by
  unfold shutdownController
  refine (savesNothing_call _ _ _).bind fun _ => (savesNothing_call _ _ _).bind fun _ =>
    (savesNothing_call _ _ _).bind fun _ => ?_
  dsimp only
  split
  · exact (savesNothing_throw _).bind fun _ => savesNothing_removeSocket
  · split
    · exact (savesNothing_call _ _ _).bind fun _ =>
        (savesNothing_pure _).bind fun _ => savesNothing_removeSocket
    · exact (savesNothing_pure _).bind fun _ => savesNothing_removeSocket

theorem shutdown_savesNothing (env : Env) (d : Daemon) : SavesNothing (shutdown env d) := by
  have loop : ∀ l, SavesNothing (shutdownLoop env d.config l) := by
    intro l
    induction l with
    | nil => exact savesNothing_pure _
    | cons e rest ih => exact (shutdownController_savesNothing _ _ _ _).bind fun _ => ih
  exact (loop _).bind fun _ => savesNothing_throw _

theorem query_savesNothing (env : Env) (d : Daemon) (i : UInt32) (op : ControllerCall) :
    SavesNothing (query env d i op) := by
  unfold query
  split
  · exact savesNothing_pure _
  · refine (savesNothing_call _ _ _).bind fun (_, r) => ?_
    cases r <;> exact savesNothing_pure _

theorem getInfo_savesNothing (d : Daemon) (i : UInt32) : SavesNothing (getInfo d i) := by
  unfold getInfo
  split <;> exact savesNothing_pure _

/-! ### What a connection saves -/

/-- What a connection did to the saved configs, however it ended: nothing; saved the config with
the entry of one handle written back with that handle's identifier; or, for `SetConfig config`,
saved what `load_gpu_controllers` builds from `config`. -/
def Stored (env : Env) (d : Daemon) (w : World) (req : Request) (w' : World) : Prop :=
  NoSave w w' ∨
  (∃ (i : UInt32) (c c' : GpuController), d.gpuControllers.lookup i = some c ∧
    c'.identifier = c.identifier ∧ SavedLast w w' (d.config.insert i (c'.identifier, c'.config))) ∨
  (∃ config gc config' w₁, req = .action (.setConfig config) ∧
    loadGpuControllers env config w = ((gc, config'), w₁) ∧ SavedLast w w' config')

section Stored

variable {env : Env} {d : Daemon} {w : World} {req : Request}

theorem Stored.record {w' : World} (h : Stored env d w req w') {e : Event}
    (he : e.saved? = none) : Stored env d w req (w'.record e) := by
  rcases h with h | ⟨i, c, c', h₁, h₂, h₃⟩ | ⟨config, gc, config', w₁, h₁, h₂, h₃⟩
  · exact .inl (h.record he)
  · exact .inr (.inl ⟨i, c, c', h₁, h₂, h₃.record he⟩)
  · exact .inr (.inr ⟨config, gc, config', w₁, h₁, h₂, h₃.record he⟩)

theorem Handled.stored {d' : Daemon} {w' : World} (h : Handled env d w req d' w') :
    Stored env d w req w' := by
  rcases h with ⟨-, h⟩ | ⟨i, c, c', hl, hid, -, ⟨-, h⟩ | ⟨hcfg, h⟩⟩ | ⟨config, w₁, hreq, hl, h⟩
  · exact .inl h
  · exact .inl h
  · exact .inr (.inl ⟨i, c, c', hl, hid, hcfg ▸ h⟩)
  · exact .inr (.inr ⟨config, _, _, w₁, hreq, hl, h⟩)

/-- A mutating arm saves at most the config with its handle's entry written back, however it
ends. -/
theorem mutate_stored (i : UInt32) (op : ControllerCall) (err : DaemonError) :
    Stored env d w req (worldOf ((mutate env d i op err).run w)) := by
  rcases hl : d.gpuControllers.lookup i with _ | c
  · simp only [mutate, hl]
    exact .inl (savesNothing_pure _ w)
  obtain ⟨c', w₁, hid, hw₁, h₁ | h₁ | h₁⟩ := mutate_outcome env op err w hl <;> rw [h₁]
  · exact .inl hw₁
  · exact .inr (.inl ⟨i, c, c', hl, hid, hw₁.saved _⟩)
  · exact .inl hw₁

/-- `SetConfig` saves at most what `load_gpu_controllers` builds from the client's config. -/
theorem setConfig_stored {config : Config} (hreq : req = .action (.setConfig config)) :
    Stored env d w req (worldOf ((setConfig env config).run w)) := by
  rcases hp : drmPanic? env with _ | ⟨visited, message⟩
  · rw [setConfig_run config hp]
    rcases hl : loadGpuControllers env config w with ⟨⟨gc, config'⟩, w₁⟩
    have hf := (loadGpuControllers_frame env config w).1.noSave
    rw [hl] at hf
    cases hs : env.saveOk <;> simp only [hs, if_true, Bool.false_eq_true, if_false, worldOf_ok,
      worldOf_error]
    · exact .inl hf
    · exact .inr (.inr ⟨config, gc, config', w₁, hreq, hl, hf.saved _⟩)
  · rw [setConfig_panic config hp, worldOf_error]
    exact .inl (foldl_loadEntry_frame env _ visited (Loading.init config w)).1.noSave

theorem dispatch_stored (a : Action) :
    Stored env d w (.action a) (worldOf ((dispatch env d a).run w)) := by
  cases a with
  | checkAlive | getGpus | getConfig => exact .inl (savesNothing_pure _ w)
  | getInfo i => exact .inl (getInfo_savesNothing d i w)
  | getStats i | getFanControl i | getPowerCap i => exact .inl (query_savesNothing env d i _ w)
  | startFanControl i | stopFanControl i | setFanCurve i _ | setPowerCap i _
  | setPowerProfile i _ | setGPUMaxPowerState i _ _ | setVRAMMaxClock i _
  | commitGPUPowerStates i | resetGPUPowerStates i => exact mutate_stored i _ _
  | shutdown => exact .inl (shutdown_savesNothing env d w)
  | setConfig config => exact setConfig_stored rfl

/-- What a connection saves, however it ends: a panic or an exit keeps what was saved before
it. -/
theorem handleConnection_stored :
    Stored env d w req (worldOf ((handleConnection env d req).run w)) := by
  cases req with
  | unreadable => exact .inl (NoSave.refl w)
  | undecodable => exact .inl ((NoSave.refl w).record rfl)
  | action a =>
    have h : Stored env d w (.action a) (worldOf ((dispatch env d a).run w)) := dispatch_stored a
    rw [handleConnection_action_run]
    rcases hx : (dispatch env d a).run w with ⟨⟨d₁, r⟩, w₁⟩ | ⟨e, w₁⟩ <;> rw [hx] at h
    · cases env.delivered <;> exact h.record rfl
    · exact h

end Stored

/-- A privileged `Daemon::new` that does not return has saved nothing. -/
theorem Daemon.new_error_files {env : Env} {w w' : World} {e : Stop}
    (h : (Daemon.new env false).run w = .error e w') : w'.files = w.files := by
  simp only [Daemon.new, Proc.run_bind, Proc.run_modify, Proc.run_get] at h
  have hf := loadGpuControllersOrPanic_frame env (Daemon.readConfig false w) { w with socket := true }
  rcases hl : (loadGpuControllersOrPanic env (Daemon.readConfig false w)).run { w with socket := true }
    with ⟨_, w₁⟩ | ⟨_, w₁⟩ <;> rw [hl] at hf <;>
    rw [show Daemon.readConfig false { w with socket := true } = Daemon.readConfig false w from rfl,
      hl] at h
  · cases hs : env.saveOk <;> simp [save_run, hs] at h
    exact h.2 ▸ hf.files
  · exact (EStateM.Result.error.inj h).2 ▸ hf.files

end Lact
