import Lact.Listen

/-! Every way a connection ends the process.  `handle_connection` unwraps the read of the stream,
the saves of the mutating arms and, in `Shutdown`, the config entry of each controller; it
`expect`s the save of `SetConfig`, the write of the response and the removal of the socket;
`SetConfig`'s walk of `/sys/class/drm` panics on a listing it cannot read and on a name
`split_at(4)` cannot cut; and `Shutdown` calls `exit(0)`.  From every state of a daemon the entry
of each controller is there, so a connection ends the process only through `Shutdown`, through a
read, listing, save or write the system refuses, or, with two or more controllers, at the second
removal of the socket. -/

namespace Lact

section Arms

variable {env : Env} {d : Daemon} {w w' : World} {e : Stop}

/-- A mutating arm ends the process only when the save after a call that went through fails. -/
theorem mutate_stop {i : UInt32} {op : ControllerCall} {err : DaemonError}
    (h : (mutate env d i op err).run w = .error e w') :
    env.saveOk = false ∧ e = .panic unwrapErr := by
  rcases hl : d.gpuControllers.lookup i with _ | c
  · simp [mutate, hl] at h
  rw [mutate_run hl] at h
  cases hgo : op.goesThrough env.hw c
  · rw [GpuController.call_refused env.hw op c w hgo] at h
    simp at h
  · rw [GpuController.call_done env.hw op c w hgo] at h
    cases hs : env.saveOk <;> simp only [hs, Option.isSome_some, if_true, Bool.false_eq_true,
      if_false, EStateM.Result.error.injEq, reduceCtorEq] at h
    exact ⟨rfl, h.1.symm⟩

theorem query_no_stop {i : UInt32} {op : ControllerCall} :
    (query env d i op).run w ≠ .error e w' := by
  rcases hl : d.gpuControllers.lookup i with _ | c
  · simp [query, hl]
  rw [query_run hl]
  split <;> simp

/-- `SetConfig` ends the process where its walk of `/sys/class/drm` panics, or when its save
fails. -/
theorem setConfig_stop {config : Config} (h : (setConfig env config).run w = .error e w') :
    (∃ visited message, drmPanic? env = some (visited, message) ∧ e = .panic message) ∨
      (env.saveOk = false ∧ e = .panic "Failed to save config") := by
  rcases hp : drmPanic? env with _ | ⟨visited, message⟩
  · rw [setConfig_run config hp] at h
    cases hs : env.saveOk <;> simp only [hs, if_true, Bool.false_eq_true, if_false,
      EStateM.Result.error.injEq, reduceCtorEq] at h
    exact .inr ⟨rfl, h.1.symm⟩
  · rw [setConfig_panic config hp, EStateM.Result.error.injEq] at h
    exact .inl ⟨visited, message, rfl, h.1.symm⟩

/-- From a daemon that holds, `Shutdown` exits with status 0 when there is at most one controller,
and panics at the second removal of the socket otherwise. -/
theorem shutdown_stop (hd : d.Holds w) (h : (shutdown env d).run w = .error e w') :
    (e = .exit 0 ∧ d.gpuControllers.entries.length ≤ 1) ∨
      (e = .panic "Failed to remove socket" ∧ 2 ≤ d.gpuControllers.entries.length) := by
  obtain ⟨hexit, hpanic⟩ := hd.shutdown env
  rcases Nat.lt_or_ge d.gpuControllers.entries.length 2 with hlt | hge
  · obtain ⟨w₁, h₁⟩ := hexit (by omega)
    rw [h, EStateM.Result.error.injEq] at h₁
    exact .inl ⟨h₁.1, by omega⟩
  · obtain ⟨w₁, h₁⟩ := hpanic hge
    rw [h, EStateM.Result.error.injEq] at h₁
    exact .inr ⟨h₁.1, hge⟩

/-- Every way an action ends the process, from a daemon that holds. -/
theorem dispatch_stop {a : Action} (hd : d.Holds w) (h : (dispatch env d a).run w = .error e w') :
    (a = .shutdown ∧ ((e = .exit 0 ∧ d.gpuControllers.entries.length ≤ 1) ∨
      (e = .panic "Failed to remove socket" ∧ 2 ≤ d.gpuControllers.entries.length))) ∨
    ((∃ i op err, a.mutation? = some (i, op, err)) ∧ env.saveOk = false ∧
      e = .panic unwrapErr) ∨
    ((∃ config, a = .setConfig config) ∧
      ((∃ visited message, drmPanic? env = some (visited, message) ∧ e = .panic message) ∨
        (env.saveOk = false ∧ e = .panic "Failed to save config"))) := by
  cases a with
  | checkAlive | getGpus | getConfig => simp [dispatch] at h
  | getInfo i =>
    rcases hl : d.gpuControllers.lookup i with _ | c <;> simp [dispatch, getInfo, hl] at h
  | getStats i | getFanControl i | getPowerCap i => exact absurd h query_no_stop
  | startFanControl i | stopFanControl i | setFanCurve i _ | setPowerCap i _
  | setPowerProfile i _ | setGPUMaxPowerState i _ _ | setVRAMMaxClock i _
  | commitGPUPowerStates i | resetGPUPowerStates i =>
    exact .inr (.inl ⟨⟨_, _, _, rfl⟩, mutate_stop h⟩)
  | shutdown => exact .inl ⟨rfl, shutdown_stop hd h⟩
  | setConfig config => exact .inr (.inr ⟨⟨config, rfl⟩, setConfig_stop h⟩)

end Arms

/-- The sample machine whose listing also holds `carδ`, a five-byte name whose fifth byte is
inside `δ`. -/
def badNameEnv : Env := { sampleEnv with drm := sampleEnv.drm ++ [⟨"carδ", ⟨sampleId, none⟩⟩] }

/-- From a daemon that holds, a connection whose request can be read and is not `Shutdown`
returns when the system takes every save and every write and, for `SetConfig`, the walk of
`/sys/class/drm` meets no fault. -/
theorem handleConnection_returns {env : Env} {d : Daemon} {w : World} {req : Request}
    (hd : d.Holds w) (hsave : env.saveOk = true) (hdel : env.delivered = true)
    (hu : req ≠ .unreadable) (hs : req ≠ .action .shutdown)
    (hwalk : ∀ config, req = .action (.setConfig config) → drmPanic? env = none) :
    ∃ d' w', (handleConnection env d req).run w = .ok d' w' := by
  cases req with
  | unreadable => exact absurd rfl hu
  | undecodable => exact ⟨_, _, rfl⟩
  | action a =>
    rw [handleConnection_action_run]
    rcases hx : (dispatch env d a).run w with ⟨⟨d', r⟩, w₁⟩ | ⟨e, w₁⟩
    · exact ⟨d', w₁.record (.respond r), by simp only [hdel, if_true]⟩
    · rcases dispatch_stop hd hx with ⟨rfl, -⟩ | ⟨-, hf, -⟩ | ⟨⟨config, rfl⟩, ⟨_, _, hp, -⟩ | ⟨hf, -⟩⟩
      · exact absurd rfl hs
      · exact nomatch hsave.symm.trans hf
      · exact nomatch (hwalk config rfl).symm.trans hp
      · exact nomatch hsave.symm.trans hf

end Lact
