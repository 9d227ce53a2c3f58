import Lact.Reply

/-! What a client is answered, and what a reading request does.  The client matches the
`DaemonResponse` it reads against the variant its action asks for.  Every response a connection
writes back is that variant, for a handle with a controller, or an error of an action that names a
handle: `InvalidID` exactly when no controller is under the handle, and otherwise the error its arm
gives when the card refuses the call.  `Shutdown` is never answered, and the daemon never sends
`ConnectionFailed`.  A request that only reads (`CheckAlive`, `GetConfig`, `GetGpus` and the four
per-device getters) leaves the daemon and the machine as they were, and only adds to the log. -/

namespace Lact

/-- The `DaemonResponse` variant a client matches on for each action: `Ok` for `CheckAlive`,
`SetConfig` and the nine mutating actions, and the variant that carries what a reading action
reads. -/
def Action.expects : Action → DaemonResponse → Bool
  | .checkAlive, .ok | .setConfig _, .ok => true
  | .getConfig, .config _ | .getGpus, .gpus _ | .getInfo _, .gpuInfo _ => true
  | .getStats _, .gpuStats _ | .getFanControl _, .fanControlInfo _ => true
  | .getPowerCap _, .powerCap _ => true
  | a, .ok => a.mutation?.isSome
  | _, _ => false

/-- The error an action is answered when the card refuses its call: `HWMonError` for the three
reading arms, and for a mutating action the error of its arm (`HWMonError` for fan control, the
fan curve and the power cap, `ControllerError` for the power profile, the clocks and the power
states). -/
def Action.refusal? : Action → Option DaemonError
  | .getStats _ | .getFanControl _ | .getPowerCap _ => some .hwMonError
  | a => a.mutation?.map (·.2.2)

/-- Whether `r` is an answer to `a` that daemon `d` may give: the variant `a` asks for, only when
the handle `a` names has a controller, or an error of an action that names a handle, `InvalidID`
when no controller is under it and the arm's refusal otherwise. -/
def Action.answers (a : Action) (d : Daemon) : Response → Bool
  | .ok response => a.expects response && a.handle?.all fun i => (d.gpuControllers.lookup i).isSome
  | .error e => a.handle?.any fun i =>
    if (d.gpuControllers.lookup i).isSome then a.refusal? == some e else e == .invalidID

section Arms

variable {env : Env} {d d' : Daemon} {w w' : World} {r : Response}

/-- A mutating arm that returns answers its action: `Ok`, `InvalidID` with no controller, or the
arm's refusal. -/
theorem mutate_answers {a : Action} {i : UInt32} {op : ControllerCall} {err : DaemonError}
    (hm : a.mutation? = some (i, op, err)) (h : (mutate env d i op err).run w = .ok (d', r) w') :
    a.answers d r = true := by
  have hr : a.refusal? = some err ∧ a.expects .ok = true := by
    cases a <;> simp only [Action.mutation?, reduceCtorEq, Option.some.injEq, Prod.mk.injEq] at hm <;>
      obtain ⟨rfl, rfl, rfl⟩ := hm <;> exact ⟨rfl, rfl⟩
  obtain ⟨hl, -, rfl, -⟩ | ⟨c, hl, ⟨-, -, rfl, -⟩ | ⟨-, -, -, rfl, -⟩⟩ := mutate_ok h <;>
    simp [Action.answers, handle?_of_mutation hm, hr, hl]

/-- Every arm that returns answers its action as `Action.answers` says. -/
theorem dispatch_answers {a : Action} (h : (dispatch env d a).run w = .ok (d', r) w') :
    a.answers d r = true := by
  cases a with
  | checkAlive | getGpus | getConfig =>
    cases h
    rfl
  | getInfo i =>
    change (getInfo d i).run w = _ at h
    rcases hl : d.gpuControllers.lookup i with _ | c <;>
      simp only [getInfo, hl, Proc.run_pure, EStateM.Result.ok.injEq, Prod.mk.injEq] at h <;>
      rw [← h.1.2]
    · simp [Action.answers, Action.handle?, hl]
    · simp only [Action.answers, Action.handle?, hl, Option.all_some, Option.isSome_some,
        Bool.and_true]
      rfl
  | getStats i | getFanControl i | getPowerCap i =>
    obtain ⟨-, ⟨hl, rfl, -⟩ | ⟨c, hl, -, ⟨-, rfl⟩ | ⟨-, rfl⟩⟩⟩ := query_ok h <;>
      simp [Action.answers, Action.handle?, hl] <;> rfl
  | startFanControl i | stopFanControl i | setFanCurve i _ | setPowerCap i _
  | setPowerProfile i _ | setGPUMaxPowerState i _ _ | setVRAMMaxClock i _
  | commitGPUPowerStates i | resetGPUPowerStates i =>
    exact mutate_answers rfl h
  | shutdown => exact absurd h shutdown_not_ok
  | setConfig config =>
    change (setConfig env config).run w = _ at h
    rw [setConfig_run config (setConfig_walks h)] at h
    cases hs : env.saveOk <;> simp only [hs, if_true, Bool.false_eq_true, if_false,
      EStateM.Result.ok.injEq, Prod.mk.injEq, reduceCtorEq] at h
    rw [← h.1.2]
    rfl

end Arms

/-- Every response a connection writes back, whatever the daemon's state, the cards' answers and
the system's, and however the connection ends, is an answer its action may get: the variant the
client matches on, for a handle with a controller, or `InvalidID` exactly when its handle has no
controller, or the error its arm gives when the card refuses the call.  No other action gets an
error, `Shutdown` gets no response, and `ConnectionFailed` is never sent. -/
theorem answer_fits_request (env : Env) (d : Daemon) (a : Action) (w : World) :
    ∃ rs, responses (worldOf ((handleConnection env d (.action a)).run w)).log =
        responses w.log ++ rs ∧ ∀ r ∈ rs, a.answers d r = true := by
  rw [responses_action]
  rcases hx : (dispatch env d a).run w with ⟨⟨d', r⟩, w₁⟩ | ⟨e, w₁⟩
  · exact ⟨[r], rfl, by simpa using dispatch_answers hx⟩
  · exact ⟨[], rfl, by simp⟩

/-! ### Reading requests -/

/-- A request that neither changes a card, nor is `SetConfig` or `Shutdown`, leaves the daemon as
it was and changes nothing on the machine but the log: no file, no thread, not the socket, and no
controller is built. -/
theorem reading_request_changes_only_log {env : Env} {d d' : Daemon} {w w' : World} {a : Action}
    (hm : a.mutation? = none) (hs : a ≠ .shutdown) (hc : ∀ config, a ≠ .setConfig config)
    (h : (handleConnection env d (.action a)).run w = .ok d' w') :
    d' = d ∧ ∃ es, w' = { w with log := w.log ++ es } := by
  obtain ⟨r, w₁, hx, rfl⟩ := handleConnection_action_ok h
  have record : ∀ es, w₁ = { w with log := w.log ++ es } →
      ∃ es', w₁.record (.respond r) = { w with log := w.log ++ es' } := by
    rintro es rfl
    exact ⟨es ++ [.respond r], by simp [World.record]⟩
  cases a with
  | checkAlive | getGpus | getConfig =>
    cases hx
    exact ⟨rfl, record [] (by simp)⟩
  | getInfo i =>
    obtain ⟨rfl, rfl⟩ := getInfo_ok hx
    exact ⟨rfl, record [] (by simp)⟩
  | getStats i | getFanControl i | getPowerCap i =>
    obtain ⟨rfl, ⟨-, -, rfl⟩ | ⟨c, -, rfl, -⟩⟩ := query_ok hx
    · exact ⟨rfl, record [] (by simp)⟩
    · exact ⟨rfl, record [.call c.serial _] (GpuController.call_of_loops_id env.hw _ c w rfl)⟩
  | startFanControl i | stopFanControl i | setFanCurve i _ | setPowerCap i _
  | setPowerProfile i _ | setGPUMaxPowerState i _ _ | setVRAMMaxClock i _
  | commitGPUPowerStates i | resetGPUPowerStates i => simp [Action.mutation?] at hm
  | shutdown => exact absurd rfl hs
  | setConfig config => exact absurd rfl (hc config)

theorem reading_request_changes_only_log_sample :
    ∃ d' w', (handleConnection sampleEnv sampleDaemon (.action (.getStats 7))).run sampleBooted =
        .ok d' w' ∧ d' = sampleDaemon ∧ ∃ es, w' = { sampleBooted with log := sampleBooted.log ++ es } :=
  have hrun : (handleConnection sampleEnv sampleDaemon (.action (.getStats 7))).run sampleBooted =
      .ok _ _ := rfl
  ⟨_, _, hrun, reading_request_changes_only_log (a := .getStats 7) rfl (by decide) (fun _ => by simp) hrun⟩

end Lact
