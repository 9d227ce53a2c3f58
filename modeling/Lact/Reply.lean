import Lact.Dispatch

/-! What a connection writes back to its client.  `handle_connection` writes the arm's response
once, after the arm has run, and no arm writes to the stream itself.  So every connection writes
back at most one response: a request that cannot be decoded gets none (the daemon prints a line
instead), `Shutdown` gets none (the process ends first), and a connection after which the daemon
carries on has written exactly the response its arm returned, as its last event. -/

namespace Lact

/-- The response an event wrote back to a client. -/
def Event.response? : Event → Option Response
  | .respond r => some r
  | _ => none

/-- The responses written back to clients, in order. -/
def responses (log : List Event) : List Response := log.filterMap Event.response?

@[simp] theorem responses_append (log log' : List Event) :
    responses (log ++ log') = responses log ++ responses log' :=
  List.filterMap_append _ _ _

theorem responses_record {w : World} {e : Event} (he : e.response? = none) :
    responses (w.record e).log = responses w.log := by
  simp [responses, he]

/-- A computation that writes nothing back to a client, however it ends. -/
def Quiet {α : Type} (p : Proc α) : Prop :=
  ∀ w, responses (worldOf (p.run w)).log = responses w.log

section Quiet

variable {α β : Type}

theorem quiet_pure (a : α) : Quiet (pure a : Proc α) := fun _ => rfl

theorem quiet_throw (e : Stop) : Quiet (throw e : Proc α) := fun _ => rfl

theorem Quiet.bind {p : Proc α} {f : α → Proc β} (hp : Quiet p) (hf : ∀ a, Quiet (f a)) :
    Quiet (p >>= f) := by
  intro w
  have hw := hp w
  rw [Proc.run_bind]
  cases h : p.run w with
  | ok a w₁ =>
    rw [h] at hw
    exact (hf a w₁).trans hw
  | error e w₁ =>
    rw [h] at hw
    exact hw

theorem quiet_call (hw : Hardware) (op : ControllerCall) (c : GpuController) :
    Quiet (modifyGet (c.call hw op)) := fun w => by
  simp [responses, Event.response?]

/-- Building controllers writes no response. -/
theorem World.Frame.responses_eq {w w' : World} (h : World.Frame w w') :
    responses w'.log = responses w.log := by
  obtain ⟨es, hl, hb⟩ := h.log
  have hnone : responses es = [] :=
    List.filterMap_eq_nil_iff.mpr fun e he => by cases e <;> first | rfl | exact (hb _ he).elim
  rw [hl, responses_append, hnone, List.append_nil]

theorem quiet_load (env : Env) (config : Config) : Quiet (loadGpuControllersOrPanic env config) :=
  fun w => (loadGpuControllersOrPanic_frame env config w).responses_eq

theorem quiet_save (ok : Bool) (message : String) (config : Config) :
    Quiet (save ok message config) := fun w => by
  rw [save_run]
  split <;> simp [responses, Event.response?]

theorem quiet_removeSocket : Quiet removeSocket := fun w => by
  rw [removeSocket_run]
  split
  · exact responses_record rfl
  · rfl

end Quiet

/-! ### No arm writes back -/

section Arms

variable (env : Env) (d : Daemon)

theorem mutate_quiet (i : UInt32) (op : ControllerCall) (err : DaemonError) :
    Quiet (mutate env d i op err) := by
  unfold mutate
  split
  · exact quiet_pure _
  · refine (quiet_call _ _ _).bind fun (_, r) => ?_
    cases r
    · exact quiet_pure _
    · exact (quiet_save _ _ _).bind fun _ => quiet_pure _

theorem query_quiet (i : UInt32) (op : ControllerCall) : Quiet (query env d i op) := by
  unfold query
  split
  · exact quiet_pure _
  · refine (quiet_call _ _ _).bind fun (_, r) => ?_
    cases r <;> exact quiet_pure _

theorem shutdownController_quiet (config : Config) (id : UInt32) (c : GpuController) :
    Quiet (shutdownController env config id c) := by
  unfold shutdownController
  refine (quiet_call _ _ _).bind fun _ => (quiet_call _ _ _).bind fun _ =>
    (quiet_call _ _ _).bind fun _ => ?_
  dsimp only
  split
  · exact (quiet_throw _).bind fun _ => quiet_removeSocket
  · split
    · exact (quiet_call _ _ _).bind fun _ => (quiet_pure _).bind fun _ => quiet_removeSocket
    · exact (quiet_pure _).bind fun _ => quiet_removeSocket

theorem shutdown_quiet : Quiet (shutdown env d) := by
  have loop : ∀ l, Quiet (shutdownLoop env d.config l) := by
    intro l
    induction l with
    | nil => exact quiet_pure _
    | cons e rest ih => exact (shutdownController_quiet env _ _ _).bind fun _ => ih
  exact (loop _).bind fun _ => quiet_throw _

theorem dispatch_quiet (a : Action) : Quiet (dispatch env d a) := by
  cases a with
  | checkAlive | getGpus | getConfig => exact quiet_pure _
  | getInfo i =>
    show Quiet (getInfo d i)
    unfold getInfo
    split <;> exact quiet_pure _
  | getStats i | getFanControl i | getPowerCap i => exact query_quiet env d i _
  | startFanControl i | stopFanControl i | setFanCurve i _ | setPowerCap i _
  | setPowerProfile i _ | setGPUMaxPowerState i _ _ | setVRAMMaxClock i _
  | commitGPUPowerStates i | resetGPUPowerStates i => exact mutate_quiet env d i _ _
  | shutdown => exact shutdown_quiet env d
  | setConfig config =>
    exact (quiet_load _ _).bind fun _ => (quiet_save _ _ _).bind fun _ => quiet_pure _

end Arms

/-- The responses a connection that carries an action writes back: the arm's response when the
arm returns, none when it ends the process. -/
theorem responses_action (env : Env) (d : Daemon) (a : Action) (w : World) :
    responses (worldOf ((handleConnection env d (.action a)).run w)).log =
      responses w.log ++ match (dispatch env d a).run w with
        | .ok (_, r) _ => [r]
        | .error _ _ => [] := by
  have hq := dispatch_quiet env d a w
  rw [handleConnection_action_run]
  rcases hx : (dispatch env d a).run w with ⟨⟨d', r⟩, w₁⟩ | ⟨e, w₁⟩ <;>
    simp only [hx, worldOf_ok, worldOf_error] at hq ⊢
  · split <;> simp only [worldOf_ok, worldOf_error, World.record_log, responses_append, hq] <;> rfl
  · simp [hq]

/-- Every connection, however it ends, writes back at most one response, and only to a decoded
action other than `Shutdown`: a request that cannot be decoded and `Shutdown` get none.  A
connection after which the daemon carries on has written exactly the response its arm returned,
as its last event. -/
theorem connection_answers_at_most_once (env : Env) (d : Daemon) (req : Request) (w : World) :
    (∃ rs, responses (worldOf ((handleConnection env d req).run w)).log = responses w.log ++ rs ∧
      rs.length ≤ 1 ∧ (rs ≠ [] → ∃ a, req = .action a ∧ a ≠ .shutdown)) ∧
    ∀ a d' w', req = .action a → (handleConnection env d req).run w = .ok d' w' →
      ∃ r w₁, (dispatch env d a).run w = .ok (d', r) w₁ ∧ responses w₁.log = responses w.log ∧
        w' = w₁.record (.respond r) := by
  refine ⟨?_, fun a d' w' ha h => ?_⟩
  · cases req with
    | unreadable => exact ⟨[], by simp [handleConnection], by simp, fun h => absurd rfl h⟩
    | undecodable =>
      exact ⟨[], by simp [handleConnection, responses, Event.response?], by simp,
        fun h => absurd rfl h⟩
    | action a =>
      rw [responses_action]
      rcases hx : (dispatch env d a).run w with ⟨⟨d', r⟩, w₁⟩ | ⟨e, w₁⟩
      · refine ⟨[r], rfl, by simp, fun _ => ⟨a, rfl, ?_⟩⟩
        rintro rfl
        exact shutdown_not_ok hx
      · exact ⟨[], rfl, by simp, fun h => absurd rfl h⟩
  · subst ha
    obtain ⟨r, w₁, hx, rfl⟩ := handleConnection_action_ok h
    exact ⟨r, w₁, hx, by simpa only [hx, worldOf_ok] using dispatch_quiet env d a w, rfl⟩

end Lact
