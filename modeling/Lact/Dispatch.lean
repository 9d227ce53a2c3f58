import Lact.Daemon

/-! What each arm of `handle_connection` does, stated once per arm, and from these what a whole
connection can do to the daemon: leave it as it was, change the controller under one handle (and,
when the call went through, write it back into the config and save), or, for `SetConfig`, replace
it by what `load_gpu_controllers` builds from the client's config.  A request that names a handle
with no controller is answered `InvalidID` and changes nothing. -/

namespace Lact

/-- The handle of the thirteen actions that address one card. -/
def Action.handle? : Action → Option UInt32
  | .getInfo i | .getStats i | .startFanControl i | .stopFanControl i | .getFanControl i
  | .setFanCurve i _ | .setPowerCap i _ | .getPowerCap i | .setPowerProfile i _
  | .setGPUMaxPowerState i _ _ | .setVRAMMaxClock i _ | .commitGPUPowerStates i
  | .resetGPUPowerStates i => some i
  | _ => none

/-- The nine actions that change a card: the handle, the controller method and the error of the
arm. -/
def Action.mutation? : Action → Option (UInt32 × ControllerCall × DaemonError)
  | .startFanControl i => some (i, .startFanControl, .hwMonError)
  | .stopFanControl i => some (i, .stopFanControl, .hwMonError)
  | .setFanCurve i curve => some (i, .setFanCurve curve, .hwMonError)
  | .setPowerCap i cap => some (i, .setPowerCap cap, .hwMonError)
  | .setPowerProfile i profile => some (i, .setPowerProfile profile, .controllerError)
  | .setGPUMaxPowerState i clockspeed voltage =>
    some (i, .setGpuMaxPowerState clockspeed voltage, .controllerError)
  | .setVRAMMaxClock i clockspeed => some (i, .setVramMaxClockspeed clockspeed, .controllerError)
  | .commitGPUPowerStates i => some (i, .commitGpuPowerStates, .controllerError)
  | .resetGPUPowerStates i => some (i, .resetGpuPowerStates, .controllerError)
  | _ => none

theorem dispatch_of_mutation {env : Env} {d : Daemon} {a : Action} {i : UInt32}
    {op : ControllerCall} {err : DaemonError} (h : a.mutation? = some (i, op, err)) :
    dispatch env d a = mutate env d i op err := by
  cases a <;> simp only [Action.mutation?, reduceCtorEq, Option.some.injEq, Prod.mk.injEq] at h <;>
    obtain ⟨rfl, rfl, rfl⟩ := h <;> rfl

theorem handle?_of_mutation {a : Action} {i : UInt32} {op : ControllerCall} {err : DaemonError}
    (h : a.mutation? = some (i, op, err)) : a.handle? = some i := by
  cases a <;> simp only [Action.mutation?, reduceCtorEq, Option.some.injEq, Prod.mk.injEq] at h <;>
    simp [Action.handle?, h.1]

section Arms

variable {env : Env} {d d' : Daemon} {i : UInt32} {op : ControllerCall} {err : DaemonError}
  {w w' : World} {c : GpuController} {r : Response}

/-- The arm of a mutating action, when a controller is under the handle. -/
theorem mutate_run (h : d.gpuControllers.lookup i = some c) :
    (mutate env d i op err).run w =
      let ((c', reply), w₁) := c.call env.hw op w
      if reply.isSome then
        if env.saveOk then
          .ok (⟨d.gpuControllers.insert i c', d.config.insert i (c'.identifier, c'.config)⟩, .ok .ok)
            (w₁.saved (d.config.insert i (c'.identifier, c'.config)))
        else .error (.panic unwrapErr) w₁
      else .ok (⟨d.gpuControllers.insert i c', d.config⟩, .error err) w₁ := by
  rcases hc : c.call env.hw op w with ⟨⟨c', _ | reply⟩, w₁⟩ <;>
    cases hs : env.saveOk <;> simp [mutate, h, hc, save_run, hs]

/-- The arm of a reading action, when a controller is under the handle. -/
theorem query_run (h : d.gpuControllers.lookup i = some c) :
    (query env d i op).run w =
      match c.call env.hw op w with
      | ((_, some reply), w₁) => .ok (d, .ok reply.response) w₁
      | ((_, none), w₁) => .ok (d, .error .hwMonError) w₁ := by
  rcases hc : c.call env.hw op w with ⟨⟨c', _ | reply⟩, w₁⟩ <;> simp [query, h, hc]

/-- Everything the arm of a mutating action does when it returns: it answers `InvalidID` when no
controller is under the handle; it answers `err` when the card refuses the call, keeping the
controller; or it writes the controller with the call's settings back under the handle and into
the config, saves that config and answers `Ok`. -/
theorem mutate_ok (h : (mutate env d i op err).run w = .ok (d', r) w') :
    (d.gpuControllers.lookup i = none ∧ d' = d ∧ r = .error .invalidID ∧ w' = w) ∨
    ∃ c, d.gpuControllers.lookup i = some c ∧
      ((op.goesThrough env.hw c = false ∧ d' = ⟨d.gpuControllers.insert i c, d.config⟩ ∧
          r = .error err ∧ w' = w.record (.call c.serial op)) ∨
        (op.goesThrough env.hw c = true ∧ env.saveOk = true ∧
          d' = ⟨d.gpuControllers.insert i { c with config := op.settings c.config },
            d.config.insert i (c.identifier, op.settings c.config)⟩ ∧ r = .ok .ok ∧
          w' = World.saved { w.record (.call c.serial op) with fanLoops := op.loops c w.fanLoops }
            (d.config.insert i (c.identifier, op.settings c.config)))) := by
  rcases hl : d.gpuControllers.lookup i with _ | c
  · simp only [mutate, hl, Proc.run_pure, EStateM.Result.ok.injEq, Prod.mk.injEq] at h
    obtain ⟨⟨rfl, rfl⟩, rfl⟩ := h
    exact .inl ⟨rfl, rfl, rfl, rfl⟩
  refine .inr ⟨c, rfl, ?_⟩
  rw [mutate_run hl] at h
  cases hgo : op.goesThrough env.hw c
  · rw [GpuController.call_refused env.hw op c w hgo] at h
    simp only [Option.isSome_none, Bool.false_eq_true, if_false, EStateM.Result.ok.injEq,
      Prod.mk.injEq] at h
    obtain ⟨⟨rfl, rfl⟩, rfl⟩ := h
    exact .inl ⟨rfl, rfl, rfl, rfl⟩
  · rw [GpuController.call_done env.hw op c w hgo] at h
    cases hs : env.saveOk <;> simp only [hs, Option.isSome_some, if_true, Bool.false_eq_true,
      if_false, EStateM.Result.ok.injEq, Prod.mk.injEq, reduceCtorEq] at h
    obtain ⟨⟨rfl, rfl⟩, rfl⟩ := h
    exact .inr ⟨rfl, rfl, rfl, rfl, rfl⟩

/-- Everything the arm of a reading action does when it returns: it leaves the daemon as it was,
and answers `InvalidID` when no controller is under the handle, or makes the call and answers
`HWMonError` when the card refuses it and the call's reply otherwise. -/
theorem query_ok (h : (query env d i op).run w = .ok (d', r) w') :
    d' = d ∧ ((d.gpuControllers.lookup i = none ∧ r = .error .invalidID ∧ w' = w) ∨
      ∃ c, d.gpuControllers.lookup i = some c ∧ w' = (c.call env.hw op w).2 ∧
        ((op.goesThrough env.hw c = false ∧ r = .error .hwMonError) ∨
          (op.goesThrough env.hw c = true ∧ r = .ok (op.reply env.hw c).response))) := by
  rcases hl : d.gpuControllers.lookup i with _ | c
  · simp only [query, hl, Proc.run_pure, EStateM.Result.ok.injEq, Prod.mk.injEq] at h
    obtain ⟨⟨rfl, rfl⟩, rfl⟩ := h
    exact ⟨rfl, .inl ⟨rfl, rfl, rfl⟩⟩
  rw [query_run hl] at h
  cases hgo : op.goesThrough env.hw c
  · have hc := GpuController.call_refused env.hw op c w hgo
    rw [hc] at h
    simp only [EStateM.Result.ok.injEq, Prod.mk.injEq] at h
    obtain ⟨⟨rfl, rfl⟩, rfl⟩ := h
    exact ⟨rfl, .inr ⟨c, rfl, by rw [hc], .inl ⟨hgo, rfl⟩⟩⟩
  · have hc := GpuController.call_done env.hw op c w hgo
    rw [hc] at h
    simp only [EStateM.Result.ok.injEq, Prod.mk.injEq] at h
    obtain ⟨⟨rfl, rfl⟩, rfl⟩ := h
    exact ⟨rfl, .inr ⟨c, rfl, by rw [hc], .inr ⟨hgo, rfl⟩⟩⟩

/-- `GetInfo` changes nothing. -/
theorem getInfo_ok (h : (getInfo d i).run w = .ok (d', r) w') : d' = d ∧ w' = w := by
  rcases hl : d.gpuControllers.lookup i with _ | c <;>
    simp only [getInfo, hl, Proc.run_pure, EStateM.Result.ok.injEq, Prod.mk.injEq] at h <;>
    exact ⟨h.1.1.symm, h.2.symm⟩

theorem setConfig_run (config : Config) (hp : drmPanic? env = none) :
    (setConfig env config).run w =
      let ((gpuControllers, config), w₁) := loadGpuControllers env config w
      if env.saveOk then .ok (⟨gpuControllers, config⟩, .ok .ok) (w₁.saved config)
      else .error (.panic "Failed to save config") w₁ := by
  cases hs : env.saveOk <;> simp [setConfig, save_run, hs, loadGpuControllersOrPanic_run, hp]

/-- `SetConfig` panics where the walk of `/sys/class/drm` does, with the controllers of the
entries before the fault built. -/
theorem setConfig_panic (config : Config) {visited : List DrmEntry} {message : String}
    (hp : drmPanic? env = some (visited, message)) :
    (setConfig env config).run w = .error (.panic message)
      (visited.foldl (loadEntry env (pciDb env config)) (Loading.init config w)).world := by
  simp [setConfig, loadGpuControllersOrPanic_run, hp]

/-- `SetConfig` returns only when the walk meets no fault. -/
theorem setConfig_walks {config : Config} (h : (setConfig env config).run w = .ok (d', r) w') :
    drmPanic? env = none := by
  rcases hp : drmPanic? env with _ | ⟨visited, message⟩
  · rfl
  · rw [setConfig_panic config hp] at h
    cases h

theorem shutdown_not_ok : (shutdown env d).run w ≠ .ok (d', r) w' := by
  simp only [shutdown, Proc.run_bind, Proc.run_throw]
  split <;> simp

/-- Every action that addresses a handle with no controller is answered `InvalidID`, before any
controller method runs. -/
theorem dispatch_invalid {a : Action} (ha : a.handle? = some i)
    (hi : d.gpuControllers.lookup i = none) :
    (dispatch env d a).run w = .ok (d, .error .invalidID) w := by
  cases a <;> simp only [Action.handle?, reduceCtorEq, Option.some.injEq] at ha <;> subst ha <;>
    simp [dispatch, mutate, query, getInfo, hi]

theorem handleConnection_action_run (a : Action) :
    (handleConnection env d (.action a)).run w =
      match (dispatch env d a).run w with
      | .ok (d', r) w₁ =>
        if env.delivered then .ok d' (w₁.record (.respond r))
        else .error (.panic "Failed writing response") (w₁.record (.respond r))
      | .error e w₁ => .error e w₁ := by
  simp only [handleConnection, Proc.run_bind]
  rcases (dispatch env d a).run w with ⟨⟨d', r⟩, w₁⟩ | ⟨e, w₁⟩ <;>
    cases hd : env.delivered <;> simp [respond_run, hd]

/-- A connection with an action after which the daemon carries on: the action returned, and its
response was delivered and logged. -/
theorem handleConnection_action_ok {a : Action}
    (h : (handleConnection env d (.action a)).run w = .ok d' w') :
    ∃ r w₁, (dispatch env d a).run w = .ok (d', r) w₁ ∧ w' = w₁.record (.respond r) := by
  rw [handleConnection_action_run] at h
  rcases hx : (dispatch env d a).run w with ⟨⟨d₁, r⟩, w₁⟩ | ⟨e, w₁⟩ <;> rw [hx] at h
  · cases hd : env.delivered <;>
      simp only [hd, if_true, Bool.false_eq_true, if_false, EStateM.Result.ok.injEq,
        reduceCtorEq] at h
    obtain ⟨rfl, rfl⟩ := h
    exact ⟨r, w₁, rfl, rfl⟩
  · cases h

/-- A request on a card whose handle has no controller is answered `InvalidID`: no controller
method runs, the controllers and the config stay as they were, and nothing is saved, since the
response is the one event the connection adds to the log. -/
theorem invalid_handle_answered (a : Action) (ha : a.handle? = some i)
    (hi : d.gpuControllers.lookup i = none) :
    (handleConnection env d (.action a)).run w =
      if env.delivered then .ok d (w.record (.respond (.error .invalidID)))
      else .error (.panic "Failed writing response") (w.record (.respond (.error .invalidID))) := by
  rw [handleConnection_action_run, dispatch_invalid ha hi]

end Arms

theorem invalid_handle_answered_sample :
    (Action.startFanControl 5).handle? = some 5 ∧ sampleDaemon.gpuControllers.lookup 5 = none ∧
    (handleConnection sampleEnv sampleDaemon (.action (.startFanControl 5))).run sampleBooted =
      if sampleEnv.delivered then .ok sampleDaemon (sampleBooted.record (.respond (.error .invalidID)))
      else .error (.panic "Failed writing response")
        (sampleBooted.record (.respond (.error .invalidID))) :=
  ⟨rfl, rfl, invalid_handle_answered _ rfl rfl⟩

/-! ### `GetGpus` -/

/-- Inserting each visited controller's model name under its handle, over entries with distinct
handles. -/
theorem lookup_foldl_insert (h : UInt32) :
    ∀ (l : List ((_ : UInt32) × GpuController)) (m : HashMap (Option String)), l.NodupKeys →
      (l.foldl (fun gpus e => gpus.insert e.1 e.2.info.vendorData.gpuModel) m).lookup h =
        ((l.dlookup h).map (·.info.vendorData.gpuModel)).or (m.lookup h)
  | [], _, _ => rfl
  | ⟨k, c⟩ :: l, m, hnd => by
    rw [List.foldl_cons, lookup_foldl_insert h l _ (List.nodupKeys_of_nodupKeys_cons hnd)]
    by_cases hh : h = k
    · subst hh
      rw [List.dlookup_eq_none.mpr (List.nodupKeys_cons.mp hnd).1, AList.lookup_insert,
        List.dlookup_cons_eq]
      rfl
    · rw [AList.lookup_insert_ne hh, List.dlookup_cons_ne _ _ hh]

/-- `GetGpus` names, under every handle, the model of the controller under it, and no other
handle, whatever order the map is visited in. -/
theorem gpus_lookup (env : Env) (d : Daemon) (h : UInt32) :
    (gpus env d).lookup h = (d.gpuControllers.lookup h).map (·.info.vendorData.gpuModel) := by
  have hp := env.controllerOrder.perm d.gpuControllers
  have hnd := (List.perm_nodupKeys hp).mpr d.gpuControllers.nodupKeys
  rw [gpus, lookup_foldl_insert h _ _ hnd,
    List.perm_dlookup h hnd d.gpuControllers.nodupKeys hp, AList.lookup_empty, Option.or_none]
  rfl

/-- A `GetGpus` connection answers with the model name of the controller under every handle, and
no other handle, whatever order the map is visited in, and leaves the controllers and the config
as they were. -/
theorem getGpus_names_every_handle (env : Env) (d : Daemon) (w : World) :
    ∃ names : HashMap (Option String),
      (∀ h, names.lookup h = (d.gpuControllers.lookup h).map (·.info.vendorData.gpuModel)) ∧
      (handleConnection env d (.action .getGpus)).run w =
        if env.delivered then .ok d (w.record (.respond (.ok (.gpus names))))
        else .error (.panic "Failed writing response") (w.record (.respond (.ok (.gpus names)))) :=
  ⟨gpus env d, gpus_lookup env d, by rw [handleConnection_action_run]; rfl⟩

/-! ### What one connection can do -/

/-- From `w` to `w'` nothing was saved. -/
def NoSave (w w' : World) : Prop := w'.files = w.files ∧ lastSaved w'.log = lastSaved w.log

/-- From `w` to `w'` one save wrote `config` to its path. -/
def SavedLast (w w' : World) (config : Config) : Prop :=
  w'.files = writeFile w.files w'.fileOf config.configPath config ∧
    lastSaved w'.log = some config

theorem NoSave.refl (w : World) : NoSave w w := ⟨rfl, rfl⟩

theorem NoSave.trans {w₁ w₂ w₃ : World} (h₁ : NoSave w₁ w₂) (h₂ : NoSave w₂ w₃) :
    NoSave w₁ w₃ :=
  ⟨h₂.1.trans h₁.1, h₂.2.trans h₁.2⟩

theorem NoSave.record {w w' : World} (h : NoSave w w') {e : Event} (he : e.saved? = none) :
    NoSave w (w'.record e) :=
  ⟨h.1, (lastSaved_append_of_saved? he).trans h.2⟩

theorem SavedLast.record {w w' : World} {config : Config} (h : SavedLast w w' config) {e : Event}
    (he : e.saved? = none) : SavedLast w (w'.record e) config :=
  ⟨h.1, (lastSaved_append_of_saved? he).trans h.2⟩

theorem NoSave.saved {w w' : World} (h : NoSave w w') (config : Config) :
    SavedLast w (w'.saved config) config :=
  ⟨by simp [World.saved, h.1], by simp⟩

theorem World.Frame.noSave {w w' : World} (h : World.Frame w w') : NoSave w w' := by
  obtain ⟨es, hl, hb⟩ := h.log
  exact ⟨h.files, by rw [hl, lastSaved_append_of_forall fun e he => (hb e he).saved?]⟩

theorem call_noSave (hw : Hardware) (op : ControllerCall) (c : GpuController) (w : World) :
    NoSave w (c.call hw op w).2 :=
  ⟨by simp, by simp [lastSaved_append_of_saved?, Event.saved?]⟩

section Cases

variable {env : Env} {d d' : Daemon} {w w' : World} {r : Response}

/-- The three ways a mutating arm on a handle with a controller ends: the call is refused and
the arm answers `err`; the call goes through and the config with the entry written back is saved;
or the save fails and the process panics.  In each the call was made on that controller, logged,
and kept its identifier. -/
theorem mutate_outcome (env : Env) {i : UInt32} (op : ControllerCall) (err : DaemonError)
    (w : World) {c : GpuController} (h : d.gpuControllers.lookup i = some c) :
    ∃ c' w₁, c'.identifier = c.identifier ∧ NoSave w w₁ ∧
      ((mutate env d i op err).run w =
          .ok (⟨d.gpuControllers.insert i c', d.config⟩, .error err) w₁ ∨
        (mutate env d i op err).run w =
          .ok (⟨d.gpuControllers.insert i c', d.config.insert i (c'.identifier, c'.config)⟩, .ok .ok)
            (w₁.saved (d.config.insert i (c'.identifier, c'.config))) ∨
        (mutate env d i op err).run w = .error (.panic unwrapErr) w₁) := by
  rw [mutate_run h]
  have hw₁ := call_noSave env.hw op c w
  have hid := GpuController.call_identifier env.hw op c w
  rcases hc : c.call env.hw op w with ⟨⟨c', _ | reply⟩, w₁⟩ <;> rw [hc] at hw₁ hid
  · exact ⟨c', w₁, hid, hw₁, .inl rfl⟩
  · cases env.saveOk
    · exact ⟨c', w₁, hid, hw₁, .inr (.inr rfl)⟩
    · exact ⟨c', w₁, hid, hw₁, .inr (.inl rfl)⟩

/-- What the arm of a mutating action can do. -/
theorem mutate_cases {i : UInt32} {op : ControllerCall} {err : DaemonError}
    (h : (mutate env d i op err).run w = .ok (d', r) w') :
    (d' = d ∧ NoSave w w') ∨
    (∃ i c c', d.gpuControllers.lookup i = some c ∧ c'.identifier = c.identifier ∧
      d'.gpuControllers = d.gpuControllers.insert i c' ∧
      ((d'.config = d.config ∧ NoSave w w') ∨
        (d'.config = d.config.insert i (c'.identifier, c'.config) ∧ SavedLast w w' d'.config))) := by
  obtain ⟨-, rfl, -, rfl⟩ | ⟨c, hl, ⟨-, rfl, -, rfl⟩ | ⟨-, -, rfl, -, rfl⟩⟩ := mutate_ok h
  · exact .inl ⟨rfl, NoSave.refl _⟩
  · exact .inr ⟨i, c, c, hl, rfl, rfl, .inl ⟨rfl, (NoSave.refl w).record rfl⟩⟩
  · have hw : NoSave w { w.record (.call c.serial op) with fanLoops := op.loops c w.fanLoops } :=
      (NoSave.refl w).record rfl
    exact .inr ⟨i, c, { c with config := op.settings c.config }, hl, rfl, rfl,
      .inr ⟨rfl, hw.saved _⟩⟩

/-- What the arm of a reading action can do: log the call. -/
theorem query_cases {i : UInt32} {op : ControllerCall}
    (h : (query env d i op).run w = .ok (d', r) w') : d' = d ∧ NoSave w w' := by
  obtain ⟨rfl, ⟨-, -, rfl⟩ | ⟨c, -, rfl, -⟩⟩ := query_ok h
  · exact ⟨rfl, NoSave.refl _⟩
  · exact ⟨rfl, call_noSave env.hw op c w⟩

theorem getInfo_cases {i : UInt32} (h : (getInfo d i).run w = .ok (d', r) w') :
    d' = d ∧ NoSave w w' := by
  obtain ⟨rfl, rfl⟩ := getInfo_ok h
  exact ⟨rfl, NoSave.refl _⟩

/-- What `SetConfig` does when it returns: the controllers and config `load_gpu_controllers`
builds from the client's config, saved. -/
theorem setConfig_cases {config : Config} (h : (setConfig env config).run w = .ok (d', r) w') :
    ∃ w₁, loadGpuControllers env config w = ((d'.gpuControllers, d'.config), w₁) ∧
      SavedLast w w' d'.config ∧ w'.fanLoops = w₁.fanLoops := by
  rw [setConfig_run config (setConfig_walks h)] at h
  rcases hl : loadGpuControllers env config w with ⟨⟨gc, config'⟩, w₁⟩
  have hf := (loadGpuControllers_frame env config w).1.noSave
  rw [hl] at h hf
  cases hs : env.saveOk <;>
    simp only [hs, if_true, Bool.false_eq_true, if_false, EStateM.Result.ok.injEq,
      Prod.mk.injEq, reduceCtorEq] at h
  obtain ⟨⟨rfl, -⟩, rfl⟩ := h
  exact ⟨w₁, rfl, hf.saved _, rfl⟩

/-- What a connection after which the daemon carries on did: nothing to the daemon or its saves;
a call on the controller under one handle, written back into the config and saved when it went
through; or, for `SetConfig config`, controllers and config rebuilt from `config`, then saved. -/
def Handled (env : Env) (d : Daemon) (w : World) (req : Request) (d' : Daemon) (w' : World) :
    Prop :=
  (d' = d ∧ NoSave w w') ∨
  (∃ i c c', d.gpuControllers.lookup i = some c ∧ c'.identifier = c.identifier ∧
    d'.gpuControllers = d.gpuControllers.insert i c' ∧
    ((d'.config = d.config ∧ NoSave w w') ∨
      (d'.config = d.config.insert i (c'.identifier, c'.config) ∧ SavedLast w w' d'.config))) ∨
  (∃ config w₁, req = .action (.setConfig config) ∧
    loadGpuControllers env config w = ((d'.gpuControllers, d'.config), w₁) ∧
    SavedLast w w' d'.config)

theorem Handled.record {req : Request} (h : Handled env d w req d' w') {e : Event}
    (he : e.saved? = none) : Handled env d w req d' (w'.record e) := by
  rcases h with ⟨h₁, h₂⟩ | ⟨i, c, c', h₁, h₂, h₃, ⟨h₄, h₅⟩ | ⟨h₄, h₅⟩⟩ | ⟨config, w₁, h₁, h₂, h₃⟩
  · exact .inl ⟨h₁, h₂.record he⟩
  · exact .inr (.inl ⟨i, c, c', h₁, h₂, h₃, .inl ⟨h₄, h₅.record he⟩⟩)
  · exact .inr (.inl ⟨i, c, c', h₁, h₂, h₃, .inr ⟨h₄, h₅.record he⟩⟩)
  · exact .inr (.inr ⟨config, w₁, h₁, h₂, h₃.record he⟩)

/-- Everything an action that returns can do to the daemon and to the files it saves. -/
theorem dispatch_cases {a : Action} (h : (dispatch env d a).run w = .ok (d', r) w') :
    Handled env d w (.action a) d' w' := by
  have pure_cases : ∀ {x : Daemon × Response}, (pure x : Proc _).run w = .ok (d', r) w' →
      x.1 = d → d' = d ∧ NoSave w w' := by
    intro x hx hd
    simp only [Proc.run_pure, EStateM.Result.ok.injEq] at hx
    obtain ⟨rfl, rfl⟩ := hx
    exact ⟨hd, NoSave.refl w⟩
  cases a with
  | checkAlive | getGpus | getConfig => exact .inl (pure_cases h rfl)
  | getInfo i => exact .inl (getInfo_cases h)
  | getStats i | getFanControl i | getPowerCap i => exact .inl (query_cases h)
  | startFanControl i | stopFanControl i | setFanCurve i _ | setPowerCap i _
  | setPowerProfile i _ | setGPUMaxPowerState i _ _ | setVRAMMaxClock i _
  | commitGPUPowerStates i | resetGPUPowerStates i => exact (mutate_cases h).imp_right .inl
  | shutdown => exact absurd h shutdown_not_ok
  | setConfig config =>
    obtain ⟨w₁, hl, hs, -⟩ := setConfig_cases h
    exact .inr (.inr ⟨config, w₁, rfl, hl, hs⟩)

/-- Everything a connection after which the daemon carries on can do. -/
theorem handleConnection_cases {req : Request} (h : (handleConnection env d req).run w = .ok d' w') :
    Handled env d w req d' w' := by
  cases req with
  | unreadable => simp [handleConnection] at h
  | undecodable =>
    simp only [handleConnection, Proc.run_bind, emit_run, Proc.run_pure,
      EStateM.Result.ok.injEq] at h
    obtain ⟨rfl, rfl⟩ := h
    exact .inl ⟨rfl, (NoSave.refl w).record rfl⟩
  | action a =>
    obtain ⟨r, w₁, hx, rfl⟩ := handleConnection_action_ok h
    exact (dispatch_cases hx).record rfl

/-- A connection that is neither a mutating action nor `SetConfig` leaves the daemon as it was
and saves nothing. -/
theorem handleConnection_reads {req : Request} (hm : ∀ a, req = .action a → a.mutation? = none)
    (hc : ∀ config, req ≠ .action (.setConfig config))
    (h : (handleConnection env d req).run w = .ok d' w') : d' = d ∧ NoSave w w' := by
  cases req with
  | unreadable => simp [handleConnection] at h
  | undecodable =>
    simp only [handleConnection, Proc.run_bind, emit_run, Proc.run_pure,
      EStateM.Result.ok.injEq] at h
    obtain ⟨rfl, rfl⟩ := h
    exact ⟨rfl, (NoSave.refl w).record rfl⟩
  | action a =>
    obtain ⟨r, w₁, hx, rfl⟩ := handleConnection_action_ok h
    suffices hd : d' = d ∧ NoSave w w₁ from ⟨hd.1, hd.2.record rfl⟩
    replace hm := hm a rfl
    cases a <;> simp only [Action.mutation?, reduceCtorEq] at hm
    case checkAlive | getGpus | getConfig =>
      cases hx
      exact ⟨rfl, NoSave.refl w⟩
    case getInfo i => exact getInfo_cases hx
    case getStats i | getFanControl i | getPowerCap i => exact query_cases hx
    case shutdown => exact absurd hx shutdown_not_ok
    case setConfig config => exact absurd rfl (hc config)

/-- `SetConfig` as a whole connection. -/
theorem handleConnection_setConfig {config : Config}
    (h : (handleConnection env d (.action (.setConfig config))).run w = .ok d' w') :
    ∃ w₁, loadGpuControllers env config w = ((d'.gpuControllers, d'.config), w₁) ∧
      SavedLast w w' d'.config ∧ w'.fanLoops = w₁.fanLoops := by
  obtain ⟨r, w₁, hx, rfl⟩ := handleConnection_action_ok h
  obtain ⟨w₂, hl, hs, hloops⟩ := setConfig_cases hx
  exact ⟨w₂, hl, hs.record rfl, hloops⟩

end Cases

end Lact
