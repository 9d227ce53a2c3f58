import Lact.Live

/-! A request on one card's handle touches only that card.  The thirteen per-device arms look up
the controller under their handle and call it, and a mutating arm writes back only that handle's
controller and config entry.  Every controller comes from its own `GpuController::new` call, so a
call starts or stops no other controller's fan-control thread. -/

namespace Lact

/-- The arm of an action that addresses a handle: a mutating arm, `GetInfo`, or a reading arm
that calls the controller. -/
theorem Action.handle?_cases {a : Action} {i : UInt32} (ha : a.handle? = some i) (env : Env)
    (d : Daemon) :
    (∃ op err, a.mutation? = some (i, op, err)) ∨ a = .getInfo i ∨
      ∃ op, dispatch env d a = query env d i op := by
  cases a <;> simp only [Action.handle?, Option.some.injEq, reduceCtorEq] at ha <;> subst ha
  all_goals first
    | exact .inl ⟨_, _, rfl⟩
    | exact .inr (.inl rfl)
    | exact .inr (.inr ⟨_, rfl⟩)

/-- Whether a request can change what is under handle `j`: `SetConfig`, or an action that names
`j`. -/
def Request.touches (j : UInt32) : Request → Bool
  | .action (.setConfig _) => true
  | .action a => a.handle? == some j
  | _ => false

theorem Request.touches_of_handle {a : Action} {i : UInt32} (ha : a.handle? = some i)
    (j : UInt32) : (Request.action a).touches j = true ↔ i = j := by
  cases a <;> simp_all [Request.touches, Action.handle?]

/-- Handle `j` in `s'` as in `s`: the controller under it, its config entry, and the threads of its
controller. -/
structure Kept (j : UInt32) (s s' : Daemon × World) : Prop where
  controller : s'.1.gpuControllers.lookup j = s.1.gpuControllers.lookup j
  entry : s'.1.config.gpuConfigs.lookup j = s.1.config.gpuConfigs.lookup j
  threads : ∀ c, s.1.gpuControllers.lookup j = some c → ∀ l : FanLoop, l.owner = c.serial →
    (l ∈ s'.2.fanLoops ↔ l ∈ s.2.fanLoops)

section Kept

variable {j : UInt32} {s₁ s₂ s₃ : Daemon × World}

theorem Kept.refl (j : UInt32) (s : Daemon × World) : Kept j s s :=
  ⟨rfl, rfl, fun _ _ _ _ => Iff.rfl⟩

theorem Kept.trans (h₁ : Kept j s₁ s₂) (h₂ : Kept j s₂ s₃) : Kept j s₁ s₃ :=
  ⟨h₂.controller.trans h₁.controller, h₂.entry.trans h₁.entry, fun c hc l ho =>
    (h₂.threads c (h₁.controller.trans hc) l ho).trans (h₁.threads c hc l ho)⟩

end Kept

/-- An arm on handle `i` keeps every other handle `j`: it changes at most the controller under `i`,
which shares its `GpuController::new` call with no controller under `j`. -/
theorem dispatch_kept_of_handle {env : Env} {d d' : Daemon} {w w' : World} {a : Action}
    {r : Response} {i j : UInt32} (hd : d.Holds w) (ha : a.handle? = some i) (hij : j ≠ i)
    (hx : (dispatch env d a).run w = .ok (d', r) w') : Kept j (d, w) (d', w') := by
  have other : ∀ c ci, d.gpuControllers.lookup j = some c → d.gpuControllers.lookup i = some ci →
      c.serial ≠ ci.serial := fun c ci hc hci heq => hij (hd.live.serials j i c ci hc hci heq)
  rcases Action.handle?_cases ha env d with ⟨op, err, hm⟩ | rfl | ⟨op, hq⟩
  · rw [dispatch_of_mutation hm] at hx
    obtain ⟨-, rfl, -, rfl⟩ | ⟨ci, hl, ⟨-, rfl, -, rfl⟩ | ⟨-, -, rfl, -, rfl⟩⟩ := mutate_ok hx
    · exact .refl j _
    · exact ⟨AList.lookup_insert_ne hij, rfl, fun _ _ _ _ => Iff.rfl⟩
    · refine ⟨AList.lookup_insert_ne hij, AList.lookup_insert_ne hij, fun c hc l ho => ?_⟩
      exact op.mem_loops_of_ne ci _ (ho ▸ other c ci hc hl)
  · obtain ⟨rfl, rfl⟩ := getInfo_ok hx
    exact .refl j _
  · rw [hq] at hx
    obtain ⟨rfl, ⟨-, -, rfl⟩ | ⟨ci, hl, rfl, -⟩⟩ := query_ok hx
    · exact .refl j _
    · exact ⟨rfl, rfl, fun c hc l ho =>
        GpuController.mem_call_fanLoops env.hw op ci w (ho ▸ other c ci hc hl)⟩

/-- A connection whose request is neither `SetConfig` nor names handle `j` keeps handle `j`. -/
theorem handleConnection_kept {env : Env} {d d' : Daemon} {w w' : World} {req : Request}
    {j : UInt32} (hd : d.Holds w) (hj : req.touches j = false)
    (h : (handleConnection env d req).run w = .ok d' w') : Kept j (d, w) (d', w') := by
  cases req with
  | unreadable => simp [handleConnection] at h
  | undecodable =>
    simp only [handleConnection, Proc.run_bind, emit_run, Proc.run_pure,
      EStateM.Result.ok.injEq] at h
    obtain ⟨rfl, rfl⟩ := h
    exact ⟨rfl, rfl, fun _ _ _ _ => Iff.rfl⟩
  | action a =>
    obtain ⟨r, w₁, hx, rfl⟩ := handleConnection_action_ok h
    suffices hk : Kept j (d, w) (d', w₁) from ⟨hk.controller, hk.entry, hk.threads⟩
    rcases ha : a.handle? with _ | i
    · cases a <;> simp only [Action.handle?, reduceCtorEq] at ha
      case checkAlive | getGpus | getConfig =>
        cases hx
        exact .refl j _
      case shutdown => exact absurd hx shutdown_not_ok
      case setConfig => simp [Request.touches] at hj
    · refine dispatch_kept_of_handle hd ha (fun hji => ?_) hx
      simp [(Request.touches_of_handle ha j).mpr hji.symm] at hj

/-- From every state of a daemon, a request on one handle leaves every other handle as it was:
the controller under it, its config entry, and the fan-control thread of its controller, whatever
the request and the card's answer. -/
theorem request_touches_only_its_handle {unprivileged : Bool} {reqs : List Request} {d d' : Daemon}
    {w w' : World} (hr : Reachable unprivileged reqs d w) {env : Env} {a : Action} {i : UInt32}
    (ha : a.handle? = some i) (h : (handleConnection env d (.action a)).run w = .ok d' w')
    {j : UInt32} (hj : j ≠ i) :
    d'.gpuControllers.lookup j = d.gpuControllers.lookup j ∧
      d'.config.gpuConfigs.lookup j = d.config.gpuConfigs.lookup j ∧
      ∀ c, d.gpuControllers.lookup j = some c → ∀ l : FanLoop, l.owner = c.serial →
        (l ∈ w'.fanLoops ↔ l ∈ w.fanLoops) := by
  obtain ⟨r, w₁, hx, rfl⟩ := handleConnection_action_ok h
  have hk := dispatch_kept_of_handle hr.holds ha hj hx
  exact ⟨hk.controller, hk.entry, hk.threads⟩

theorem request_touches_only_its_handle_sample :
    ∃ d w d' w', (Daemon.new twoCardEnv false).run bareWorld = .ok d w ∧
      (handleConnection twoCardEnv d (.action (.startFanControl 7))).run w = .ok d' w' ∧
      (d'.gpuControllers.lookup 8 = d.gpuControllers.lookup 8 ∧
        d'.config.gpuConfigs.lookup 8 = d.config.gpuConfigs.lookup 8 ∧
        ∀ c, d.gpuControllers.lookup 8 = some c → ∀ l : FanLoop, l.owner = c.serial →
          (l ∈ w'.fanLoops ↔ l ∈ w.fanLoops)) :=
  have hnew : (Daemon.new twoCardEnv false).run bareWorld = .ok _ _ := rfl
  ⟨_, _, _, _, hnew, rfl, @request_touches_only_its_handle false [] _ _ _ _ (.new rfl hnew)
    twoCardEnv (.startFanControl 7) 7 rfl rfl 8 (by decide)⟩

/-! ### Over the rest of a run -/

/-- Along every run of a daemon from one of its states in which no connection is `SetConfig` or
names handle `j` (requests of other clients on other cards, in any interleaving), handle `j`
keeps its controller, its config entry and its controller's fan-control thread: a setting made on
a card is undone only by a request on that card or by `SetConfig`. -/
theorem other_requests_keep_handle {unprivileged : Bool} {reqs : List Request} {d : Daemon}
    {w : World} (hr : Reachable unprivileged reqs d w) {j : UInt32} {s : Daemon × World}
    (hrun : Relation.ReflTransGen (fun s s' => ∃ env req, req.touches j = false ∧
      (handleConnection env s.1 req).run s.2 = .ok s'.1 s'.2) (d, w) s) :
    s.1.gpuControllers.lookup j = d.gpuControllers.lookup j ∧
      s.1.config.gpuConfigs.lookup j = d.config.gpuConfigs.lookup j ∧
      ∀ c, d.gpuControllers.lookup j = some c → ∀ l : FanLoop, l.owner = c.serial →
        (l ∈ s.2.fanLoops ↔ l ∈ w.fanLoops) := by
  have hk : s.1.Holds s.2 ∧ Kept j (d, w) s := by
    induction hrun with
    | refl => exact ⟨hr.holds, .refl j _⟩
    | tail _ step ih =>
      obtain ⟨env, req, hj, h⟩ := step
      exact ⟨handleConnection_holds ih.1 h, ih.2.trans (handleConnection_kept ih.1 hj h)⟩
  exact ⟨hk.2.controller, hk.2.entry, hk.2.threads⟩

theorem other_requests_keep_handle_sample :
    ∃ d w s, (Daemon.new twoCardEnv false).run bareWorld = .ok d w ∧
      Relation.ReflTransGen (fun s s' => ∃ env req, req.touches 7 = false ∧
        (handleConnection env s.1 req).run s.2 = .ok s'.1 s'.2) (d, w) s ∧
      (s.1.gpuControllers.lookup 7 = d.gpuControllers.lookup 7 ∧
        s.1.config.gpuConfigs.lookup 7 = d.config.gpuConfigs.lookup 7 ∧
        ∀ c, d.gpuControllers.lookup 7 = some c → ∀ l : FanLoop, l.owner = c.serial →
          (l ∈ s.2.fanLoops ↔ l ∈ w.fanLoops)) :=
  have hnew : (Daemon.new twoCardEnv false).run bareWorld = .ok _ _ := rfl
  have hrun : Relation.ReflTransGen (fun s s' => ∃ env req, req.touches 7 = false ∧
      (handleConnection env s.1 req).run s.2 = .ok s'.1 s'.2) (_, _) (_, _) :=
    .tail (b := (_, _)) (by exact .single ⟨twoCardEnv, .action (.startFanControl 8), rfl, rfl⟩)
      (by exact ⟨twoCardEnv, .action (.setFanCurve 8 []), rfl, rfl⟩)
  ⟨_, _, _, hnew, hrun, other_requests_keep_handle (.new rfl hnew) hrun⟩

end Lact
