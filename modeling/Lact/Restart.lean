import Lact.Run
import Lact.Reconcile
import Lact.Outcome

/-! A privileged daemon across restarts.  The machine is the daemon process, when one runs, and
the world; a step starts the daemon (`Daemon::new`, which reads the store the last process saved),
handles one connection, or ends the process.  On a machine whose `/sys/class/drm` lists the same
cards each time, in any order, where `random()` draws handles that are not yet keys and clients
send `SetConfig` only with the config `GetConfig` answers, a card keeps its handle for good: the
store's entry under the handle keeps the card's identifier, and every later daemon registers the
card under it. -/

namespace Lact

/-- The machine between two steps: the daemon, while its process runs, and the world. -/
structure Host where
  daemon : Option Daemon
  world : World

/-- The machine after a step that ended with `r`: the daemon carries on, or its process has
ended. -/
def Host.after : EStateM.Result Stop World Daemon → Host
  | .ok d w => ⟨some d, w⟩
  | .error _ w => ⟨none, w⟩

@[simp] theorem Host.after_ok (d : Daemon) (w : World) : Host.after (.ok d w) = ⟨some d, w⟩ := rfl

@[simp] theorem Host.after_error (e : Stop) (w : World) : Host.after (.error e w) = ⟨none, w⟩ :=
  rfl

/-- One step of a privileged daemon's machine whose `/sys/class/drm` lists the cards `cards`, in
any order: `Daemon::new` when no process runs, with no fan-control thread left and the values of
`random()` not yet keys; a connection, where `SetConfig` carries the config `GetConfig` answers;
or the end of the process. -/
inductive StableStep (cards : List GpuIdentifier) : Host → Host → Prop
  | start {env : Env} {w : World} (hcards : (discovered env.drm).Perm cards)
      (hfresh : FreshDraws env (Daemon.readConfig false w) { w with socket := true, fanLoops := [] }) :
      StableStep cards ⟨none, w⟩ (Host.after ((Daemon.new env false).run { w with fanLoops := [] }))
  | handle {env : Env} {d : Daemon} {w : World} {req : Request}
      (hcards : (discovered env.drm).Perm cards)
      (hset : ∀ config, req = .action (.setConfig config) → config = d.config) :
      StableStep cards ⟨some d, w⟩ (Host.after ((handleConnection env d req).run w))
  | stop {d : Daemon} {w : World} : StableStep cards ⟨some d, w⟩ ⟨none, w⟩

/-- The entry under `h` of the config saved at `/etc/lact.json` carries `x`. -/
def StoredAt (w : World) (h : UInt32) (x : GpuIdentifier) : Prop :=
  ∃ c g, w.files CONFIG_PATH = some c ∧ c.gpuConfigs.lookup h = some (x, g)

/-- Two configs whose entries carry the same identifiers under the same handles. -/
def SameIdentifiers (config config' : Config) : Prop :=
  ∀ h x, (∃ g, config.gpuConfigs.lookup h = some (x, g)) ↔
    ∃ g, config'.gpuConfigs.lookup h = some (x, g)

theorem sameIdentifiers_refl (config : Config) : SameIdentifiers config config :=
  fun _ _ => Iff.rfl

/-- Rewriting the settings under a handle, with the identifier its entry carries. -/
theorem sameIdentifiers_insert {config : Config} {i : UInt32} {x : GpuIdentifier} {g : GpuConfig}
    (hi : config.gpuConfigs.lookup i = some (x, g)) (g' : GpuConfig) :
    SameIdentifiers config (config.insert i (x, g')) := by
  intro h y
  rw [Config.insert_gpuConfigs]
  by_cases hh : h = i
  · subst hh
    simp [hi]
  · rw [AList.lookup_insert_ne hh]

theorem Distinct.of_sameIdentifiers {config config' : Config} (hd : Distinct config)
    (hs : SameIdentifiers config config') : Distinct config' := by
  intro h h' x g g' h₁ h₂
  obtain ⟨_, h₁⟩ := (hs h x).mpr ⟨g, h₁⟩
  obtain ⟨_, h₂⟩ := (hs h' x).mpr ⟨g', h₂⟩
  exact hd h h' x _ _ h₁ h₂

/-- Replacing the controller under `i` by one for the same card registers the same cards. -/
theorem registered_insert_same {gc : HashMap GpuController} {i : UInt32} {c c' : GpuController}
    (hl : gc.lookup i = some c) (hid : c'.identifier = c.identifier) (h : UInt32)
    (x : GpuIdentifier) : Registered (gc.insert i c') h x ↔ Registered gc h x := by
  by_cases hh : h = i
  · subst hh
    simp [Registered, hl, hid]
  · simp only [Registered, AList.lookup_insert_ne hh]

/-! ### A settled daemon -/

/-- A running daemon in the state such a run keeps it in: the controller under `h` is for `x`
exactly when `x` is a card and the config's entry under `h` carries `x`; every card has a
controller; the config's identifiers are distinct; and the config, whose path is
`/etc/lact.json`, is the one saved there. -/
structure Settled (cards : List GpuIdentifier) (d : Daemon) (w : World) : Prop where
  registered : ∀ h x, Registered d.gpuControllers h x ↔
    x ∈ cards ∧ ∃ g, d.config.gpuConfigs.lookup h = some (x, g)
  complete : ∀ x ∈ cards, ∃ h, Registered d.gpuControllers h x
  distinct : Distinct d.config
  path : d.config.configPath = CONFIG_PATH
  saved : w.files CONFIG_PATH = some d.config

section Settled

variable {cards : List GpuIdentifier} {d : Daemon} {w : World}

/-- What `load_gpu_controllers` with fresh draws returns for the cards, once saved at
`/etc/lact.json`, is settled, and keeps the entries of the config it was given. -/
theorem settled_of_load (hcards : cards.Nodup) {env : Env} (hperm : (discovered env.drm).Perm cards)
    {config : Config} {W : World} (hfresh : FreshDraws env config W) (hd : Distinct config)
    (hpath : config.configPath = CONFIG_PATH) {gc : HashMap GpuController} {config' : Config}
    {w₁ : World} (hl : loadGpuControllers env config W = ((gc, config'), w₁)) {w' : World}
    (hsaved : w'.files config'.configPath = some config') :
    Settled cards ⟨gc, config'⟩ w' ∧
      ∀ h v, config.gpuConfigs.lookup h = some v → config'.gpuConfigs.lookup h = some v := by
  have hr := loadGpuControllers_reconciled (hperm.nodup_iff.mpr hcards) hfresh
  have hd' := loadGpuControllers_distinct env W hd
  have hp' := (loadGpuControllers_frame env config W).2
  rw [hl] at hr hd' hp'
  have hpath' : config'.configPath = CONFIG_PATH := hp'.trans hpath
  exact ⟨⟨registered_iff hr.consistent hd' (hr.perm.trans hperm),
    fun _ hx => registered_of_perm (hr.perm.trans hperm) hx, hd', hpath', hpath' ▸ hsaved⟩,
    hr.keeps⟩

/-- A settled daemon's config holds every card. -/
theorem Settled.known (hs : Settled cards d w) {x : GpuIdentifier} (hx : x ∈ cards) :
    ∃ h g, d.config.gpuConfigs.lookup h = some (x, g) := by
  obtain ⟨h, hreg⟩ := hs.complete x hx
  exact ⟨h, ((hs.registered h x).mp hreg).2⟩

/-- `load_gpu_controllers` on a settled daemon's config, with the cards listed in any order,
draws nothing and returns the config unchanged. -/
theorem Settled.load (hs : Settled cards d w) {env : Env} (hperm : (discovered env.drm).Perm cards)
    (W : World) : FreshDraws env d.config W ∧ (loadGpuControllers env d.config W).1.2 = d.config :=
  loadGpuControllers_known env W fun _ hx => hs.known (hperm.subset hx)

/-- A controller under `i` replaced by one for the same card, with a config that carries the
same identifiers saved at `/etc/lact.json`, leaves the daemon settled. -/
theorem Settled.mutate (hs : Settled cards d w) {i : UInt32} {c c' : GpuController}
    (hl : d.gpuControllers.lookup i = some c) (hid : c'.identifier = c.identifier) {d' : Daemon}
    (hgc : d'.gpuControllers = d.gpuControllers.insert i c')
    (hsame : SameIdentifiers d.config d'.config) (hpath : d'.config.configPath = CONFIG_PATH)
    {w' : World} (hsaved : w'.files CONFIG_PATH = some d'.config) : Settled cards d' w' := by
  refine ⟨fun h x => ?_, fun x hx => ?_, hs.distinct.of_sameIdentifiers hsame, hpath, hsaved⟩
  · rw [hgc, registered_insert_same hl hid, hs.registered, hsame]
  · obtain ⟨h, hreg⟩ := hs.complete x hx
    exact ⟨h, hgc ▸ (registered_insert_same hl hid h x).mpr hreg⟩

/-- The entry a mutating arm writes back keeps the identifier of the entry it replaces. -/
theorem Settled.sameIdentifiers_insert (hs : Settled cards d w) {i : UInt32} {c c' : GpuController}
    (hl : d.gpuControllers.lookup i = some c) (hid : c'.identifier = c.identifier) :
    SameIdentifiers d.config (d.config.insert i (c'.identifier, c'.config)) := by
  obtain ⟨g, hg⟩ := ((hs.registered i c.identifier).mp ⟨c, hl, rfl⟩).2
  rw [hid]
  exact Lact.sameIdentifiers_insert hg _

variable {env : Env} (hperm : (discovered env.drm).Perm cards) {req : Request}
  (hset : ∀ config, req = .action (.setConfig config) → config = d.config)
include hperm hset

/-- A connection to a settled daemon after which it carries on leaves it settled. -/
theorem Settled.handled (hcards : cards.Nodup) (hs : Settled cards d w) {d' : Daemon} {w' : World}
    (h : Handled env d w req d' w') : Settled cards d' w' := by
  rcases h with ⟨rfl, hf, -⟩ | ⟨i, c, c', hl, hid, hgc, ⟨hcfg, hf, -⟩ | ⟨hcfg, hf, -⟩⟩ |
    ⟨config, w₁, hreq, hl, hf, -⟩
  · exact { hs with saved := hf ▸ hs.saved }
  · exact hs.mutate hl hid hgc (hcfg ▸ sameIdentifiers_refl _) (hcfg ▸ hs.path)
      (by rw [hf, hcfg, hs.saved])
  · have hpath : d'.config.configPath = CONFIG_PATH := by
      rw [hcfg, Config.insert_configPath, hs.path]
    exact hs.mutate hl hid hgc (hcfg ▸ hs.sameIdentifiers_insert hl hid) hpath
      (by rw [hf, hpath, writeFile_self])
  · obtain rfl := hset config hreq
    exact (settled_of_load hcards hperm (hs.load hperm w).1 hs.distinct hs.path hl
      (by rw [hf, writeFile_self])).1

/-- Whatever a connection to a settled daemon does, however it ends, the config at
`/etc/lact.json` afterwards carries the identifiers of the daemon's config under the same
handles. -/
theorem Settled.stored (hs : Settled cards d w) {w' : World} (h : Stored env d w req w') :
    ∃ config, w'.files CONFIG_PATH = some config ∧ SameIdentifiers d.config config := by
  rcases h with ⟨hf, -⟩ | ⟨i, c, c', hl, hid, hf, -⟩ | ⟨config, gc, config', w₁, hreq, hl, hf, -⟩
  · exact ⟨d.config, by rw [hf, hs.saved], sameIdentifiers_refl _⟩
  · refine ⟨_, ?_, hs.sameIdentifiers_insert hl hid⟩
    rw [hf, Config.insert_configPath, hs.path, writeFile_self]
  · obtain rfl := hset config hreq
    obtain rfl : config' = d.config := by simpa [hl] using (hs.load hperm w).2
    exact ⟨_, by rw [hf, hs.path, writeFile_self], sameIdentifiers_refl _⟩

end Settled

/-- In every state of a daemon, a connection other than `SetConfig` after which it carries on
keeps every card under its handle: under each handle a controller for the same card, and in the
config the same identifiers under the same handles. -/
theorem only_setConfig_moves_cards {unprivileged : Bool} {reqs : List Request} {d d' : Daemon}
    {w w' : World} (hr : Reachable unprivileged reqs d w) {env : Env} {req : Request}
    (hreq : ∀ config, req ≠ .action (.setConfig config))
    (hrun : (handleConnection env d req).run w = .ok d' w') :
    (∀ h x, Registered d'.gpuControllers h x ↔ Registered d.gpuControllers h x) ∧
      SameIdentifiers d.config d'.config := by
  rcases handleConnection_cases hrun with ⟨rfl, -⟩ |
    ⟨i, c, c', hl, hid, hgc, ⟨hcfg, -⟩ | ⟨hcfg, -⟩⟩ | ⟨config, -, hsc, -⟩
  · exact ⟨fun _ _ => Iff.rfl, sameIdentifiers_refl _⟩
  · rw [hgc, hcfg]
    exact ⟨registered_insert_same hl hid, sameIdentifiers_refl _⟩
  · obtain ⟨g, hg⟩ := hr.consistent i c hl
    rw [hgc, hcfg, hid]
    exact ⟨registered_insert_same hl hid, sameIdentifiers_insert hg _⟩
  · exact absurd hsc (hreq config)

theorem only_setConfig_moves_cards_sample :
    ∃ d' w', Reachable false [] sampleDaemon sampleBooted ∧
      (∀ config, Request.action (.startFanControl 7) ≠ .action (.setConfig config)) ∧
      (handleConnection sampleEnv sampleDaemon (.action (.startFanControl 7))).run sampleBooted =
        .ok d' w' ∧
      ((∀ h x, Registered d'.gpuControllers h x ↔ Registered sampleDaemon.gpuControllers h x) ∧
        SameIdentifiers sampleDaemon.config d'.config) :=
  have hrun : (handleConnection sampleEnv sampleDaemon (.action (.startFanControl 7))).run
      sampleBooted = .ok _ _ := rfl
  ⟨_, _, sample_reachable, fun _ => by simp, hrun,
    only_setConfig_moves_cards sample_reachable (fun _ => by simp) hrun⟩

/-! ### Runs -/

/-- What holds in every state of such a run: the config saved at `/etc/lact.json` has distinct
identifiers, and a running daemon is settled. -/
structure Host.Stable (cards : List GpuIdentifier) (s : Host) : Prop where
  store : ∀ c, s.world.files CONFIG_PATH = some c → Distinct c
  running : ∀ d, s.daemon = some d → Settled cards d s.world

/-- From `w` to `w'` every entry of the config at `/etc/lact.json` keeps its identifier. -/
def StoreKept (w w' : World) : Prop := ∀ h x, StoredAt w h x → StoredAt w' h x

section Steps

variable {cards : List GpuIdentifier} (hcards : cards.Nodup)
include hcards

/-- `Daemon::new` on a store with distinct identifiers settles the daemon, or saves nothing. -/
theorem start_stable {env : Env} {w : World} (hperm : (discovered env.drm).Perm cards)
    (hfresh : FreshDraws env (Daemon.readConfig false w) { w with socket := true, fanLoops := [] })
    (hstore : ∀ c, w.files CONFIG_PATH = some c → Distinct c) :
    (Host.after ((Daemon.new env false).run { w with fanLoops := [] })).Stable cards ∧
      StoreKept w (Host.after ((Daemon.new env false).run { w with fanLoops := [] })).world := by
  have hd₀ : Distinct (Daemon.readConfig false w) := by
    cases hc : w.files CONFIG_PATH with
    | none => simp [Distinct, Daemon.readConfig, readFromFile, hc, Config.new]
    | some c => simpa [Daemon.readConfig, readFromFile, hc, Distinct] using hstore c hc
  have hkeep₀ : ∀ h x, StoredAt w h x →
      ∃ g, (Daemon.readConfig false w).gpuConfigs.lookup h = some (x, g) := by
    rintro h x ⟨c, g, hc, hg⟩
    exact ⟨g, by simp [Daemon.readConfig, readFromFile, hc, hg]⟩
  rcases hnew : (Daemon.new env false).run { w with fanLoops := [] } with ⟨d, w'⟩ | ⟨e, w'⟩ <;>
    simp only [Host.after_ok, Host.after_error]
  · obtain ⟨w₁, hl, hsave, -⟩ := Daemon.new_cases hnew
    have hsaved : w'.files d.config.configPath = some d.config := by
      rw [hsave rfl]
      simp [World.saved]
    obtain ⟨hS, hkeep⟩ := settled_of_load hcards hperm hfresh hd₀
      (Daemon.readConfig_configPath false w) hl hsaved
    refine ⟨⟨fun c hc => ?_, fun _ h => ?_⟩, fun h x hx => ?_⟩
    · rw [hS.saved, Option.some_inj] at hc
      exact hc ▸ hS.distinct
    · cases h
      exact hS
    · obtain ⟨g, hg⟩ := hkeep₀ h x hx
      exact ⟨d.config, g, hS.saved, hkeep h _ hg⟩
  · have hf : w'.files = w.files := (Daemon.new_error_files hnew :)
    exact ⟨⟨fun c hc => hstore c (hf ▸ hc), nofun⟩,
      fun h x ⟨c, g, hc, hg⟩ => ⟨c, g, hf ▸ hc, hg⟩⟩

/-- A connection to a settled daemon leaves it settled when it carries on, and however it ends
keeps the identifiers of the store's entries. -/
theorem handle_stable {env : Env} {d : Daemon} {w : World} {req : Request}
    (hperm : (discovered env.drm).Perm cards)
    (hset : ∀ config, req = .action (.setConfig config) → config = d.config)
    (hs : Settled cards d w) :
    (Host.after ((handleConnection env d req).run w)).Stable cards ∧
      StoreKept w (Host.after ((handleConnection env d req).run w)).world := by
  have after : ∀ {w'}, Stored env d w req w' →
      (∀ c, w'.files CONFIG_PATH = some c → Distinct c) ∧ StoreKept w w' := by
    intro w' h
    obtain ⟨config, hfile, hsame⟩ := hs.stored hperm hset h
    refine ⟨fun c hc => ?_, fun h x ⟨c, g, hc, hg⟩ => ?_⟩
    · rw [hfile, Option.some_inj] at hc
      exact hc ▸ hs.distinct.of_sameIdentifiers hsame
    · rw [hs.saved, Option.some_inj] at hc
      obtain ⟨g', hg'⟩ := (hsame h x).mp ⟨g, hc ▸ hg⟩
      exact ⟨config, g', hfile, hg'⟩
  obtain ⟨hstore, hkept⟩ :=
    after (handleConnection_stored : Stored env d w req (worldOf ((handleConnection env d req).run w)))
  rcases hrun : (handleConnection env d req).run w with ⟨d', w'⟩ | ⟨e, w'⟩ <;>
    rw [hrun] at hstore hkept <;> simp only [Host.after_ok, Host.after_error, worldOf_ok,
      worldOf_error] at hstore hkept ⊢
  · refine ⟨⟨hstore, fun _ h => ?_⟩, hkept⟩
    cases h
    exact hs.handled hperm hset hcards (handleConnection_cases hrun)
  · exact ⟨⟨hstore, nofun⟩, hkept⟩

theorem StableStep.stable {s s' : Host} (step : StableStep cards s s') (hs : s.Stable cards) :
    s'.Stable cards ∧ StoreKept s.world s'.world := by
  cases step with
  | start hperm hfresh => exact start_stable hcards hperm hfresh hs.store
  | handle hperm hset => exact handle_stable hcards hperm hset (hs.running _ rfl)
  | stop => exact ⟨⟨hs.store, nofun⟩, fun _ _ => id⟩

theorem stable_run {s s' : Host} (hrun : Relation.ReflTransGen (StableStep cards) s s')
    (hs : s.Stable cards) : s'.Stable cards ∧ StoreKept s.world s'.world := by
  induction hrun with
  | refl => exact ⟨hs, fun _ _ => id⟩
  | tail _ step ih =>
    obtain ⟨hst, hkept⟩ := step.stable hcards ih.1
    exact ⟨hst, fun h x hx => hkept h x (ih.2 h x hx)⟩

end Steps

/-- The sample machine once the daemon has started on it. -/
def sampleUp : Host :=
  Host.after ((Daemon.new sampleEnv false).run { bareWorld with fanLoops := [] })

/-- The sample machine after the daemon was stopped and started again. -/
def sampleRestarted : Host :=
  Host.after ((Daemon.new sampleEnv false).run { sampleUp.world with fanLoops := [] })

theorem sample_started : Relation.ReflTransGen (StableStep [sampleId]) ⟨none, bareWorld⟩ sampleUp :=
  .single (.start (by decide) (by decide))

theorem sample_restarted :
    Relation.ReflTransGen (StableStep [sampleId]) sampleUp sampleRestarted :=
  .tail (.single .stop) (.start (by decide) (by decide))

/-- Across every run of a privileged daemon with restarts, on a machine that lists the same cards
(with distinct identifiers) in any order, from a store with distinct identifiers, where
`random()` draws handles that are not yet keys and `SetConfig` carries the config `GetConfig`
answers: a card registered under `h` is registered under `h` in every later running daemon, whose
config's entry under `h` carries the card's identifier, and the config's identifiers stay
distinct.  And `load_gpu_controllers` run on the config it returned registers every listed card
under the same handle again and returns that config. -/
theorem handle_kept_across_restarts {cards : List GpuIdentifier} (hcards : cards.Nodup)
    {w₀ : World} (hstore : ∀ c, w₀.files CONFIG_PATH = some c → Distinct c) {s s' : Host}
    (hs : Relation.ReflTransGen (StableStep cards) ⟨none, w₀⟩ s)
    (hs' : Relation.ReflTransGen (StableStep cards) s s') :
    (∀ d d' h x, s.daemon = some d → s'.daemon = some d' → Registered d.gpuControllers h x →
      Registered d'.gpuControllers h x ∧ ∃ g, d'.config.gpuConfigs.lookup h = some (x, g)) ∧
    (∀ d', s'.daemon = some d' → Distinct d'.config) ∧
    (∀ (env env' : Env) (config : Config) (w w' : World), (discovered env.drm).Nodup →
      (discovered env'.drm).Perm (discovered env.drm) → Distinct config →
      FreshDraws env config w →
      (loadGpuControllers env' (loadGpuControllers env config w).1.2 w').1.2 =
          (loadGpuControllers env config w).1.2 ∧
        (∀ h x, Registered (loadGpuControllers env' (loadGpuControllers env config w).1.2 w').1.1 h x ↔
          Registered (loadGpuControllers env config w).1.1 h x) ∧
        ∀ x ∈ discovered env.drm, ∃ h, Registered (loadGpuControllers env config w).1.1 h x ∧
          Registered (loadGpuControllers env' (loadGpuControllers env config w).1.2 w').1.1 h x) := by
  obtain ⟨hst, -⟩ := stable_run hcards hs ⟨hstore, nofun⟩
  obtain ⟨hst', hkept⟩ := stable_run hcards hs' hst
  refine ⟨fun d d' h x hd hd' hreg => ?_, fun d' hd' => (hst'.running d' hd').distinct,
    fun _ _ _ _ _ hn hp hd hf => load_twice hn hp hd hf⟩
  have hS := hst.running d hd
  have hS' := hst'.running d' hd'
  obtain ⟨hx, g, hg⟩ := (hS.registered h x).mp hreg
  obtain ⟨c, g', hc, hg'⟩ := hkept h x ⟨d.config, g, hS.saved, hg⟩
  rw [hS'.saved, Option.some_inj] at hc
  subst hc
  exact ⟨(hS'.registered h x).mpr ⟨hx, g', hg'⟩, g', hg'⟩

theorem handle_kept_across_restarts_sample :
    [sampleId].Nodup ∧ (∀ c, bareWorld.files CONFIG_PATH = some c → Distinct c) ∧
      Relation.ReflTransGen (StableStep [sampleId]) ⟨none, bareWorld⟩ sampleUp ∧
      Relation.ReflTransGen (StableStep [sampleId]) sampleUp sampleRestarted ∧
      ((∀ d d' h x, sampleUp.daemon = some d → sampleRestarted.daemon = some d' →
          Registered d.gpuControllers h x →
          Registered d'.gpuControllers h x ∧ ∃ g, d'.config.gpuConfigs.lookup h = some (x, g)) ∧
        (∀ d', sampleRestarted.daemon = some d' → Distinct d'.config) ∧
        (∀ (env env' : Env) (config : Config) (w w' : World), (discovered env.drm).Nodup →
          (discovered env'.drm).Perm (discovered env.drm) → Distinct config →
          FreshDraws env config w →
          (loadGpuControllers env' (loadGpuControllers env config w).1.2 w').1.2 =
              (loadGpuControllers env config w).1.2 ∧
            (∀ h x,
              Registered (loadGpuControllers env' (loadGpuControllers env config w).1.2 w').1.1 h x ↔
                Registered (loadGpuControllers env config w).1.1 h x) ∧
            ∀ x ∈ discovered env.drm, ∃ h, Registered (loadGpuControllers env config w).1.1 h x ∧
              Registered (loadGpuControllers env' (loadGpuControllers env config w).1.2 w').1.1 h x)) :=
  ⟨by decide, by simp [bareWorld], sample_started, sample_restarted,
    handle_kept_across_restarts (by decide) (by simp [bareWorld]) sample_started sample_restarted⟩

end Lact
