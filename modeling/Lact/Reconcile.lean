import Lact.Daemon

/-! What `load_gpu_controllers` does with the cards it finds, when every handle `random()` draws
is not yet a key of the config (`DrawsFresh`): it registers one controller for each card, every
thread it starts belongs to one of them, it keeps every entry of the config it was given, and it
keeps the identifiers of the config pairwise distinct.  On a config that already holds every card it changes nothing, and registers each card
under the handle the config gives it, whatever the order of the listing and of the map.  Without
the hypothesis on the draws, a drawn handle that is already a key overwrites that entry. -/

namespace Lact

/-- The identifiers of the cards a listing of `/sys/class/drm` shows, in order. -/
def discovered (drm : List DrmEntry) : List GpuIdentifier :=
  (drm.filter fun e => isCard e.fileName).map (·.device.identifier)

@[simp] theorem discovered_nil : discovered [] = [] := rfl

theorem discovered_cons (e : DrmEntry) (es : List DrmEntry) :
    discovered (e :: es) =
      (if isCard e.fileName then [e.device.identifier] else []) ++ discovered es := by
  cases h : isCard e.fileName <;> simp [discovered, List.filter_cons, h]

/-- Every value `random()` returns while `load_gpu_controllers` walks `entries` from `s` is not
yet a key of the config; `random()` is called for a card whose identifier the inner loop does not
find. -/
def DrawsFresh (env : Env) (pciDb : Option PciDatabase) : Loading → List DrmEntry → Prop
  | _, [] => True
  | s, e :: es =>
    (isCard e.fileName = true →
      findConfig e.device.identifier (env.configOrder.visit s.config.gpuConfigs) = none →
      env.random s.draws ∉ s.config.gpuConfigs) ∧
    DrawsFresh env pciDb (loadEntry env pciDb s e) es

instance DrawsFresh.decidable (env : Env) (pciDb : Option PciDatabase) :
    (s : Loading) → (entries : List DrmEntry) → Decidable (DrawsFresh env pciDb s entries)
  | _, [] => isTrue trivial
  | s, e :: es =>
    have := DrawsFresh.decidable env pciDb (loadEntry env pciDb s e) es
    inferInstanceAs (Decidable (_ ∧ _))

/-- The draws of one `load_gpu_controllers env config` run in `w` are fresh. -/
def FreshDraws (env : Env) (config : Config) (w : World) : Prop :=
  DrawsFresh env (pciDb env config) (Loading.init config w) env.drm

instance FreshDraws.decidable (env : Env) (config : Config) (w : World) :
    Decidable (FreshDraws env config w) :=
  DrawsFresh.decidable env _ _ _

/-- The controller under `h` is for the card `x`. -/
def Registered (gpuControllers : HashMap GpuController) (h : UInt32) (x : GpuIdentifier) : Prop :=
  ∃ c, gpuControllers.lookup h = some c ∧ c.identifier = x

/-- No two entries of the config carry one identifier. -/
def Distinct (config : Config) : Prop :=
  ∀ h h' x g g', config.gpuConfigs.lookup h = some (x, g) →
    config.gpuConfigs.lookup h' = some (x, g') → h = h'

/-! ### The walk's invariant -/

/-- What the walk keeps of controllers and config, from no controller and `config₀`: the two
agree, the entries of `config₀` stay, and the controllers are one for each card of `done`, the
cards walked so far. -/
structure Reconciled (config₀ : Config) (done : List GpuIdentifier)
    (r : HashMap GpuController × Config) : Prop where
  consistent : Consistent r.1 r.2
  keeps : ∀ h v, config₀.gpuConfigs.lookup h = some v → r.2.gpuConfigs.lookup h = some v
  perm : (r.1.entries.map (·.2.identifier)).Perm done

theorem reconciled_init (config : Config) : Reconciled config [] (∅, config) :=
  ⟨consistent_empty config, fun _ _ h => h, by simp⟩

/-- A handle whose controller is for a card not walked yet is no key of the controllers. -/
theorem Reconciled.not_mem {config₀ : Config} {done : List GpuIdentifier}
    {r : HashMap GpuController × Config} (hs : Reconciled config₀ done r) {k : UInt32}
    {x : GpuIdentifier} {g : GpuConfig} (hk : r.2.gpuConfigs.lookup k = some (x, g))
    (hx : x ∉ done) : k ∉ r.1 := by
  intro hmem
  obtain ⟨c, hc⟩ := Option.isSome_iff_exists.mp (AList.lookup_isSome.mpr hmem)
  obtain ⟨g', hg'⟩ := hs.consistent k c hc
  rw [hk, Option.some_inj, Prod.mk.injEq] at hg'
  refine hx (hs.perm.mem_iff.mp (List.mem_map.mpr ⟨⟨k, c⟩, ?_, hg'.1.symm⟩))
  exact AList.mem_lookup_iff.mp hc

/-- Every thread of `w'` ran in `w` or belongs to one of the controllers `gc`. -/
def Adopted (w : World) (gc : HashMap GpuController) (w' : World) : Prop :=
  ∀ l ∈ w'.fanLoops, l ∈ w.fanLoops ∨ ∃ h c, gc.lookup h = some c ∧ l.owner = c.serial

/-- A controller registered under a handle that had none adopts every thread it started. -/
theorem Adopted.insert {w w₀ w' : World} {gc : HashMap GpuController} (ha : Adopted w gc w₀)
    {k : UInt32} (hk : k ∉ gc) {c : GpuController}
    (hmem : ∀ l ∈ w'.fanLoops, l ∈ w₀.fanLoops ∨ l.owner = c.serial) :
    Adopted w (gc.insert k c) w' := fun l hl => by
  rcases hmem l hl with hl | ho
  · refine (ha l hl).imp_right fun ⟨h, c', hc', ho⟩ => ⟨h, c', ?_, ho⟩
    have hne : h ≠ k := fun hh => hk (hh ▸ AList.lookup_isSome.mp (by rw [hc']; rfl))
    rwa [AList.lookup_insert_ne hne]
  · exact .inr ⟨k, c, AList.lookup_insert _, ho⟩

/-- A controller under a handle that had none adds its card to the cards walked. -/
theorem perm_insert_of_not_mem {gc : HashMap GpuController} {done : List GpuIdentifier}
    (hp : (gc.entries.map (·.2.identifier)).Perm done) {k : UInt32} (hk : k ∉ gc)
    (c : GpuController) :
    ((gc.insert k c).entries.map (·.2.identifier)).Perm (done ++ [c.identifier]) := by
  rw [AList.insert_entries_of_neg hk, List.map_cons]
  exact (hp.cons _).trans (List.perm_append_singleton _ _).symm

/-- A handle with a controller is a key of the config. -/
theorem Consistent.mem {gc : HashMap GpuController} {config : Config} (hc : Consistent gc config)
    {k : UInt32} (hk : k ∈ gc) : k ∈ config.gpuConfigs := by
  obtain ⟨c, hl⟩ := Option.isSome_iff_exists.mp (AList.lookup_isSome.mpr hk)
  obtain ⟨g, hg⟩ := hc k c hl
  exact AList.lookup_isSome.mp (by rw [hg]; rfl)

section Step

variable (env : Env) (pciDb : Option PciDatabase) {config₀ : Config}
  {done : List GpuIdentifier} {s : Loading} {e : DrmEntry}

theorem loadEntry_reconciled (hs : Reconciled config₀ done (s.gpuControllers, s.config))
    (hnew : isCard e.fileName = true → e.device.identifier ∉ done)
    (hfresh : isCard e.fileName = true →
      findConfig e.device.identifier (env.configOrder.visit s.config.gpuConfigs) = none →
      env.random s.draws ∉ s.config.gpuConfigs) :
    Reconciled config₀ (done ++ discovered [e])
      ((loadEntry env pciDb s e).gpuControllers, (loadEntry env pciDb s e).config) := by
  cases hcard : isCard e.fileName
  · rw [loadEntry_not_card env pciDb s hcard]
    simpa [discovered_cons, hcard] using hs
  simp only [discovered_cons, hcard, if_true, discovered_nil, List.append_nil]
  rcases loadEntry_card env pciDb s hcard with
    ⟨k, g, c, w, hk, hcid, heq⟩ | ⟨hnone, c, w, hcid, heq⟩ <;> rw [heq, ← hcid]
  · rw [← hcid] at hk
    exact ⟨hs.consistent.insert hk, hs.keeps,
      perm_insert_of_not_mem hs.perm (hs.not_mem hk (hcid ▸ hnew hcard)) c⟩
  · have hr := hfresh hcard (findConfig_eq_none hnone)
    refine ⟨hs.consistent.insert_both _ c GpuConfig.new, fun h v hv => ?_,
      perm_insert_of_not_mem hs.perm (fun hmem => hr (hs.consistent.mem hmem)) c⟩
    have hne : h ≠ env.random s.draws := fun hh =>
      hr (hh ▸ AList.lookup_isSome.mp (by rw [hs.keeps h v hv]; rfl))
    rw [Config.insert_gpuConfigs, AList.lookup_insert_ne hne]
    exact hs.keeps h v hv

/-- The walk's controllers adopt every thread started since `w`, as long as no handle is
overwritten: a card walked while its handle is fresh takes the thread its settings start. -/
theorem loadEntry_adopted {w : World} (hs : Reconciled config₀ done (s.gpuControllers, s.config))
    (hnew : isCard e.fileName = true → e.device.identifier ∉ done)
    (hfresh : isCard e.fileName = true →
      findConfig e.device.identifier (env.configOrder.visit s.config.gpuConfigs) = none →
      env.random s.draws ∉ s.config.gpuConfigs)
    (ha : Adopted w s.gpuControllers s.world) :
    Adopted w (loadEntry env pciDb s e).gpuControllers (loadEntry env pciDb s e).world := by
  cases hcard : isCard e.fileName
  · rwa [loadEntry_not_card env pciDb s hcard]
  simp only [loadEntry, hcard, if_true]
  split
  · rename_i k g hfind
    refine ha.insert (hs.not_mem (lookup_of_findConfig hfind) (hnew hcard)) fun l hl => ?_
    rw [GpuController.loadConfig_fanLoops] at hl
    split at hl
    · exact (ControllerCall.startFanControl.mem_loops _ _ hl).imp_right fun h => by subst h; rfl
    · exact .inl hl
  · rename_i hnone
    exact ha.insert (fun hmem => hfresh hcard hnone (hs.consistent.mem hmem)) fun l hl => .inl hl

end Step

/-- The head of a listing whose cards have distinct identifiers, none among `done`, is not
among `done`. -/
theorem not_mem_of_nodup {done : List GpuIdentifier} {e : DrmEntry} {es : List DrmEntry}
    (hnd : (done ++ discovered (e :: es)).Nodup) (hc : isCard e.fileName = true) :
    e.device.identifier ∉ done := fun hmem => by
  rw [discovered_cons, hc, if_pos rfl, ← List.append_assoc] at hnd
  exact (List.nodup_append.mp (List.nodup_append.mp hnd).1).2.2 hmem (List.mem_singleton_self _)

theorem foldl_reconciled (env : Env) (pciDb : Option PciDatabase) (config₀ : Config) :
    ∀ (es : List DrmEntry) (s : Loading) (done : List GpuIdentifier),
      Reconciled config₀ done (s.gpuControllers, s.config) → (done ++ discovered es).Nodup →
      DrawsFresh env pciDb s es →
      Reconciled config₀ (done ++ discovered es)
        ((es.foldl (loadEntry env pciDb) s).gpuControllers, (es.foldl (loadEntry env pciDb) s).config)
  | [], s, done, hs, _, _ => by simpa using hs
  | e :: es, s, done, hs, hnd, ⟨hfresh, hrest⟩ => by
    have := loadEntry_reconciled env pciDb hs (not_mem_of_nodup hnd) hfresh
    rw [discovered_cons, ← List.append_assoc] at hnd ⊢
    rw [discovered_cons, discovered_nil, List.append_nil] at this
    exact foldl_reconciled env pciDb config₀ es _ _ this hnd hrest

theorem foldl_adopted (env : Env) (pciDb : Option PciDatabase) (config₀ : Config) (w : World) :
    ∀ (es : List DrmEntry) (s : Loading) (done : List GpuIdentifier),
      Reconciled config₀ done (s.gpuControllers, s.config) → (done ++ discovered es).Nodup →
      DrawsFresh env pciDb s es → Adopted w s.gpuControllers s.world →
      Adopted w (es.foldl (loadEntry env pciDb) s).gpuControllers
        (es.foldl (loadEntry env pciDb) s).world
  | [], _, _, _, _, _, ha => ha
  | e :: es, s, done, hs, hnd, ⟨hfresh, hrest⟩, ha => by
    have ha' := loadEntry_adopted env pciDb hs (not_mem_of_nodup hnd) hfresh ha
    have hs' := loadEntry_reconciled env pciDb hs (not_mem_of_nodup hnd) hfresh
    rw [discovered_cons, ← List.append_assoc] at hnd
    rw [discovered_cons, discovered_nil, List.append_nil] at hs'
    exact foldl_adopted env pciDb config₀ w es _ _ hs' hnd hrest ha'

/-- What one `load_gpu_controllers` run with fresh draws returns, for cards with distinct
identifiers. -/
theorem loadGpuControllers_reconciled {env : Env} {config : Config} {w : World}
    (hcards : (discovered env.drm).Nodup) (hfresh : FreshDraws env config w) :
    Reconciled config (discovered env.drm) (loadGpuControllers env config w).1 := by
  simpa using foldl_reconciled env _ config env.drm (Loading.init config w) [] (reconciled_init config)
    (by simpa using hcards) hfresh

/-- With fresh draws, on cards with distinct identifiers, every thread `load_gpu_controllers`
starts belongs to a controller it returns: no controller the walk builds is overwritten. -/
theorem loadGpuControllers_adopted {env : Env} {config : Config} {w : World}
    (hcards : (discovered env.drm).Nodup) (hfresh : FreshDraws env config w) :
    Adopted w (loadGpuControllers env config w).1.1 (loadGpuControllers env config w).2 :=
  foldl_adopted env _ config w env.drm (Loading.init config w) [] (reconciled_init config)
    (by simpa using hcards) hfresh fun _ hl => .inl hl

/-- When every value `random()` returns is not yet a key of the config, `load_gpu_controllers`
returns one controller for each card it finds, each under its own handle (the keys of a map are
distinct), and keeps every entry of the config it was given. -/
theorem load_one_controller_per_card (env : Env) (config : Config) (w : World)
    (hcards : (discovered env.drm).Nodup) (hfresh : FreshDraws env config w) :
    ((loadGpuControllers env config w).1.1.entries.map (·.2.identifier)).Perm (discovered env.drm) ∧
      ∀ h v, config.gpuConfigs.lookup h = some v →
        (loadGpuControllers env config w).1.2.gpuConfigs.lookup h = some v :=
  ⟨(loadGpuControllers_reconciled hcards hfresh).perm,
    (loadGpuControllers_reconciled hcards hfresh).keeps⟩

theorem load_one_controller_per_card_two_cards :
    (discovered twoCardEnv.drm).Nodup ∧ FreshDraws twoCardEnv (Config.new CONFIG_PATH) bareWorld ∧
      (((loadGpuControllers twoCardEnv (Config.new CONFIG_PATH) bareWorld).1.1.entries.map
          (·.2.identifier)).Perm (discovered twoCardEnv.drm) ∧
        ∀ h v, (Config.new CONFIG_PATH).gpuConfigs.lookup h = some v →
          (loadGpuControllers twoCardEnv (Config.new CONFIG_PATH) bareWorld).1.2.gpuConfigs.lookup h =
            some v) :=
  ⟨by decide, by decide, load_one_controller_per_card _ _ _ (by decide) (by decide)⟩

/-- A card that has left the machine. -/
def staleId : GpuIdentifier := { sampleId with pciSlot := "0000:05:00.0" }

/-- A config that still holds the settings of the card that left, under handle `7`. -/
def staleConfig : Config :=
  (Config.new CONFIG_PATH).insert 7 (staleId, { GpuConfig.new with powerCap := some 120 })

/-- The machine with two cards, on which `random()` returns `7` every time. -/
def collidingEnv : Env := { twoCardEnv with random := fun _ => 7 }

/-- A value of `random()` that is already a key overwrites the entry under it: from a config that
holds a card that left under `7`, the first card's draw overwrites that entry and the second
card's draw overwrites the first card's, so the two cards get one controller. -/
theorem random_handle_collision :
    (discovered collidingEnv.drm).Nodup ∧
      ¬ ((loadGpuControllers collidingEnv staleConfig bareWorld).1.1.entries.map
          (·.2.identifier)).Perm (discovered collidingEnv.drm) ∧
      (loadGpuControllers collidingEnv staleConfig bareWorld).1.2.gpuConfigs.lookup 7 ≠
        staleConfig.gpuConfigs.lookup 7 :=
  ⟨by decide, by decide, by decide⟩

/-! ### Distinct identifiers -/

/-- Writing an entry whose identifier no other key carries keeps the identifiers distinct. -/
theorem Distinct.insert {config : Config} (hd : Distinct config) {i : UInt32} {x : GpuIdentifier}
    (hx : ∀ h v, h ≠ i → config.gpuConfigs.lookup h = some v → v.1 ≠ x) (g : GpuConfig) :
    Distinct (config.insert i (x, g)) := by
  intro h h' y g₁ g₂ h₁ h₂
  simp only [Config.insert_gpuConfigs] at h₁ h₂
  by_cases hh : h = i <;> by_cases hh' : h' = i
  · rw [hh, hh']
  · rw [hh, AList.lookup_insert, Option.some_inj, Prod.mk.injEq] at h₁
    rw [AList.lookup_insert_ne hh'] at h₂
    exact absurd h₁.1.symm (hx h' _ hh' h₂)
  · rw [hh', AList.lookup_insert, Option.some_inj, Prod.mk.injEq] at h₂
    rw [AList.lookup_insert_ne hh] at h₁
    exact absurd h₂.1.symm (hx h _ hh h₁)
  · rw [AList.lookup_insert_ne hh] at h₁
    rw [AList.lookup_insert_ne hh'] at h₂
    exact hd h h' y g₁ g₂ h₁ h₂

theorem loadEntry_distinct (env : Env) (pciDb : Option PciDatabase) {s : Loading}
    (hd : Distinct s.config) (e : DrmEntry) : Distinct (loadEntry env pciDb s e).config := by
  cases hcard : isCard e.fileName
  · rwa [loadEntry_not_card env pciDb s hcard]
  · rcases loadEntry_card env pciDb s hcard with ⟨_, _, _, _, -, -, heq⟩ | ⟨hnone, _, _, -, heq⟩ <;>
      rw [heq]
    · exact hd
    · exact hd.insert (fun h v _ hv => hnone h v hv) _

/-- `load_gpu_controllers` keeps the identifiers of the config distinct, whatever `random()`
returns: a new entry is written only for an identifier no entry carries. -/
theorem loadGpuControllers_distinct (env : Env) {config : Config} (w : World)
    (hd : Distinct config) : Distinct (loadGpuControllers env config w).1.2 :=
  List.foldlRecOn (motive := fun s : Loading => Distinct s.config) env.drm _ _ hd
    fun _ hs e _ => loadEntry_distinct env _ hs e

/-! ### The order of the inner loop -/

/-- With distinct identifiers the inner loop finds the same entry in every order. -/
theorem findConfig_visit_eq {config : Config} (hd : Distinct config) (i : GpuIdentifier)
    (o o' : IterOrder (GpuIdentifier × GpuConfig)) :
    findConfig i (o.visit config.gpuConfigs) = findConfig i (o'.visit config.gpuConfigs) := by
  have found : ∀ {o o' : IterOrder (GpuIdentifier × GpuConfig)} {id g},
      findConfig i (o.visit config.gpuConfigs) = some (id, g) →
        findConfig i (o'.visit config.gpuConfigs) = some (id, g) := by
    intro o o' id g h
    have hl := lookup_of_findConfig h
    cases h' : findConfig i (o'.visit config.gpuConfigs) with
    | none => exact absurd rfl (lookup_of_findConfig_none h' hl)
    | some r =>
      have hl' := lookup_of_findConfig h'
      obtain rfl := hd _ _ _ _ _ hl' hl
      rw [hl, Option.some_inj, Prod.mk.injEq] at hl'
      rw [hl'.2]
  exact Option.ext fun _ => ⟨found, found⟩

/-- When the identifiers of the config are distinct, the order in which Rust's `HashMap`
visits the config in the inner loop does not matter: `load_gpu_controllers` returns the same
controllers, config and world for every order. -/
theorem load_independent_of_config_order (env : Env) (o : IterOrder (GpuIdentifier × GpuConfig))
    {config : Config} (hd : Distinct config) (w : World) :
    loadGpuControllers { env with configOrder := o } config w = loadGpuControllers env config w := by
  have step : ∀ (s : Loading), Distinct s.config → ∀ e,
      loadEntry { env with configOrder := o } (pciDb env config) s e =
        loadEntry env (pciDb env config) s e := by
    intro s hs e
    simp only [loadEntry, findConfig_visit_eq hs _ o env.configOrder]
  have walk : ∀ (l : List DrmEntry) (s : Loading), Distinct s.config →
      l.foldl (loadEntry { env with configOrder := o } (pciDb env config)) s =
        l.foldl (loadEntry env (pciDb env config)) s := by
    intro l
    induction l with
    | nil => intro _ _; rfl
    | cons e rest ih =>
      intro s hs
      rw [List.foldl_cons, List.foldl_cons, step s hs e]
      exact ih _ (loadEntry_distinct env _ hs e)
  simp only [loadGpuControllers]
  rw [show pciDb { env with configOrder := o } config = pciDb env config from rfl,
    show ({ env with configOrder := o } : Env).drm = env.drm from rfl, walk env.drm _ hd]

theorem load_independent_of_config_order_sample :
    Distinct (Config.new CONFIG_PATH) ∧
      loadGpuControllers { twoCardEnv with configOrder := IterOrder.stored _ } (Config.new CONFIG_PATH)
          bareWorld =
        loadGpuControllers twoCardEnv (Config.new CONFIG_PATH) bareWorld :=
  have hd : Distinct (Config.new CONFIG_PATH) := fun _ _ _ _ _ h => by simp [Config.new] at h
  ⟨hd, load_independent_of_config_order twoCardEnv _ hd bareWorld⟩

/-! ### A config that holds every card -/

/-- A controller for each card of `cards`, from one for each card. -/
theorem registered_of_perm {gc : HashMap GpuController} {cards : List GpuIdentifier}
    (hp : (gc.entries.map (·.2.identifier)).Perm cards) {x : GpuIdentifier} (hx : x ∈ cards) :
    ∃ h, Registered gc h x := by
  obtain ⟨⟨k, c⟩, hk, rfl⟩ := List.mem_map.mp (hp.mem_iff.mpr hx)
  exact ⟨k, c, Option.mem_def.mp (AList.mem_lookup_iff.mpr hk), rfl⟩

/-- For controllers that agree with a config with distinct identifiers, one for each card, the
controller under `h` is for `x` exactly when `x` is a card and the config's entry under `h`
carries `x`. -/
theorem registered_iff {gc : HashMap GpuController} {config : Config} {cards : List GpuIdentifier}
    (hc : Consistent gc config) (hd : Distinct config)
    (hp : (gc.entries.map (·.2.identifier)).Perm cards) (h : UInt32) (x : GpuIdentifier) :
    Registered gc h x ↔ x ∈ cards ∧ ∃ g, config.gpuConfigs.lookup h = some (x, g) := by
  constructor
  · rintro ⟨c, hl, rfl⟩
    refine ⟨hp.mem_iff.mp (List.mem_map.mpr ⟨⟨h, c⟩, ?_, rfl⟩), hc h c hl⟩
    exact AList.mem_lookup_iff.mp (Option.mem_def.mpr hl)
  · rintro ⟨hx, g, hg⟩
    obtain ⟨k, c, hl, rfl⟩ := registered_of_perm hp hx
    obtain ⟨g', hg'⟩ := hc k c hl
    exact ⟨c, hd k h _ _ _ hg' hg ▸ hl, rfl⟩

section Known

variable (env : Env) (pciDb : Option PciDatabase)

/-- A card whose identifier the config holds is matched, and the config stays. -/
theorem loadEntry_known (s : Loading) (e : DrmEntry)
    (hk : isCard e.fileName = true →
      ∃ h g, s.config.gpuConfigs.lookup h = some (e.device.identifier, g)) :
    (isCard e.fileName = true →
      findConfig e.device.identifier (env.configOrder.visit s.config.gpuConfigs) ≠ none) ∧
    (loadEntry env pciDb s e).config = s.config := by
  cases hcard : isCard e.fileName
  · exact ⟨nofun, by rw [loadEntry_not_card env pciDb s hcard]⟩
  obtain ⟨h, g, hl⟩ := hk hcard
  refine ⟨fun _ hf => lookup_of_findConfig_none hf hl rfl, ?_⟩
  rcases loadEntry_card env pciDb s hcard with ⟨_, _, _, _, -, -, heq⟩ | ⟨hnone, -⟩
  · rw [heq]
  · exact absurd rfl (hnone h _ hl)

/-- On a config that holds every card of the listing, the walk never calls `random()` and
returns the config unchanged. -/
theorem foldl_known : ∀ (es : List DrmEntry) (s : Loading),
    (∀ x ∈ discovered es, ∃ h g, s.config.gpuConfigs.lookup h = some (x, g)) →
    DrawsFresh env pciDb s es ∧ (es.foldl (loadEntry env pciDb) s).config = s.config
  | [], _, _ => ⟨trivial, rfl⟩
  | e :: es, s, hk => by
    rw [discovered_cons] at hk
    have hstep := loadEntry_known env pciDb s e fun hc =>
      hk _ (List.mem_append_left _ (by simp [hc]))
    obtain ⟨hfresh, hconfig⟩ := foldl_known es (loadEntry env pciDb s e) fun x hx => by
      rw [hstep.2]
      exact hk x (List.mem_append_right _ hx)
    exact ⟨⟨fun hc hf => absurd hf (hstep.1 hc), hfresh⟩, hconfig.trans hstep.2⟩

end Known

/-- `load_gpu_controllers` on a config that holds every card it finds draws nothing and returns
the config unchanged. -/
theorem loadGpuControllers_known (env : Env) {config : Config} (w : World)
    (hk : ∀ x ∈ discovered env.drm, ∃ h g, config.gpuConfigs.lookup h = some (x, g)) :
    FreshDraws env config w ∧ (loadGpuControllers env config w).1.2 = config :=
  foldl_known env _ env.drm (Loading.init config w) hk

/-- `load_gpu_controllers` run again on the config it returned, with the same cards listed in any
order and the map visited in any order, returns that config unchanged and registers every card
under the same handle. -/
theorem load_twice {env env' : Env} {config : Config} {w w' : World}
    (hcards : (discovered env.drm).Nodup) (hperm : (discovered env'.drm).Perm (discovered env.drm))
    (hd : Distinct config) (hfresh : FreshDraws env config w) :
    (loadGpuControllers env' (loadGpuControllers env config w).1.2 w').1.2 =
        (loadGpuControllers env config w).1.2 ∧
      (∀ h x, Registered (loadGpuControllers env' (loadGpuControllers env config w).1.2 w').1.1 h x ↔
        Registered (loadGpuControllers env config w).1.1 h x) ∧
      ∀ x ∈ discovered env.drm, ∃ h, Registered (loadGpuControllers env config w).1.1 h x ∧
        Registered (loadGpuControllers env' (loadGpuControllers env config w).1.2 w').1.1 h x := by
  have h₁ := loadGpuControllers_reconciled hcards hfresh
  have hd₁ := loadGpuControllers_distinct env w hd
  obtain ⟨hfresh', hconfig⟩ := loadGpuControllers_known env' w' fun x hx => by
    obtain ⟨h, c, hl, rfl⟩ := registered_of_perm h₁.perm (hperm.subset hx)
    exact ⟨h, h₁.consistent h c hl⟩
  have h₂ := loadGpuControllers_reconciled (hperm.nodup_iff.mpr hcards) hfresh'
  have hiff : ∀ h x, Registered (loadGpuControllers env' (loadGpuControllers env config w).1.2 w').1.1 h x ↔
      Registered (loadGpuControllers env config w).1.1 h x := fun h x => by
    rw [registered_iff h₂.consistent (by rw [hconfig]; exact hd₁) h₂.perm,
      registered_iff h₁.consistent hd₁ h₁.perm, hperm.mem_iff, hconfig]
  refine ⟨hconfig, hiff, fun x hx => ?_⟩
  obtain ⟨h, hreg⟩ := registered_of_perm h₁.perm hx
  exact ⟨h, hreg, (hiff h x).mpr hreg⟩

end Lact
