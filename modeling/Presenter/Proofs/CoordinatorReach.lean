import Mathlib
import Presenter.Session.Coordinator
import Presenter.Proofs.Lifecycle
import Presenter.Proofs.PixelExtent
/-!
# Reachable coordinator sessions — what every run keeps

A session is reachable when steps lead to it from a start, or initialisations with a
configuration of any size. Every reachable session has a sound coordinator (`Coordinator.Sound`)
and devices holding exactly its live backend's native resources (`Devices.Holds`); each is proved
for one step (`step_invariant`, `setup_invariant`) and from that for every run. Coordinator calls
are read through their triples (`Act.runAct_of_triple`).
-/

namespace Presenter

open Std.Do

set_option mvcgen.warning false

/-! ## Running a call that has a triple -/

/-- **A triple over `Act` says what running the call gives**: from devices meeting the
precondition, the result or the stop, with the devices afterwards, meets the postcondition. -/
theorem Act.runAct_of_triple {α : Type} {x : Act α} {P : Devices → Prop} {Q : α → Devices → Prop}
    {E : Stop → Devices → Prop}
    (h : ⦃fun d => ⌜P d⌝⦄ x ⦃post⟨fun a d => ⌜Q a d⌝, fun e d => ⌜E e d⌝⟩⦄) {d : Devices}
    (hd : P d) :
    match runAct x d with
    | (.ok a, d') => Q a d'
    | (.error e, d') => E e d' := by
  have hwp := h d hd
  simp only [wp, PredTrans.apply] at hwp
  unfold runAct
  split at hwp <;> simp_all

theorem Act.runAct_of_noThrow {α : Type} {x : Act α} {P : Devices → Prop} {Q : α → Devices → Prop}
    (h : ⦃fun d => ⌜P d⌝⦄ x ⦃⇓ a d => ⌜Q a d⌝⦄) {d : Devices} (hd : P d) :
    ∃ a d', runAct x d = (.ok a, d') ∧ Q a d' := by
  have hwp := h d hd
  simp only [wp, PredTrans.apply] at hwp
  unfold runAct
  split at hwp <;> simp_all

/-! ## The invariants -/

/-- What a coordinator keeps of its configuration and its live backend. Its memory holds four bytes
a pixel of its size when it is a compositor staging buffer, and when it is a raster section and
`whole` holds: sections are then never made short. -/
structure Coordinator.Sound (c : Coordinator) (whole : Prop) : Prop where
  /-- The stored configuration is valid and of a clamped size. -/
  config : ∀ cfg, c.config = some cfg → cfg.validate = .ok () ∧ cfg.dimension.clamped = cfg.dimension
  /-- A live backend has the coordinator's mode, and the stored configuration's surface and size. -/
  backend : ∀ b, c.backend = some b → b.mode = c.mode ∧
    ∃ cfg, c.config = some cfg ∧ cfg.surface = some b.surface ∧ b.dimension = cfg.dimension
  /-- A live backend's memory is whole, unless it is a raster section that may have been made
  short. -/
  memory : ∀ b, c.backend = some b → (b.mode = .raster → whole) →
    b.memoryLen = b.dimension.width * b.dimension.height * 4

/-- Nothing held: no sections, factories or targets, over the devices' own windows and section
fault. -/
def Stock.idle (d : Devices) : Stock := ⟨0, 0, 0, d.surfaces.windows, d.raster.shortSection⟩

/-- The devices hold exactly the native resources of the live backend `live`, and have released
whole groups only. -/
def Devices.Holds (d : Devices) (live : Option Backend) : Prop :=
  d.Tally ((Stock.idle d).keep live) 0

theorem Devices.holds_of_tally {d : Devices} {k : Stock} {n : Nat} {live : Option Backend}
    (hk : k.sections = 0 ∧ k.factories = 0 ∧ k.targets = 0) (h : d.Tally (k.keep live) n) :
    d.Holds live := by
  rcases live with _ | (_ | _) <;>
    simp_all [Devices.Holds, Devices.Tally, Stock.keep, Stock.hold, Stock.idle, Stock.addSection,
      Stock.addPair]

theorem Stock.hold_of_mode {k : Stock} {b b' : Backend} (h : b'.mode = b.mode) :
    k.hold b' = k.hold b := by
  cases b <;> cases b' <;> simp_all [Stock.hold, Backend.mode]

@[simp] theorem BackendConfig.validate_with_surface (cfg : BackendConfig) (s : Option SurfaceHandle) :
    { cfg with surface := s }.validate = cfg.validate := rfl

theorem BackendConfig.byteLen_of_validate {cfg : BackendConfig} (h : cfg.validate = .ok ()) :
    ∃ len, cfg.dimension.clamped.byteLen 4 = .ok len ∧ len ≤ sectionLimit ∧ cfg.bufferLen = .ok len := by
  have hbpp := BackendConfig.bytesPerPixel_of_validate h
  -- the check passed the format, then a length
  obtain ⟨len, hlen⟩ : ∃ len, cfg.bufferLen = .ok len := by
    unfold BackendConfig.validate at h
    split at h
    · cases h
    · split at h
      · cases h
      · exact ⟨_, ‹_›⟩
  have hbuf := hlen
  unfold BackendConfig.bufferLen at hbuf
  rw [hbpp] at hbuf
  split at hbuf
  · cases hbuf
  · rename_i hbyte
    split at hbuf
    · cases hbuf
      exact ⟨_, hbyte, ‹_›, hlen⟩
    · cases hbuf

theorem BackendConfig.bufferLen_of_validate {cfg : BackendConfig} (h : cfg.validate = .ok ())
    (hc : cfg.dimension.clamped = cfg.dimension) :
    cfg.bufferLen = .ok (cfg.dimension.width * cfg.dimension.height * 4) := by
  obtain ⟨len, hbyte, -, hlen⟩ := BackendConfig.byteLen_of_validate h
  -- the length the check accepted is the byte count of the settled size
  obtain ⟨-, -, rfl⟩ := Dimension.byteLen_eq_ok_iff.1 hbyte
  rw [hlen, hc]

namespace Coordinator

variable {c c' : Coordinator} {w : Prop} {k : Stock} {n : Nat} {d : Devices}

theorem sound_of_config {cfg : BackendConfig} (hcfg : c.config = some cfg) (hnone : c.backend = none)
    (hvalid : cfg.validate = .ok ()) (hclamped : cfg.dimension.clamped = cfg.dimension) :
    c.Sound w where
  config cfg' h := by
    rw [hcfg] at h
    cases h
    exact ⟨hvalid, hclamped⟩
  backend b h := by simp_all
  memory b h := by simp_all

theorem Sound.without_backend (hc : c.Sound w) : { c with backend := none }.Sound w :=
  ⟨hc.config, fun _ h => by simp at h, fun _ h => by simp at h⟩

theorem Sound.of_rebuilt (hc : c.Sound w) (hk : w → k.shortSection = false) (h : c.Rebuilt k n c' d) :
    c'.Sound w ∧ d.Tally (k.keep c'.backend) n := by
  obtain ⟨cfg, s, b, hcfg, rfl, rfl, ⟨-, hdim, hwhole, -⟩, htally⟩ := h
  obtain ⟨hvalid, hclamped⟩ := hc.config cfg hcfg
  refine ⟨⟨fun cfg' h => ?_, fun b' h => ?_, fun b' h hw => ?_⟩, htally⟩
  · cases h
    exact ⟨hvalid, hclamped⟩
  · cases h
    exact ⟨rfl, _, rfl, rfl, hdim.trans hclamped⟩
  · cases h
    exact hwhole fun hr => hk (hw hr)

theorem Sound.of_dropped (hc : c.Sound w) (h : c.Dropped k n c' d) :
    c'.Sound w ∧ d.Tally (k.keep c'.backend) n := by
  obtain ⟨cfg, s, hcfg, rfl, htally⟩ := h
  obtain ⟨hvalid, hclamped⟩ := hc.config cfg hcfg
  exact ⟨sound_of_config rfl rfl hvalid hclamped, htally⟩

theorem Sound.of_created {r : Coordinator × Except Error Unit} (hc : c.Sound w)
    (hk : w → k.shortSection = false) (h : c.Created k n r d) :
    r.1.Sound w ∧ d.Tally (k.keep r.1.backend) n := by
  unfold Created at h
  split at h
  · exact hc.of_rebuilt hk h.2
  · exact hc.of_dropped h.2

theorem Sound.of_setup {format : PixelFormat} {dim : Dimension} {surface : Option SurfaceHandle}
    {r : Coordinator × Except Error Unit} (hc : c.Sound w) (hk : w → k.shortSection = false)
    (h : c.Setup (BackendConfig.new format dim surface) k n r d) :
    r.1.Sound w ∧ d.Tally (k.keep r.1.backend) n := by
  rcases h with ⟨e, -, rfl, htally⟩ | ⟨hvalid, m, hcreated⟩
  · exact ⟨hc, htally⟩
  · -- the configuration is stored before the build, valid and already clamped
    have hstored :
        (Coordinator.mk c.platform (some (BackendConfig.new format dim surface)) m none).Sound w :=
      sound_of_config rfl rfl hvalid (by simp [BackendConfig.new, Dimension.clamped_clamped])
    exact hstored.of_created hk hcreated

theorem Sound.of_switched {req : RenderMode} {r : Coordinator × Except Error Unit} (hc : c.Sound w)
    (hk : w → k.shortSection = false) (h : c.Switched req k n r d) :
    r.1.Sound w ∧ d.Tally (k.keep r.1.backend) n := by
  unfold Switched at h
  split at h
  · rcases h.2 with ⟨hkept, htally⟩ | hrebuilt
    · exact ⟨hkept ▸ hc, hkept ▸ htally⟩
    · exact hc.of_rebuilt hk hrebuilt
  · split at h
    · rcases h.2 with ⟨hkept, htally⟩ | ⟨-, hrebuilt⟩
      · exact ⟨hkept ▸ hc, hkept ▸ htally⟩
      · exact hc.of_rebuilt hk hrebuilt
    · exact hc.of_dropped h

/-- `c'` is `c`, or `c` with its live backend's memory written over: the backend keeps its mode,
size, surface and memory. -/
def Repainted (c c' : Coordinator) : Prop :=
  c' = c ∨ ∃ b b', c.backend = some b ∧ c' = { c with backend := some b' } ∧ b.Alike b'

theorem Repainted.refl (c : Coordinator) : c.Repainted c := .inl rfl

theorem Repainted.trans {c'' : Coordinator} (h : c.Repainted c') (h' : c'.Repainted c'') :
    c.Repainted c'' := by
  rcases h with rfl | ⟨b, b', hb, rfl, hlike⟩
  · exact h'
  · rcases h' with rfl | ⟨b₁, b'', hb₁, rfl, hlike'⟩
    · exact .inr ⟨b, b', hb, rfl, hlike⟩
    · cases hb₁
      exact .inr ⟨b, b'', hb, rfl, hlike.trans hlike'⟩

theorem Repainted.keep_eq (h : c.Repainted c') : k.keep c'.backend = k.keep c.backend := by
  rcases h with rfl | ⟨b, b', hb, rfl, hmode, -⟩
  · rfl
  · simp [Stock.keep, hb, Stock.hold_of_mode hmode]

theorem Sound.of_repainted (hc : c.Sound w) (h : c.Repainted c') : c'.Sound w := by
  rcases h with rfl | ⟨b, b', hb, rfl, hmode, hdim, hsurface, -, hlen⟩
  · exact hc
  · obtain ⟨hm, cfg, hcfg, hs, hd⟩ := hc.backend b hb
    refine ⟨hc.config, fun b'' h => ?_, fun b'' h hw => ?_⟩
    · cases h
      exact ⟨hmode.trans hm, cfg, hcfg, hsurface ▸ hs, hdim ▸ hd⟩
    · cases h
      rw [hlen, hdim]
      exact hc.memory b hb (hmode ▸ hw)

theorem Sound.of_drawn (hc : c.Sound w) (h : c.Drawn k n c' d) :
    c'.Sound w ∧ d.Tally (k.keep c'.backend) n := by
  obtain ⟨htally, hrepaint⟩ := h
  refine ⟨hc.of_repainted hrepaint, ?_⟩
  rw [Repainted.keep_eq hrepaint]
  exact htally

theorem Rebuilt.live (h : c.Rebuilt k n c' d) :
    ∃ b, c'.backend = some b ∧ c'.mode = b.mode ∧ n ≤ b.memoryId := by
  obtain ⟨cfg, s, b, -, rfl, -, hbuilt, -⟩ := h
  exact ⟨b, rfl, rfl, hbuilt.2.2.2⟩

theorem Dropped.none (h : c.Dropped k n c' d) : c'.backend = none ∧ c'.mode = .raster := by
  obtain ⟨cfg, s, -, rfl, -⟩ := h
  exact ⟨rfl, rfl⟩

end Coordinator

theorem Devices.Tally.at_allocations {d : Devices} {k : Stock} {n : Nat} (h : d.Tally k n) :
    d.Tally k d.allocations :=
  ⟨h.1, h.2.1, h.2.2.1, h.2.2.2.1, h.2.2.2.2.1, h.2.2.2.2.2.1, le_refl _⟩

/-! ## What the devices hold -/

/-- Live sections the backend `live` holds: one for a raster backend. -/
def Backend.sectionsOf : Option Backend → Nat
  | some (.raster _) => 1
  | _ => 0

/-- Live factories, and live targets, the backend `live` holds: one each for a compositor
backend. -/
def Backend.pairsOf : Option Backend → Nat
  | some (.compositor _) => 1
  | _ => 0

theorem Devices.holds_iff {d : Devices} {live : Option Backend} :
    d.Holds live ↔ d.raster.liveSections = Backend.sectionsOf live ∧
      d.compositor.liveFactories = Backend.pairsOf live ∧
      d.compositor.liveTargets = Backend.pairsOf live ∧ Released d.compositor.releaseOrder := by
  rcases live with _ | (_ | _) <;>
    simp [Devices.Holds, Devices.Tally, Stock.keep, Stock.hold, Stock.idle, Stock.addSection,
      Stock.addPair, Backend.sectionsOf, Backend.pairsOf]

theorem Devices.Tally.shortSection_eq {d : Devices} {k : Stock} {n : Nat} {live : Option Backend}
    (h : d.Tally (k.keep live) n) : d.raster.shortSection = k.shortSection := by
  rcases live with _ | (_ | _) <;> exact h.2.2.2.2.1

theorem Devices.holds_configure {d : Devices} {live : Option Backend} (st : DeviceSetting)
    (h : d.Holds live) : (d.configure st).Holds live := by
  rw [Devices.holds_iff] at *
  cases st with
  | fault f on => cases f <;> simpa [configure, setFault] using h
  | _ => simpa [configure] using h

theorem Devices.holds_configureAll {live : Option Backend} :
    ∀ (d : Devices) (settings : List (Except Misuse DeviceSetting)), d.Holds live →
      (d.configureAll settings).2.Holds live
  | _, [], h => h
  | d, .ok st :: rest, h => Devices.holds_configureAll (d.configure st) rest (Devices.holds_configure st h)
  | _, .error _ :: _, h => h

/-- A setting as read that switches the short-section fault on. -/
def DeviceSetting.shortens : Except Misuse DeviceSetting → Bool
  | .ok (.fault .shortSection true) => true
  | _ => false

theorem Devices.shortSection_configure {d : Devices} (st : DeviceSetting)
    (hst : DeviceSetting.shortens (.ok st) = false) (h : d.raster.shortSection = false) :
    (d.configure st).raster.shortSection = false := by
  cases st with
  | fault f on => cases f <;> cases on <;> simp_all [configure, setFault, DeviceSetting.shortens]
  | _ => simpa [configure] using h

theorem Devices.shortSection_configureAll :
    ∀ (d : Devices) (settings : List (Except Misuse DeviceSetting)),
      settings.any DeviceSetting.shortens = false → d.raster.shortSection = false →
      (d.configureAll settings).2.raster.shortSection = false
  | _, [], _, h => h
  | d, .ok st :: rest, hs, h => by
    simp only [List.any_cons, Bool.or_eq_false_iff] at hs
    exact Devices.shortSection_configureAll (d.configure st) rest hs.2
      (Devices.shortSection_configure st hs.1 h)
  | _, .error _ :: _, _, h => h

theorem Backend.alike_overwrite (b : Backend) (offset : Nat) (data : ByteArray)
    (h : offset + data.size ≤ b.memoryLen) : b.Alike (b.overwrite offset data) := by
  cases b with
  | raster r => exact ⟨rfl, rfl, rfl, rfl, rfl⟩
  | compositor c =>
    exact ⟨rfl, rfl, rfl, rfl, ByteArray.size_copySlice_of_le h⟩

/-! ## Reachable sessions -/

/-- A step as read that never switches the short-section fault on. -/
def CoordinatorStep.keepsSectionsWhole : Except Misuse CoordinatorStep → Bool
  | .ok (.configure settings) => !settings.any DeviceSetting.shortens
  | _ => true

namespace CoordinatorSession

/-- What every reachable session keeps: a sound coordinator, and devices holding exactly its
backend's resources; when `whole`, the short-section fault is off. -/
def Invariant (whole : Prop) (s : CoordinatorSession) : Prop :=
  s.coordinator.Sound whole ∧ s.devices.Holds s.coordinator.backend ∧
    (whole → s.devices.raster.shortSection = false)

/-- The sessions some steps lead to from the start over `p` under `env`, where the coordinator
may also be initialised with a configuration of any size, past the session's allocation limit. -/
inductive Reachable (p : Platform) (env : Environment) : CoordinatorSession → Prop
  | start : Reachable p env (start p env)
  | step {s : CoordinatorSession} (st : Except Misuse CoordinatorStep) :
      Reachable p env s → Reachable p env (s.request st).2
  | setup {s : CoordinatorSession} (format : PixelFormat) (dim : Dimension)
      (surface : Option SurfaceHandle) (mode : RenderMode) :
      Reachable p env s →
        Reachable p env (s.onCoordinator (s.coordinator.setup format dim surface mode)).2

theorem start_invariant (w : Prop) (p : Platform) (env : Environment) :
    (start p env).Invariant w := by
  refine ⟨⟨fun _ h => ?_, fun _ h => ?_, fun _ h => ?_⟩, ?_, fun _ => rfl⟩
  · simp [start, Coordinator.new] at h
  · simp [start, Coordinator.new] at h
  · simp [start, Coordinator.new] at h
  · simpa [Devices.holds_iff, start, Coordinator.new, Backend.sectionsOf, Backend.pairsOf] using
      Released.nil

theorem onCoordinator_invariant {w : Prop} {s : CoordinatorSession}
    {x : Act (Coordinator × Except Error Unit)}
    {Q : Coordinator × Except Error Unit → Devices → Prop} {E : Stop → Devices → Prop}
    (hx : ⦃fun d => ⌜d.Tally ((Stock.idle s.devices).keep s.coordinator.backend) 0⌝⦄ x
      ⦃post⟨fun r d => ⌜Q r d⌝, fun e d => ⌜E e d⌝⟩⦄)
    (hQ : ∀ r d, Q r d → r.1.Sound w ∧ d.Tally ((Stock.idle s.devices).keep r.1.backend) 0)
    (hE : ∀ e d, E e d → d.Tally ((Stock.idle s.devices).keep s.coordinator.backend) 0)
    (hs : s.Invariant w) : (s.onCoordinator x).2.Invariant w := by
  have hrun := Act.runAct_of_triple hx hs.2.1
  have hidle : (Stock.idle s.devices).sections = 0 ∧ (Stock.idle s.devices).factories = 0 ∧
      (Stock.idle s.devices).targets = 0 := ⟨rfl, rfl, rfl⟩
  -- the devices afterwards keep the section fault the stock pins
  have hshort : ∀ {live : Option Backend} {d' : Devices},
      d'.Tally ((Stock.idle s.devices).keep live) 0 → w → d'.raster.shortSection = false :=
    fun htally hw => htally.shortSection_eq.trans (hs.2.2 hw)
  unfold onCoordinator
  split <;> rename_i heq <;> rw [heq] at hrun
  · obtain ⟨hsound, htally⟩ := hQ _ _ hrun
    exact ⟨hsound, Devices.holds_of_tally hidle htally, hshort htally⟩
  · exact ⟨hs.1, Devices.holds_of_tally hidle (hE _ _ hrun), hshort (hE _ _ hrun)⟩
  · exact ⟨hs.1, Devices.holds_of_tally hidle (hE _ _ hrun), hshort (hE _ _ hrun)⟩

/-- Initialising keeps the invariant, whatever the configuration. -/
theorem setup_invariant {w : Prop} {s : CoordinatorSession} (hs : s.Invariant w) (format : PixelFormat)
    (dim : Dimension) (surface : Option SurfaceHandle) (mode : RenderMode) :
    (s.onCoordinator (s.coordinator.setup format dim surface mode)).2.Invariant w :=
  onCoordinator_invariant (Coordinator.setup_spec _ _ _ _ _ _ 0)
    (fun _ _ h => hs.1.of_setup hs.2.2 h) (fun _ _ h => h.elim) hs

/-- **Every step keeps the invariant**, and one that never switches the short-section fault on
keeps the section memory whole. -/
theorem step_invariant {w : Prop} {s : CoordinatorSession} (hs : s.Invariant w) :
    ∀ st : CoordinatorStep, (w → CoordinatorStep.keepsSectionsWhole (.ok st)) →
      (s.step st).2.Invariant w
  | .init req mode, _ => by
    simp only [step]
    split
    · exact hs
    · exact hs
    · exact setup_invariant hs _ _ _ _
  | .switch mode, _ =>
    onCoordinator_invariant (s.coordinator.switchMode_spec mode _ 0)
      (fun _ _ h => hs.1.of_switched hs.2.2 h) (fun _ _ h => h.elim) hs
  | .destroy, _ => by
    have hx : ⦃fun d => ⌜d.Tally ((Stock.idle s.devices).keep s.coordinator.backend) 0⌝⦄
        (do let c ← s.coordinator.destroyBackend; pure (c, (.ok () : Except Error Unit)))
        ⦃⇓ r d => ⌜d.Tally (Stock.idle s.devices) 0 ∧ r.1 = { s.coordinator with backend := none }⌝⦄ := by
      mvcgen
    refine onCoordinator_invariant hx (fun r d h => ?_) (fun _ _ h => h.elim) hs
    rw [h.2]
    exact ⟨hs.1.without_backend, h.1⟩
  | .draw call, _ =>
    onCoordinator_invariant (s.coordinator.draw_spec call _ 0) (fun _ _ h => hs.1.of_drawn h)
      (fun _ _ h => h) hs
  | .write args, _ => by
    simp only [step]
    split
    · exact hs
    · exact hs
    · rename_i b offset data hb _
      split
      · exact hs
      · -- the write stays inside the memory the backend reports
        have halike := b.alike_overwrite offset data (by omega)
        obtain ⟨hsound, htally⟩ := hs.1.of_drawn ⟨hs.2.1, Or.inr ⟨b, _, hb, rfl, halike⟩⟩
        exact ⟨hsound, Devices.holds_of_tally ⟨rfl, rfl, rfl⟩ htally, hs.2.2⟩
  | .configure settings, hst => by
    simp only [step]
    split
    · refine ⟨hs.1, Devices.holds_configureAll _ _ hs.2.1, fun hw => ?_⟩
      have hnone := hst hw
      simp only [CoordinatorStep.keepsSectionsWhole, Bool.not_eq_eq_eq_not, Bool.not_true] at hnone
      exact Devices.shortSection_configureAll _ _ hnone (hs.2.2 hw)
    · exact hs

theorem request_invariant {w : Prop} {s : CoordinatorSession} (hs : s.Invariant w) :
    ∀ st : Except Misuse CoordinatorStep, (w → CoordinatorStep.keepsSectionsWhole st) →
      (s.request st).2.Invariant w
  | .error _, _ => hs
  | .ok st, hst => step_invariant hs st hst

theorem Reachable.invariant {p : Platform} {env : Environment} {s : CoordinatorSession}
    (h : Reachable p env s) : s.Invariant False := by
  induction h with
  | start => exact start_invariant False p env
  | step st _ ih => exact request_invariant ih st False.elim
  | setup format dim surface mode _ ih => exact setup_invariant ih format dim surface mode

theorem reachable_of_mem_run {p : Platform} {env : Environment}
    {steps : List (Except Misuse CoordinatorStep)} {r : Outcome × CoordinatorSession}
    (hr : r ∈ (start p env).run steps) : Reachable p env r.2 :=
  Session.mem_run_of_step request Outcome.isHalt (Reachable p env) (fun _ => True)
    (fun _ st _ h => h.step st) (start p env) steps (fun _ _ => trivial) .start r hr

theorem invariant_of_mem_run_whole {p : Platform} {env : Environment}
    {steps : List (Except Misuse CoordinatorStep)}
    (hsteps : ∀ st ∈ steps, CoordinatorStep.keepsSectionsWhole st = true)
    {r : Outcome × CoordinatorSession} (hr : r ∈ (start p env).run steps) : r.2.Invariant True :=
  Session.mem_run_of_step request Outcome.isHalt (Invariant True)
    (fun st => CoordinatorStep.keepsSectionsWhole st = true)
    (fun _ st hst h => request_invariant h st fun _ => hst) (start p env) steps hsteps
    (start_invariant True p env) r hr

/-! ## Switching modes, resources and configuration along runs -/

/-- **A mode switch from a reachable, initialised session always returns, and leaves a backend
exactly when it succeeds or the backend is unavailable.** -/
theorem switch_keeps_backend_unless_rebuild_fails {p : Platform} {env : Environment}
    {s : CoordinatorSession} (hs : Reachable p env s) (hinit : s.coordinator.isInitialized = true)
    (req : RenderMode) :
    ∃ (r : Except Error Unit) (s' : CoordinatorSession), s.step (.switch req) = (.ofUnit r, s') ∧
      (r = .ok () → s'.coordinator.mode = req ∧
        ∃ b, s'.coordinator.backend = some b ∧ b.mode = req) ∧
      (∀ m, r = .error (.backendUnavailable m) → s'.coordinator = s.coordinator ∨
        (s'.coordinator.mode = .raster ∧ ∃ b, s'.coordinator.backend = some b ∧
          b.mode = .raster ∧ s.devices.allocations ≤ b.memoryId)) ∧
      (∀ e, r = .error e → e.classify ≠ .unsupported →
        s'.coordinator.backend = none ∧ s'.coordinator.mode = .raster) ∧
      (s'.coordinator.isInitialized = true ↔ r = .ok () ∨ ∃ m, r = .error (.backendUnavailable m)) := by
  have hinv := hs.invariant
  obtain ⟨⟨c', r⟩, d', hrun, hsw⟩ := Act.runAct_of_noThrow
    (s.coordinator.switchMode_spec req (Stock.idle s.devices) s.devices.allocations)
    hinv.2.1.at_allocations
  refine ⟨r, ⟨c', d'⟩, by simp [step, onCoordinator, hrun], ?_⟩
  obtain ⟨b, hb⟩ := Option.isSome_iff_exists.1 hinit
  obtain ⟨hmode, -⟩ := hinv.1.backend b hb
  have hcfg : s.coordinator.config.isSome := by
    obtain ⟨-, cfg, hcfg, -⟩ := hinv.1.backend b hb
    simp [hcfg]
  unfold Coordinator.Switched at hsw
  rcases r with e | ⟨⟩
  · dsimp only at hsw
    split at hsw
    · -- an error for want of a capability: the backend is unavailable, and one is live
      rename_i hclass
      obtain ⟨m, rfl⟩ := hsw.1 hcfg (by simp [hb])
      rcases hsw.2 with ⟨rfl, -⟩ | ⟨hraster, hrebuilt⟩
      · refine ⟨by simp, fun _ _ => Or.inl rfl, by rintro _ ⟨⟩ h; exact absurd hclass h, ?_⟩
        simp [hinit]
      · obtain ⟨b', hb', hm', hfresh⟩ := hrebuilt.live
        refine ⟨by simp, fun _ _ => Or.inr ⟨hraster, b', hb', hm' ▸ hraster, hfresh⟩,
          by rintro _ ⟨⟩ h; exact absurd hclass h, ?_⟩
        simp [Coordinator.isInitialized, hb']
    · -- any other error drops the backend
      rename_i hclass
      obtain ⟨hnone, hraster⟩ := hsw.none
      refine ⟨by simp, fun m h => ?_, fun _ _ _ => ⟨hnone, hraster⟩, ?_⟩
      · cases h
        exact absurd rfl hclass
      · simp only [Coordinator.isInitialized, hnone, Option.isSome_none, Bool.false_eq_true,
          false_iff, not_or, reduceCtorEq, not_false_eq_true, true_and, not_exists]
        rintro m ⟨⟩
        exact hclass rfl
  · -- a success leaves the requested mode, on the kept backend or a rebuilt one
    dsimp only at hsw
    obtain ⟨hreq, ⟨rfl, -⟩ | hrebuilt⟩ := hsw
    · refine ⟨fun _ => ⟨hreq, b, hb, hmode.trans hreq⟩, by simp, by simp, by simp [hinit]⟩
    · obtain ⟨b', hb', hm', -⟩ := hrebuilt.live
      refine ⟨fun _ => ⟨hreq, b', hb', hm'.symm.trans hreq⟩, by simp, by simp, ?_⟩
      simp [Coordinator.isInitialized, hb']

/-- The switch of an initialised raster session to the compositor lands as the switch theorem
says. -/
theorem switch_after_raster_init_lands :
    let s := ((start .devices {}).request (.ok (.init ⟨.bgra32, ⟨1, 1⟩, .ok none⟩ (.ok .raster)))).2
    Reachable .devices {} s ∧ s.coordinator.isInitialized = true ∧
    ∃ (r : Except Error Unit) (s' : CoordinatorSession), s.step (.switch .compositor) = (.ofUnit r, s') ∧
      (r = .ok () → s'.coordinator.mode = .compositor ∧
        ∃ b, s'.coordinator.backend = some b ∧ b.mode = .compositor) ∧
      (∀ m, r = .error (.backendUnavailable m) → s'.coordinator = s.coordinator ∨
        (s'.coordinator.mode = .raster ∧ ∃ b, s'.coordinator.backend = some b ∧
          b.mode = .raster ∧ s.devices.allocations ≤ b.memoryId)) ∧
      (∀ e, r = .error e → e.classify ≠ .unsupported →
        s'.coordinator.backend = none ∧ s'.coordinator.mode = .raster) ∧
      (s'.coordinator.isInitialized = true ↔ r = .ok () ∨ ∃ m, r = .error (.backendUnavailable m)) :=
  ⟨.step _ .start, by decide,
    switch_keeps_backend_unless_rebuild_fails (.step _ .start) (by decide) .compositor⟩

/-- **A raster switch can leave no backend**: a fault in creating sections keeps the raster
backend from being built once the compositor is released. -/
theorem raster_switch_can_lose_backend :
    let s₁ := ((start .devices {}).request
      (.ok (.init ⟨.bgra32, ⟨2, 2⟩, .ok none⟩ (.ok .compositor)))).2
    let s₂ := (s₁.request (.ok (.configure [.ok (.fault .createSection true)]))).2
    s₂.coordinator.isInitialized = true ∧
      (s₂.request (.ok (.switch .raster))).2.coordinator.isInitialized = false := by
  decide +kernel

theorem Reachable.holds_live_backend_only {p : Platform} {env : Environment} {s : CoordinatorSession}
    (h : Reachable p env s) :
    s.devices.raster.liveSections = Backend.sectionsOf s.coordinator.backend ∧
      s.devices.compositor.liveFactories = Backend.pairsOf s.coordinator.backend ∧
      s.devices.compositor.liveTargets = Backend.pairsOf s.coordinator.backend ∧
      Released s.devices.compositor.releaseOrder :=
  Devices.holds_iff.1 h.invariant.2.1

theorem Reachable.backend_fits_config {p : Platform} {env : Environment} {s : CoordinatorSession}
    (h : Reachable p env s) {b : Backend} (hb : s.coordinator.backend = some b) :
    b.mode = s.coordinator.mode ∧ ∃ cfg, s.coordinator.config = some cfg ∧
      cfg.validate = .ok () ∧ cfg.surface = some b.surface ∧ b.dimension = cfg.dimension ∧
      cfg.bufferLen = .ok (cfg.dimension.width * cfg.dimension.height * 4) ∧
      (b.mode = .compositor → b.memoryLen = cfg.dimension.width * cfg.dimension.height * 4) := by
  have hsound := h.invariant.1
  obtain ⟨hmode, cfg, hcfg, hsurface, hdim⟩ := hsound.backend b hb
  obtain ⟨hvalid, hclamped⟩ := hsound.config cfg hcfg
  refine ⟨hmode, cfg, hcfg, hvalid, hsurface, hdim,
    BackendConfig.bufferLen_of_validate hvalid hclamped, fun hm => ?_⟩
  rw [← hdim]
  refine hsound.memory b hb fun hr => ?_
  rw [hm] at hr
  cases hr

/-- **After every step of every run, the devices hold exactly the live backend's native
resources**, and have given back whole groups only. -/
theorem run_holds_live_backend_only (p : Platform) (env : Environment)
    (steps : List (Except Misuse CoordinatorStep)) :
    ∀ r ∈ (start p env).run steps,
      r.2.devices.raster.liveSections = Backend.sectionsOf r.2.coordinator.backend ∧
      r.2.devices.compositor.liveFactories = Backend.pairsOf r.2.coordinator.backend ∧
      r.2.devices.compositor.liveTargets = Backend.pairsOf r.2.coordinator.backend ∧
      Released r.2.devices.compositor.releaseOrder := fun _ hr =>
  (reachable_of_mem_run hr).holds_live_backend_only

/-- The devices after initialising a raster session hold its section and nothing else. -/
theorem holds_after_raster_init :
    let r := (start .devices {}).request (.ok (.init ⟨.bgra32, ⟨1, 1⟩, .ok none⟩ (.ok .raster)))
    r ∈ (start .devices {}).run [.ok (.init ⟨.bgra32, ⟨1, 1⟩, .ok none⟩ (.ok .raster))] ∧
      r.2.devices.raster.liveSections = Backend.sectionsOf r.2.coordinator.backend ∧
      r.2.devices.compositor.liveFactories = Backend.pairsOf r.2.coordinator.backend ∧
      r.2.devices.compositor.liveTargets = Backend.pairsOf r.2.coordinator.backend ∧
      Released r.2.devices.compositor.releaseOrder :=
  have hr := Session.head_mem_run request Outcome.isHalt (start .devices {})
    (.ok (.init ⟨.bgra32, ⟨1, 1⟩, .ok none⟩ (.ok .raster))) []
  ⟨hr, run_holds_live_backend_only .devices {} _ _ hr⟩

/-- **In every session of every run, a live backend fits the stored configuration**, and the
memory handed out is its buffer length while sections stay whole. -/
theorem run_backend_fits_config (p : Platform) (env : Environment)
    (steps : List (Except Misuse CoordinatorStep)) :
    ∀ r ∈ (start p env).run steps, ∀ b, r.2.coordinator.backend = some b →
      b.mode = r.2.coordinator.mode ∧ ∃ cfg, r.2.coordinator.config = some cfg ∧
        cfg.validate = .ok () ∧ cfg.surface = some b.surface ∧ b.dimension = cfg.dimension ∧
        ((b.mode = .raster → ∀ st ∈ steps, CoordinatorStep.keepsSectionsWhole st = true) →
          cfg.bufferLen = .ok (cfg.dimension.width * cfg.dimension.height * 4) ∧
          r.2.coordinator.buffer.map Prod.fst =
            some (cfg.dimension.width * cfg.dimension.height * 4)) := by
  intro r hr b hb
  obtain ⟨hmode, cfg, hcfg, hvalid, hsurface, hdim, hlen, hcomp⟩ :=
    (reachable_of_mem_run hr).backend_fits_config hb
  refine ⟨hmode, cfg, hcfg, hvalid, hsurface, hdim, fun hwhole => ⟨hlen, ?_⟩⟩
  -- a compositor backend's memory is whole in any run, a raster one's in a run kept whole
  have hmem : b.memoryLen = cfg.dimension.width * cfg.dimension.height * 4 := by
    cases hm : b.mode with
    | raster =>
      rw [← hdim]
      exact (invariant_of_mem_run_whole (hwhole hm) hr).1.memory b hb fun _ => trivial
    | compositor => exact hcomp hm
  simp [Coordinator.buffer, hb, hmem]

/-- A raster session just initialised hands out the memory its configuration asks for. -/
theorem raster_init_fits_config :
    let r := (start .devices {}).request (.ok (.init ⟨.bgra32, ⟨1, 1⟩, .ok none⟩ (.ok .raster)))
    ∃ b, r.2.coordinator.backend = some b ∧ b.mode = r.2.coordinator.mode ∧
      ∃ cfg, r.2.coordinator.config = some cfg ∧ cfg.validate = .ok () ∧
        cfg.surface = some b.surface ∧ b.dimension = cfg.dimension ∧
        cfg.bufferLen = .ok (cfg.dimension.width * cfg.dimension.height * 4) ∧
        r.2.coordinator.buffer.map Prod.fst =
          some (cfg.dimension.width * cfg.dimension.height * 4) := by
  intro r
  have hr := Session.head_mem_run request Outcome.isHalt (start .devices {})
    (.ok (.init ⟨.bgra32, ⟨1, 1⟩, .ok none⟩ (.ok .raster))) []
  obtain ⟨b, hb⟩ : ∃ b, r.2.coordinator.backend = some b := Option.isSome_iff_exists.1 (by decide)
  obtain ⟨hmode, cfg, hcfg, hvalid, hsurface, hdim, hlen⟩ :=
    run_backend_fits_config .devices {} _ r hr b hb
  have hwhole := hlen fun _ st hst => by
    rw [List.mem_singleton.1 hst]
    rfl
  exact ⟨b, hb, hmode, cfg, hcfg, hvalid, hsurface, hdim, hwhole⟩

end CoordinatorSession

end Presenter
