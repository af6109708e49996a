import Mathlib
import Presenter.Proofs.Refusal
/-!
# Fallback — how initialising reaches a backend

Initialising with a valid configuration probes for accelerated rendering (for a compositor
request only), destroys the previous backend, resolves the surface, and tries the modes of the
effective mode in order. `Coordinator.Fallback` is that chain as rules on the runs of each
attempt, and `Coordinator.Builds` adds the surface in front. The device calls that may fail only
refuse and never stop (`Act.Refusing`), so the rules speak of refusals alone
(`setup_falls_back`).
-/

namespace Presenter

open Std.Do

set_option mvcgen.warning false

/-! ## Calls that only refuse -/

/-- From any devices the call returns or refuses; it never stops the program. -/
def Act.Refusing {α : Type} (x : Act α) : Prop :=
  ⦃fun _ => ⌜True⌝⦄ x ⦃post⟨fun _ _ => ⌜True⌝, fun e _ => ⌜∃ err, e = .error err⌝⟩⦄

theorem Act.Refusing.run_ne_halt {α : Type} {x : Act α} (hx : x.Refusing) (d : Devices) (h : Halt)
    (d' : Devices) : runAct x d ≠ (.error (.halt h), d') := by
  intro hrun
  have hr := Act.runAct_of_triple (P := fun _ => True) (Q := fun _ _ => True)
    (E := fun e _ => ∃ err, e = .error err) hx (d := d) trivial
  rw [hrun] at hr
  obtain ⟨_, hne⟩ := hr
  cases hne

theorem resolveSurface_refusing (req : Option SurfaceHandle) : Act.Refusing (resolveSurface req) := by
  unfold Act.Refusing
  mvcgen [-resolveSurface_spec, resolveSurface, isLiveWindow, Act.debug, Act.emit, Act.ofExcept, Act.fail]
  all_goals exact ⟨_, rfl⟩

namespace Platform

variable (p : Platform)

theorem resolve_refusing (req : Option SurfaceHandle) : Act.Refusing (p.resolve req) := by
  cases p
  · exact resolveSurface_refusing req
  · unfold Act.Refusing
    mvcgen [-resolve_spec, resolve, Act.fail]
    exact ⟨_, rfl⟩

theorem createBackend_refusing (m : RenderMode) (cfg : BackendConfig) :
    Act.Refusing (p.createBackend m cfg) := by
  unfold Act.Refusing
  have hres := fun req => resolveSurface_refusing req
  unfold Act.Refusing at hres
  cases p <;> cases m
  all_goals mvcgen [-createBackend_spec, -RasterBackend.new_spec, -CompositorBackend.new_spec,
    -resolveSurface_spec, -CompositorBackend.release_spec, -acquire_spec, createBackend,
    RasterBackend.new, CompositorBackend.new, CompositorBackend.acquire, CompositorBackend.createTarget,
    CompositorBackend.createBitmap, CompositorBackend.release, CompositorBackend.releaseTargetAndFactory,
    Act.ofExcept, Act.fail, Act.attempt, Act.onCompositor, Act.onRaster, Act.updateCompositor,
    Act.allocate, Act.warn, Act.debug, Act.emit, hres]
  all_goals exact ⟨_, rfl⟩

theorem checkCreatable_refusing (m : RenderMode) (cfg : BackendConfig) :
    Act.Refusing (p.checkCreatable m cfg) := by
  unfold Act.Refusing
  have hres := fun req => resolveSurface_refusing req
  unfold Act.Refusing at hres
  cases p <;> cases m
  all_goals mvcgen [-checkCreatable_spec, -CompositorBackend.checkCreatable_spec, -resolveSurface_spec,
    -CompositorBackend.release_spec, -acquire_spec, checkCreatable, CompositorBackend.checkCreatable,
    CompositorBackend.acquire, CompositorBackend.createTarget, CompositorBackend.createBitmap,
    CompositorBackend.release, CompositorBackend.releaseTargetAndFactory, Act.ofExcept, Act.fail,
    Act.attempt, Act.onCompositor, Act.updateCompositor, Act.warn, Act.emit, hres]
  all_goals exact ⟨_, rfl⟩

theorem acceleratedAvailable_answers :
    ⦃fun _ => ⌜True⌝⦄ p.acceleratedAvailable ⦃⇓ _ _ => ⌜True⌝⦄ := by
  cases p <;> mvcgen [-acceleratedAvailable_spec, -compositorUsable_spec, acceleratedAvailable,
    compositorUsable, Act.attempt, Act.onCompositor, Act.updateCompositor, Act.debug, Act.emit, Act.fail]

theorem mode_of_createBackend {m : RenderMode} {cfg : BackendConfig} {d d' : Devices} {b : Backend}
    (h : runAct (p.createBackend m cfg) d = (.ok b, d')) : b.mode = m := by
  cases p with
  | devices =>
    cases m <;> simp only [createBackend, runAct_map] at h <;> split at h <;> cases h <;> rfl
  | unsupported => cases m <;> simp [createBackend] at h

end Platform

/-! ## The fallback chain -/

namespace Coordinator

/-- Trying `modes` in order, for the configuration `cfg` on the platform `p`, from the devices `d`
with the errors `errs` gathered so far, ends in `out` on the devices `d'`, up to what is logged. -/
inductive Fallback (p : Platform) (cfg : BackendConfig) :
    List RenderMode → List (RenderMode × Error) → Devices → Except Error (RenderMode × Backend) →
      Devices → Prop
  /-- The first mode that builds gives its backend. -/
  | built {m : RenderMode} {rest : List RenderMode} {errs : List (RenderMode × Error)} {d d' : Devices}
      {b : Backend} (l : Array Log.Event) :
      runAct (p.createBackend m cfg) d = (.ok b, d') →
      Fallback p cfg (m :: rest) errs d (.ok (m, b)) { d' with log := l }
  /-- A mode refused for its input ends the chain with that error. -/
  | refused {m : RenderMode} {rest : List RenderMode} {errs : List (RenderMode × Error)} {d d' : Devices}
      {e : Error} (l : Array Log.Event) :
      runAct (p.createBackend m cfg) d = (.error (.error e), d') → e.classify = .invalidInput →
      Fallback p cfg (m :: rest) errs d (.error e) { d' with log := l }
  /-- Any other failure is gathered, and the chain goes on with the next mode on what it left. -/
  | next {m : RenderMode} {rest : List RenderMode} {errs : List (RenderMode × Error)} {d d' d'' : Devices}
      {e : Error} {out : Except Error (RenderMode × Backend)} (l : Array Log.Event) :
      runAct (p.createBackend m cfg) d = (.error (.error e), d') → e.classify ≠ .invalidInput →
      Fallback p cfg rest (errs ++ [(m, e)]) { d' with log := l } out d'' →
      Fallback p cfg (m :: rest) errs d out d''
  /-- With no mode left, the errors of every attempt are reported together. -/
  | exhausted {errs : List (RenderMode × Error)} {d : Devices} (l : Array Log.Event) :
      Fallback p cfg [] errs d
        (.error (.renderingSubsystem ("no render backend could be created: " ++ joinErrors errs)))
        { d with log := l }

theorem Fallback.mode_eq {p : Platform} {cfg : BackendConfig} {modes : List RenderMode}
    {errs : List (RenderMode × Error)} {d d' : Devices} {m : RenderMode} {b : Backend}
    (h : Fallback p cfg modes errs d (.ok (m, b)) d') : b.mode = m := by
  generalize hout : (Except.ok (m, b) : Except Error (RenderMode × Backend)) = out at h
  induction h with
  | built _ hrun =>
    cases hout
    exact p.mode_of_createBackend hrun
  | refused => cases hout
  | next _ _ _ _ ih => exact ih hout
  | exhausted => cases hout

/-- Where a build leaves the coordinator: with the backend built, in the mode it was built in; or
with no backend more than before, in the raster mode. -/
def land (c : Coordinator) : Except Error (RenderMode × Backend) → Coordinator × Except Error Unit
  | .ok (m, b) => ({ c with mode := m, backend := some b }, .ok ())
  | .error e => ({ c with mode := .raster }, .error e)

theorem tryModes_fallback (c : Coordinator) (cfg : BackendConfig) (s : SurfaceHandle) :
    ∀ (modes : List RenderMode) (errs : List (RenderMode × Error)) (d : Devices),
      ∃ out d', Fallback c.platform cfg modes errs d out d' ∧
        runAct (c.tryModes cfg s modes errs) d =
          (.ok (match out with
            | .ok (m, b) => ({ c with mode := m, backend := some b }, .ok ())
            | .error e => (c, .error e)), d')
  | [], errs, d => ⟨_, d, .exhausted d.log, by simp [tryModes]⟩
  | m :: rest, errs, d => by
    rcases hrun : runAct (c.platform.createBackend m cfg) d with ⟨(e | h) | b, d'⟩
    · by_cases hclass : e.classify = .invalidInput
      · -- refused for its input: the chain ends at once
        refine ⟨.error e, d', .refused d'.log hrun hclass, ?_⟩
        unfold tryModes
        simp [runAct_bind, runAct_attempt, hrun, hclass]
      · -- any other failure is logged, and the rest of the modes are tried on what it left
        obtain ⟨out, d'', hfb, hrest⟩ := tryModes_fallback c cfg s rest (errs ++ [(m, e)])
          { d' with log := d'.log.push ⟨.warn, .coordinator, "render backend creation failed",
            [⟨"mode", .str m.name⟩, ⟨"error", .text e.message⟩]⟩ }
        refine ⟨out, d'', .next _ hrun hclass hfb, ?_⟩
        unfold tryModes
        simp [runAct_bind, runAct_attempt, hrun, hclass, Act.warn, hrest]
    · exact absurd hrun ((c.platform.createBackend_refusing m cfg).run_ne_halt d h d')
    · -- a mode that builds ends the chain; only the log changes after it
      have hbuilt : ∃ l, runAct (c.tryModes cfg s (m :: rest) errs) d =
          (.ok ({ c with mode := m, backend := some b }, .ok ()), { d' with log := l }) := by
        unfold tryModes
        simp only [runAct_bind, runAct_attempt, hrun]
        by_cases hm : m ≠ c.mode <;> simp [hm, runAct_bind, runAct_map, Act.warn, Act.info]
      obtain ⟨l, hl⟩ := hbuilt
      exact ⟨_, _, .built l hrun, hl⟩

/-- Building from `c` on the devices `d` ends in `r` on the devices `d'`: the configured surface is
resolved first, and its refusal ends the build; then the modes of the coordinator's mode are tried
in order for the resolved surface, which the configuration keeps. -/
def Builds (c : Coordinator) (d : Devices) (r : Coordinator × Except Error Unit) (d' : Devices) : Prop :=
  ∃ cfg, c.config = some cfg ∧
    match runAct (c.platform.resolve cfg.surface) d with
    | (.ok s, d₁) => ∃ out, Fallback c.platform { cfg with surface := some s } (attempts c.mode) [] d₁ out d' ∧
        r = { c with config := some { cfg with surface := some s } }.land out
    | (.error (.error e), d₁) => r = c.land (.error e) ∧ d' = d₁
    | (.error (.halt _), _) => False

theorem createBackend_builds (c : Coordinator) {cfg : BackendConfig} (hcfg : c.config = some cfg)
    (d : Devices) : ∃ r d', runAct c.createBackend d = (.ok r, d') ∧ c.Builds d r d' := by
  rcases hres : runAct (c.platform.resolve cfg.surface) d with ⟨(e | h) | s, d₁⟩
  · refine ⟨c.land (.error e), d₁, ?_, cfg, hcfg, by simp [hres]⟩
    unfold createBackend tryCreateBackend
    simp [hcfg, runAct_bind, runAct_attempt, hres, land]
  · exact absurd hres ((c.platform.resolve_refusing cfg.surface).run_ne_halt d h d₁)
  · obtain ⟨out, d', hfb, hrun⟩ := tryModes_fallback { c with config := some { cfg with surface := some s } }
      { cfg with surface := some s } s (attempts c.mode) [] d₁
    refine ⟨_, d', ?_, cfg, hcfg, by simpa [hres] using ⟨out, hfb, rfl⟩⟩
    unfold createBackend tryCreateBackend
    simp only [hcfg, runAct_bind, runAct_attempt, hres]
    rw [hrun]
    rcases out with e | ⟨m, b⟩ <;> rfl

theorem Builds.outcome {c : Coordinator} {d d' : Devices} {r : Coordinator × Except Error Unit}
    (hnone : c.backend = none) (h : c.Builds d r d') :
    (r.2 = .ok () ↔ r.1.backend.isSome) ∧ (∀ b, r.1.backend = some b → r.1.mode = b.mode) ∧
      (∀ e, r.2 = .error e → r.1.backend = none ∧ r.1.mode = .raster) := by
  obtain ⟨cfg, -, hb⟩ := h
  split at hb
  · obtain ⟨out, hfb, rfl⟩ := hb
    rcases out with e | ⟨m, b⟩
    · simp [land, hnone]
    · simp [land, (Fallback.mode_eq hfb).symm]
  · obtain ⟨rfl, -⟩ := hb
    simp [land, hnone]
  · exact hb.elim

theorem destroyBackend_run (c : Coordinator) (d : Devices) :
    ∃ d', runAct c.destroyBackend d = (.ok { c with backend := none }, d') := by
  unfold destroyBackend
  rcases hb : c.backend with _ | b
  · -- nothing to release: the coordinator already has no backend
    refine ⟨d, ?_⟩
    obtain ⟨p, cfg, m, b⟩ := c
    cases hb
    rfl
  · cases b <;> simp [runAct_bind, runAct_map, Backend.release, RasterBackend.release,
      CompositorBackend.release, Act.updateRaster, Act.updateCompositor, Act.debug]

/-! ## Initialising -/

theorem destroy_then_build (c : Coordinator) (cfg : BackendConfig) (m : RenderMode) (d₁ : Devices) :
    ∃ d₂ r d', runAct c.destroyBackend d₁ = (.ok { c with backend := none }, d₂) ∧
      { c with config := some cfg, mode := m, backend := none }.Builds d₂ r d' ∧
      runAct (do let c ← c.destroyBackend; { c with config := some cfg, mode := m }.createBackend) d₁ =
        (.ok r, d') := by
  obtain ⟨d₂, hd⟩ := c.destroyBackend_run d₁
  obtain ⟨r, d', hrun, hb⟩ := createBackend_builds { c with config := some cfg, mode := m, backend := none } rfl d₂
  exact ⟨d₂, r, d', hd, hb, by simpa [runAct_bind, hd] using hrun⟩

/-- **Initialising with a valid configuration follows the fallback chain, from every coordinator
and every state of the devices.** -/
theorem setup_falls_back (c : Coordinator) (format : PixelFormat) (dim : Dimension)
    (surface : Option SurfaceHandle) (req : RenderMode) (d : Devices)
    (hvalid : (BackendConfig.new format dim surface).validate = .ok ()) :
    ∃ m d₁ d₂ r d',
      (m = .compositor ↔ req = .compositor ∧ (runAct c.platform.acceleratedAvailable d).1 = .ok true) ∧
      (req = .compositor → ∃ l, d₁ = { (runAct c.platform.acceleratedAvailable d).2 with log := l }) ∧
      (req = .raster → d₁ = d) ∧
      runAct c.destroyBackend d₁ = (.ok { c with backend := none }, d₂) ∧
      { c with config := some (BackendConfig.new format dim surface), mode := m, backend := none }.Builds
        d₂ r d' ∧
      runAct (c.setup format dim surface req) d = (.ok r, d') ∧
      (r.2 = .ok () ↔ r.1.backend.isSome) ∧ (∀ b, r.1.backend = some b → r.1.mode = b.mode) ∧
      (∀ e, r.2 = .error e → r.1.backend = none ∧ r.1.mode = .raster) := by
  obtain ⟨a, d₀, hprobe, -⟩ := Act.runAct_of_noThrow (c.platform.acceleratedAvailable_answers) (d := d) trivial
  cases req
  · obtain ⟨d₂, r, d', hd, hb, hrun⟩ := destroy_then_build c (BackendConfig.new format dim surface) .raster d
    refine ⟨.raster, d, d₂, r, d', by simp, by simp, fun _ => rfl, hd, hb, ?_, Builds.outcome rfl hb⟩
    unfold setup
    simpa [hvalid] using hrun
  · cases a
    · -- accelerated rendering is unavailable: the request becomes a raster one, which is logged
      obtain ⟨d₂, r, d', hd, hb, hrun⟩ := destroy_then_build c (BackendConfig.new format dim surface) .raster
        { d₀ with log := d₀.log.push ⟨.info, .coordinator,
          "accelerated rendering unavailable, initializing in raster mode", []⟩ }
      refine ⟨.raster, _, d₂, r, d', by simp [hprobe], fun _ => ⟨_, by rw [hprobe]⟩, by simp, hd, hb, ?_,
        Builds.outcome rfl hb⟩
      unfold setup
      simpa [hvalid, runAct_bind, hprobe, Act.info] using hrun
    · obtain ⟨d₂, r, d', hd, hb, hrun⟩ := destroy_then_build c (BackendConfig.new format dim surface)
        .compositor d₀
      refine ⟨.compositor, d₀, d₂, r, d', by simp [hprobe], fun _ => ⟨d₀.log, by rw [hprobe]⟩, by simp, hd,
        hb, ?_, Builds.outcome rfl hb⟩
      unfold setup
      simpa [hvalid, runAct_bind, hprobe] using hrun

/-- A compositor request from a new coordinator falls back as the initialising theorem says. -/
theorem compositor_request_falls_back :
    let c := Coordinator.new .devices
    (BackendConfig.new .bgra32 ⟨2, 2⟩ none).validate = .ok () ∧
    ∃ m d₁ d₂ r d',
      (m = .compositor ↔ RenderMode.compositor = .compositor ∧
        (runAct c.platform.acceleratedAvailable {}).1 = .ok true) ∧
      (RenderMode.compositor = .compositor →
        ∃ l, d₁ = { (runAct c.platform.acceleratedAvailable {}).2 with log := l }) ∧
      (RenderMode.compositor = .raster → d₁ = {}) ∧
      runAct c.destroyBackend d₁ = (.ok { c with backend := none }, d₂) ∧
      { c with config := some (BackendConfig.new .bgra32 ⟨2, 2⟩ none), mode := m, backend := none }.Builds
        d₂ r d' ∧
      runAct (c.setup .bgra32 ⟨2, 2⟩ none .compositor) {} = (.ok r, d') ∧
      (r.2 = .ok () ↔ r.1.backend.isSome) ∧ (∀ b, r.1.backend = some b → r.1.mode = b.mode) ∧
      (∀ e, r.2 = .error e → r.1.backend = none ∧ r.1.mode = .raster) :=
  have hvalid : (BackendConfig.new .bgra32 ⟨2, 2⟩ none).validate = .ok () := by decide
  ⟨hvalid, setup_falls_back (Coordinator.new .devices) .bgra32 ⟨2, 2⟩ none .compositor {} hvalid⟩

end Coordinator

end Presenter
