import Mathlib
import Presenter.Proofs.FrameReach
/-!
# Refusals — a refused coordinator call changes nothing

A call on the coordinator is run on the devices by `runAct`; the first part gives the run of each
combinator of `Act` as a `match` on the runs of its parts, so that a call can be followed step by
step through the devices it leaves (`runAct_bind`, `runAct_attempt`).

The second part says what the coordinator's refusals leave. A configuration that is not valid is
refused before anything is looked at: coordinator and devices stay exactly as they were. A switch
to the mode the coordinator is in answers at once and only logs. A switch without a live backend
is refused at once. A switch to the compositor that the platform refuses, because accelerated
rendering is unavailable or a compositor backend could not be built, keeps the coordinator as it
was, live backend and memory included, and the probe and the check leave no native resource
behind (`refusals_change_nothing`).
-/

namespace Presenter

/-! ## Running the combinators of `Act` -/

section Run

variable {α β : Type}

@[simp] theorem runAct_pure (a : α) (d : Devices) : runAct (pure a : Act α) d = (.ok a, d) := rfl

theorem runAct_bind (x : Act α) (f : α → Act β) (d : Devices) :
    runAct (x >>= f) d = match runAct x d with
      | (.ok a, d') => runAct (f a) d'
      | (.error e, d') => (.error e, d') := by
  unfold runAct
  simp only [bind, EStateM.bind, EStateM.run]
  cases x d <;> rfl

theorem runAct_map (f : α → β) (x : Act α) (d : Devices) :
    runAct (f <$> x) d = match runAct x d with
      | (.ok a, d') => (.ok (f a), d')
      | (.error e, d') => (.error e, d') := by
  unfold runAct
  simp only [Functor.map, EStateM.map, EStateM.run]
  cases x d <;> rfl

@[simp] theorem runAct_get (d : Devices) : runAct (get : Act Devices) d = (.ok d, d) := rfl

@[simp] theorem runAct_emit (ev : Log.Event) (d : Devices) :
    runAct (Act.emit ev) d = (.ok (), { d with log := d.log.push ev }) := rfl

@[simp] theorem runAct_set (d' d : Devices) : runAct (set d' : Act PUnit) d = (.ok (), d') := rfl

@[simp] theorem runAct_modify (f : Devices → Devices) (d : Devices) :
    runAct (modify f : Act PUnit) d = (.ok (), f d) := rfl

@[simp] theorem runAct_halt (h : Halt) (d : Devices) :
    runAct (Act.halt h : Act α) d = (.error (.halt h), d) := rfl

@[simp] theorem runAct_fail (e : Error) (d : Devices) :
    runAct (Act.fail e : Act α) d = (.error (.error e), d) := rfl

/-- A refusal caught by `attempt` is a value, on the devices the refused call left; a stop still
stops. -/
theorem runAct_attempt (x : Act α) (d : Devices) :
    runAct (Act.attempt x) d = match runAct x d with
      | (.ok a, d') => (.ok (.ok a), d')
      | (.error (.error e), d') => (.ok (.error e), d')
      | (.error (.halt h), d') => (.error (.halt h), d') := by
  unfold runAct Act.attempt
  simp only [tryCatch, tryCatchThe, MonadExceptOf.tryCatch, EStateM.tryCatch, bind, EStateM.bind,
    EStateM.run, pure, EStateM.pure, throw, throwThe, MonadExceptOf.throw]
  rcases x d with ⟨a, d'⟩ | ⟨_ | _, d'⟩ <;> rfl

end Run

/-! ## The refusals of the coordinator -/

namespace Coordinator

variable (c : Coordinator) {cfg : BackendConfig} {b : Backend} {d d₁ d₂ : Devices}

theorem setup_of_invalid (format : PixelFormat) (dim : Dimension) (surface : Option SurfaceHandle)
    (req : RenderMode) (d : Devices) {e : Error}
    (h : (BackendConfig.new format dim surface).validate = .error e) :
    runAct (c.setup format dim surface req) d = (.ok (c, .error e), d) := by
  unfold setup
  simp [h]

theorem switchMode_current (hcfg : c.config = some cfg) (hb : c.backend = some b) (d : Devices) :
    runAct (c.switchMode c.mode) d = (.ok (c, .ok ()), { d with
      log := d.log.push (⟨.debug, .coordinator, "render mode unchanged", [⟨"mode", .str c.mode.name⟩]⟩) }) := by
  unfold switchMode
  simp [hcfg, hb, runAct_map, Act.debug]

theorem switchMode_unavailable (hcfg : c.config = some cfg) (hb : c.backend = some b)
    (hm : c.mode = .raster) (hprobe : runAct c.platform.acceleratedAvailable d = (.ok false, d₁)) :
    runAct (c.switchMode .compositor) d =
      (.ok (c, .error (.backendUnavailable "accelerated rendering is not available")), { d₁ with
        log := d₁.log.push (⟨.warn, .coordinator, "accelerated rendering unavailable, keeping current backend", []⟩) }) := by
  unfold switchMode
  simp [hcfg, hb, hm, runAct_bind, runAct_map, hprobe, Act.warn]

theorem switchMode_uncreatable (hcfg : c.config = some cfg) (hb : c.backend = some b)
    (hm : c.mode = .raster) {e : Error} (hprobe : runAct c.platform.acceleratedAvailable d = (.ok true, d₁))
    (hcheck : runAct (c.platform.checkCreatable .compositor cfg) d₁ = (.error (.error e), d₂)) :
    runAct (c.switchMode .compositor) d =
      (.ok (c, .error (.backendUnavailable ("compositor backend cannot be created: " ++ e.message))), { d₂ with
        log := d₂.log.push (⟨.warn, .coordinator, "compositor backend cannot be created, keeping current backend",
          [⟨"error", .text e.message⟩]⟩) }) := by
  unfold switchMode
  simp [hcfg, hb, hm, runAct_bind, runAct_map, hprobe, runAct_attempt, hcheck, Act.warn]

/-- The platform refuses `c` a compositor on the devices `d`: accelerated rendering is unavailable,
or it is available and checking that a compositor backend could be built for the stored
configuration, on the devices the probe left, fails. -/
def RefusesCompositor (c : Coordinator) (d : Devices) : Prop :=
  match runAct c.platform.acceleratedAvailable d with
  | (.ok false, _) => True
  | (.ok true, d₁) => ∃ cfg, c.config = some cfg ∧
      ∃ e d₂, runAct (c.platform.checkCreatable .compositor cfg) d₁ = (.error (.error e), d₂)
  | (.error _, _) => False

theorem switchMode_refused (hcfg : c.config = some cfg) (hb : c.backend = some b) (hm : c.mode = .raster)
    {k : Stock} {n : Nat} (htally : d.Tally k n) (h : c.RefusesCompositor d) :
    ∃ m d', runAct (c.switchMode .compositor) d = (.ok (c, .error (.backendUnavailable m)), d') ∧
      d'.Tally k n := by
  obtain ⟨a, d₁, hprobe, htally₁⟩ := Act.runAct_of_noThrow (c.platform.acceleratedAvailable_spec k n) htally
  unfold RefusesCompositor at h
  rw [hprobe] at h
  cases a with
  | false => exact ⟨_, _, c.switchMode_unavailable hcfg hb hm hprobe, htally₁.log _⟩
  | true =>
    obtain ⟨cfg', hcfg', e, d₂, hcheck⟩ := h
    rw [hcfg] at hcfg'
    cases hcfg'
    -- the check keeps what the probe left, refused or not
    have htally₂ : d₂.Tally k n := by
      have hrun := Act.runAct_of_triple (c.platform.checkCreatable_spec k n .compositor cfg) htally₁
      rw [hcheck] at hrun
      exact hrun.1
    exact ⟨_, _, c.switchMode_uncreatable hcfg hb hm hprobe hcheck, htally₂.log _⟩

end Coordinator

namespace CoordinatorSession

/-- **Refusals change nothing, from every reachable session.** -/
theorem refusals_change_nothing {p : Platform} {env : Environment} {s : CoordinatorSession}
    (hs : Reachable p env s) :
    (∀ format dim surface req e, (BackendConfig.new format dim surface).validate = .error e →
      runAct (s.coordinator.setup format dim surface req) s.devices =
        (.ok (s.coordinator, .error e), s.devices)) ∧
    (s.coordinator.isInitialized = true → ∃ ev,
      runAct (s.coordinator.switchMode s.coordinator.mode) s.devices =
        (.ok (s.coordinator, .ok ()), { s.devices with log := s.devices.log.push ev })) ∧
    (s.coordinator.isInitialized = false → ∀ req,
      runAct (s.coordinator.switchMode req) s.devices =
        (.ok (s.coordinator, .error .notInitialized), s.devices)) ∧
    (s.coordinator.isInitialized = true → s.coordinator.mode = .raster →
      s.coordinator.RefusesCompositor s.devices → ∃ m d',
        runAct (s.coordinator.switchMode .compositor) s.devices =
          (.ok (s.coordinator, .error (.backendUnavailable m)), d') ∧
        d'.Holds s.coordinator.backend) := by
  have hinv := hs.invariant
  -- a live backend comes with a stored configuration
  have hcfg : ∀ b, s.coordinator.backend = some b → ∃ cfg, s.coordinator.config = some cfg := by
    intro b hb
    obtain ⟨-, cfg, hcfg, -⟩ := hinv.1.backend b hb
    exact ⟨cfg, hcfg⟩
  refine ⟨fun format dim surface req e h => s.coordinator.setup_of_invalid format dim surface req _ h,
    fun hinit => ?_, fun hnone req => ?_, fun hinit hm hrefused => ?_⟩
  · obtain ⟨b, hb⟩ := Option.isSome_iff_exists.1 hinit
    obtain ⟨cfg, hc⟩ := hcfg b hb
    exact ⟨_, s.coordinator.switchMode_current hc hb _⟩
  · have hb : s.coordinator.backend = none := by
      simpa [Coordinator.isInitialized] using hnone
    rw [s.coordinator.switchMode_of_none req hb]
    rfl
  · obtain ⟨b, hb⟩ := Option.isSome_iff_exists.1 hinit
    obtain ⟨cfg, hc⟩ := hcfg b hb
    obtain ⟨m, d', hrun, htally⟩ := s.coordinator.switchMode_refused hc hb hm hinv.2.1 hrefused
    exact ⟨m, d', hrun, Devices.holds_of_tally ⟨rfl, rfl, rfl⟩ htally⟩

/-- The refusals after a raster session is initialised change nothing, as the refusal theorem
says. -/
theorem refusals_after_raster_init :
    let s := ((start .devices {}).request (.ok (.init ⟨.bgra32, ⟨1, 1⟩, .ok none⟩ (.ok .raster)))).2
    Reachable .devices {} s ∧
    (∀ format dim surface req e, (BackendConfig.new format dim surface).validate = .error e →
      runAct (s.coordinator.setup format dim surface req) s.devices =
        (.ok (s.coordinator, .error e), s.devices)) ∧
    (s.coordinator.isInitialized = true → ∃ ev,
      runAct (s.coordinator.switchMode s.coordinator.mode) s.devices =
        (.ok (s.coordinator, .ok ()), { s.devices with log := s.devices.log.push ev })) ∧
    (s.coordinator.isInitialized = false → ∀ req,
      runAct (s.coordinator.switchMode req) s.devices =
        (.ok (s.coordinator, .error .notInitialized), s.devices)) ∧
    (s.coordinator.isInitialized = true → s.coordinator.mode = .raster →
      s.coordinator.RefusesCompositor s.devices → ∃ m d',
        runAct (s.coordinator.switchMode .compositor) s.devices =
          (.ok (s.coordinator, .error (.backendUnavailable m)), d') ∧
        d'.Holds s.coordinator.backend) :=
  ⟨.step _ .start, refusals_change_nothing (.step _ .start)⟩

end CoordinatorSession

end Presenter
