import Mathlib
import Presenter.Proofs.Refusal
/-!
# Checking that a backend could be built — what the check answers and what it keeps

`Platform.checkCreatable` says whether building a backend of a mode would succeed, and keeps no
native resource. It keeps none in every mode, from every devices (`checkCreatable_live`): the
compositor's check takes factory, target and bitmap as building does and gives them back, and the
raster check takes nothing at all.

What it answers follows building for the compositor only. The compositor's check makes the native
calls building makes before it allocates (`CompositorBackend.acquire`), and for a valid
configuration the rest of building (the staging buffer's length and row pitch) cannot fail, so the
two succeed together, as long as accelerated rendering is allowed. When it is switched off, the
check refuses before it calls anything, though building would go ahead. The raster check only
validates the configuration: it passes where building fails on a surface or a section
(`checkCreatable_predicts_compositor`).
-/

namespace Presenter

open Std.Do

set_option mvcgen.warning false

/-- The native resources alive on the devices: sections, factories and targets. -/
def Devices.live (d : Devices) : Nat × Nat × Nat :=
  (d.raster.liveSections, d.compositor.liveFactories, d.compositor.liveTargets)

/-! ## The native resources the compositor's calls hold -/

theorem resolveSurface_live (req : Option SurfaceHandle) (l : Nat × Nat × Nat) :
    ⦃fun d => ⌜d.live = l⌝⦄ resolveSurface req
    ⦃post⟨fun _ d => ⌜d.live = l⌝, fun _ d => ⌜d.live = l⌝⟩⦄ := by
  mvcgen [-resolveSurface_spec, resolveSurface, isLiveWindow, Act.debug, Act.emit, Act.ofExcept, Act.fail]

namespace CompositorBackend

theorem createTarget_live (l : Nat × Nat × Nat) :
    ⦃fun d => ⌜d.live = l⌝⦄ createTarget
    ⦃post⟨fun _ d => ⌜d.live = (l.1, l.2.1, l.2.2 + 1)⌝,
      fun e d => ⌜d.live = l ∧ ∃ err, e = .error err⌝⟩⦄ := by
  mvcgen [createTarget, Act.attempt, Act.onCompositor, Act.warn, Act.emit, Act.fail]
  all_goals subst_vars
  -- a target bound to the window, whether or not the client area was read
  case vc1.h_1.h_1 | vc4.h_2.h_1 => simp_all +zetaDelta [Devices.live]
  -- a target bound to the device context, after the window refused one
  case vc2.h_1.h_2.h_1 | vc5.h_2.h_2.h_1 => simp_all +zetaDelta [Devices.live]
  -- neither: nothing is taken
  case vc3.h_1.h_2.h_2 | vc6.h_2.h_2.h_2 => simp_all +zetaDelta [Devices.live]

theorem createBitmap_live (l : Nat × Nat × Nat) (dim : Dimension) :
    ⦃fun d => ⌜d.live = (l.1, l.2.1 + 1, l.2.2 + 1)⌝⦄ createBitmap dim
    ⦃post⟨fun _ d => ⌜d.live = (l.1, l.2.1 + 1, l.2.2 + 1)⌝, fun _ d => ⌜d.live = l⌝⟩⦄ := by
  mvcgen [createBitmap, releaseTargetAndFactory, Act.attempt, Act.onCompositor, Act.updateCompositor,
    Act.fail]
  -- a bitmap is not counted
  case vc1.h_1 => simp_all [Devices.live]
  -- without one, target and factory are given back
  case vc2.h_2 =>
    simp_all +zetaDelta [Devices.live, CompositorDevice.releaseTarget, CompositorDevice.releaseFactory]

theorem acquire_live (l : Nat × Nat × Nat) (config : BackendConfig) :
    ⦃fun d => ⌜d.live = l⌝⦄ acquire config
    ⦃post⟨fun _ d => ⌜d.live = (l.1, l.2.1 + 1, l.2.2 + 1)⌝, fun _ d => ⌜d.live = l⌝⟩⦄ := by
  have hresolve := resolveSurface_live config.surface l
  have htarget := createTarget_live (l.1, l.2.1 + 1, l.2.2)
  have hbitmap := createBitmap_live l config.dimension.clamped
  mvcgen [acquire, -acquire_spec, -resolveSurface_spec, hresolve, htarget, hbitmap, Act.ofExcept,
    Act.fail, Act.attempt, Act.onCompositor, Act.updateCompositor]
  all_goals subst_vars
  -- the factory is counted before the target is tried
  case vc2.h_1.post.success.h_1.pre => simp_all [Devices.live]
  -- a target refused gives the factory back; taking a target never stops the program
  case vc4.h_1.post.success.h_1.post.except.handle.h_1 =>
    simp_all +zetaDelta [Devices.live, CompositorDevice.releaseFactory]
  case vc5.h_1.post.success.h_1.post.except.handle.h_2 => simp_all

theorem release_live (l : Nat × Nat × Nat) :
    ⦃fun d => ⌜d.live = (l.1, l.2.1 + 1, l.2.2 + 1)⌝⦄ release ⦃⇓ _ d => ⌜d.live = l⌝⦄ := by
  mvcgen [release, -release_spec, Act.updateCompositor]
  simp_all +zetaDelta [Devices.live, CompositorDevice.releaseBitmap, CompositorDevice.releaseTarget,
    CompositorDevice.releaseFactory]

end CompositorBackend

/-! ## What a valid configuration asks of building -/

theorem BackendConfig.staging_of_validate {c : BackendConfig} (h : c.validate = .ok ()) :
    c.dimension.clamped.byteLen stagingPixelBytes =
        .ok (c.dimension.clamped.width * c.dimension.clamped.height * stagingPixelBytes) ∧
      c.dimension.clamped.width * stagingPixelBytes < Nat.pow 2 32 := by
  obtain ⟨len, hbyte, hlen, -⟩ := BackendConfig.byteLen_of_validate h
  obtain ⟨-, -, rfl⟩ := Dimension.byteLen_eq_ok_iff.1 hbyte
  -- a row is no longer than the whole memory, which fits a section
  have hh : 1 ≤ c.dimension.clamped.height := by simp
  have hrow : c.dimension.clamped.width * 4 ≤ c.dimension.clamped.width * c.dimension.clamped.height * 4 :=
    Nat.mul_le_mul_right 4 (Nat.le_mul_of_pos_right _ hh)
  refine ⟨hbyte, ?_⟩
  simp only [stagingPixelBytes, sectionLimit] at hrow hlen ⊢
  change _ < 4294967296
  omega

/-! ## The compositor: check and build after the shared acquisition -/

namespace CompositorBackend

theorem runAct_checkCreatable (c : BackendConfig) (d : Devices) :
    runAct (checkCreatable c) d = match runAct (acquire c) d with
      | (.ok _, d') =>
        (.ok (), { d' with compositor := d'.compositor.releaseBitmap.releaseTarget.releaseFactory })
      | (.error e, d') => (.error e, d') := by
  unfold checkCreatable release Act.updateCompositor
  rw [runAct_bind]
  rcases runAct (acquire c) d with ⟨_ | _, d'⟩ <;> rfl

theorem checkCreatable_isOk (c : BackendConfig) (d : Devices) :
    (runAct (checkCreatable c) d).1.isOk = (runAct (acquire c) d).1.isOk := by
  rw [runAct_checkCreatable]
  rcases runAct (acquire c) d with ⟨_ | _, d'⟩ <;> rfl

theorem new_isOk {c : BackendConfig} (h : c.validate = .ok ()) (d : Devices) :
    (runAct (new c) d).1.isOk = (runAct (acquire c) d).1.isOk := by
  obtain ⟨hlen, hpitch⟩ := BackendConfig.staging_of_validate h
  unfold new
  rw [runAct_bind]
  rcases runAct (acquire c) d with ⟨_ | ⟨surface, size, binding⟩, d'⟩
  · rfl
  · have hfit : ¬ 4294967296 ≤ max c.dimension.width 1 * stagingPixelBytes := by
      simpa using hpitch
    simp [hlen, hfit, Act.allocate, Act.debug]
    rfl

end CompositorBackend

/-! ## The platform's check -/

namespace Platform

/-- **Checking keeps no native resource**, in every mode and from every devices, whether it passes
or refuses. -/
theorem checkCreatable_live (p : Platform) (m : RenderMode) (c : BackendConfig) (l : Nat × Nat × Nat) :
    ⦃fun d => ⌜d.live = l⌝⦄ p.checkCreatable m c
    ⦃post⟨fun _ d => ⌜d.live = l⌝, fun _ d => ⌜d.live = l⌝⟩⦄ := by
  cases p with
  | unsupported => mvcgen [-checkCreatable_spec, checkCreatable, Act.fail]
  | devices =>
    cases m with
    | raster =>
      -- the raster check only validates the configuration
      mvcgen [-checkCreatable_spec, checkCreatable, Act.ofExcept, Act.fail]
    | compositor =>
      -- the compositor's check takes factory, target and bitmap and gives them back
      have hacquire := CompositorBackend.acquire_live l c
      have hrelease := CompositorBackend.release_live l
      mvcgen [-checkCreatable_spec, checkCreatable, -CompositorBackend.checkCreatable_spec,
        CompositorBackend.checkCreatable, -acquire_spec, hacquire, -CompositorBackend.release_spec,
        hrelease, Act.fail]
      -- what the release leaves is what the check leaves
      case vc4.devices.compositor.isFalse.post.success.post.success => exact id

theorem runAct_checkCreatable_live (p : Platform) (m : RenderMode) (c : BackendConfig) (d : Devices) :
    (runAct (p.checkCreatable m c) d).2.live = d.live := by
  have h := Act.runAct_of_triple (checkCreatable_live p m c d.live) (d := d) rfl
  rcases hrun : runAct (p.checkCreatable m c) d with ⟨_ | _, d'⟩ <;> simp_all

theorem runAct_checkCreatable_allowed (c : BackendConfig) {d : Devices}
    (h : d.env.acceleratedAllowed = true) :
    runAct (devices.checkCreatable .compositor c) d = runAct (CompositorBackend.checkCreatable c) d := by
  simp [checkCreatable, runAct_bind, h]

theorem runAct_checkCreatable_disabled (c : BackendConfig) {d : Devices}
    (h : d.env.acceleratedAllowed = false) :
    runAct (devices.checkCreatable .compositor c) d =
      (.error (.error (.backendUnavailable "disabled by SNOW_RENDER_DISABLE_ACCELERATED")), d) := by
  simp [checkCreatable, runAct_bind, h]

theorem runAct_checkCreatable_raster {c : BackendConfig} (h : c.validate = .ok ()) (d : Devices) :
    runAct (devices.checkCreatable .raster c) d = (.ok (), d) := by
  simp [checkCreatable, h, Act.ofExcept]

/-- **What the check answers and what it keeps**: it predicts building for the compositor only,
and only where accelerated rendering is allowed. -/
theorem checkCreatable_predicts_compositor (c : BackendConfig) (hc : c.validate = .ok ()) (d : Devices) :
    (∀ m, (runAct (devices.checkCreatable m c) d).2.live = d.live) ∧
    (d.env.acceleratedAllowed = true →
      (runAct (devices.checkCreatable .compositor c) d).1.isOk =
        (runAct (devices.createBackend .compositor c) d).1.isOk) ∧
    (d.env.acceleratedAllowed = false →
      runAct (devices.checkCreatable .compositor c) d =
        (.error (.error (.backendUnavailable "disabled by SNOW_RENDER_DISABLE_ACCELERATED")), d)) ∧
    runAct (devices.checkCreatable .raster c) d = (.ok (), d) := by
  refine ⟨fun m => runAct_checkCreatable_live devices m c d, fun hon => ?_,
    runAct_checkCreatable_disabled c, runAct_checkCreatable_raster hc d⟩
  -- both sides come down to the acquisition they share
  have hbuild : (runAct (devices.createBackend .compositor c) d).1.isOk =
      (runAct (CompositorBackend.new c) d).1.isOk := by
    simp only [createBackend, runAct_map]
    rcases runAct (CompositorBackend.new c) d with ⟨_ | _, d'⟩ <;> rfl
  rw [runAct_checkCreatable_allowed c hon, CompositorBackend.checkCreatable_isOk, hbuild,
    CompositorBackend.new_isOk hc]

/-- A 2×2 configuration of the default format, checked on fresh devices. -/
theorem default_config_checks :
    let c := BackendConfig.new .bgra32 ⟨2, 2⟩ none
    let d : Devices := {}
    c.validate = .ok () ∧
    (∀ m, (runAct (devices.checkCreatable m c) d).2.live = d.live) ∧
    (d.env.acceleratedAllowed = true →
      (runAct (devices.checkCreatable .compositor c) d).1.isOk =
        (runAct (devices.createBackend .compositor c) d).1.isOk) ∧
    (d.env.acceleratedAllowed = false →
      runAct (devices.checkCreatable .compositor c) d =
        (.error (.error (.backendUnavailable "disabled by SNOW_RENDER_DISABLE_ACCELERATED")), d)) ∧
    runAct (devices.checkCreatable .raster c) d = (.ok (), d) :=
  have hc : (BackendConfig.new .bgra32 ⟨2, 2⟩ none).validate = .ok () := rfl
  ⟨hc, checkCreatable_predicts_compositor _ hc {}⟩

/-- **The raster check is no promise**: where sections cannot be made, it passes, and building a
raster backend refuses. -/
theorem raster_check_passes_unbuildable :
    let c := BackendConfig.new .bgra32 ⟨2, 2⟩ none
    let d : Devices := { raster := { failCreate := true } }
    runAct (devices.checkCreatable .raster c) d = (.ok (), d) ∧
      (runAct (devices.createBackend .raster c) d).1 =
        .error (.error (.renderingSubsystem "stub section creation failed")) :=
  ⟨rfl, rfl⟩

end Platform

end Presenter
