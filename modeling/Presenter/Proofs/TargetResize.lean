import Mathlib
import Presenter.Proofs.CompositorPresents
/-!
# Resizing the compositor's target — one native call, and only when the size changes

A resize to the size the target has only logs; any other makes the one call of the target's
binding (`Binding.fitCall`), and the target takes the size exactly when the call succeeds
(`resize_resized`). Both bindings end at the size asked for (`Rect.dimension_toRect_dimension`),
and presents keep it, so once the target has a size, resizes to it make no call
(`resize_fits_target`).
-/

namespace Presenter

open Std.Do

set_option mvcgen.warning false

/-! ## A size and its extent -/

theorem Dimension.toRect_dimension {d : Dimension} (hw : 1 ≤ d.width) (hw' : d.width ≤ Coord.hi)
    (hh : 1 ≤ d.height) (hh' : d.height ≤ Coord.hi) : d.toRect.dimension = d := by
  rcases d with ⟨w, h⟩
  simp only [Rect.dimension, Dimension.toRect, Rect.width, Rect.height, Coord.sub, Coord.sat,
    Dimension.clamped, Coord.lo, Coord.hi, Dimension.mk.injEq] at hw hw' hh hh' ⊢
  omega

theorem Rect.dimension_bounds (r : Rect) :
    1 ≤ r.dimension.width ∧ r.dimension.width ≤ Coord.hi ∧ 1 ≤ r.dimension.height ∧
      r.dimension.height ≤ Coord.hi := by
  have hw := Coord.sat_fits (r.right - r.left)
  have hh := Coord.sat_fits (r.bottom - r.top)
  simp only [Coord.Fits, Coord.lo, Coord.hi] at hw hh
  simp only [Rect.dimension, Dimension.clamped, Rect.width, Rect.height, Coord.sub, Coord.hi]
  omega

/-- **The size a rectangle describes is the size of its extent.** -/
theorem Rect.dimension_toRect_dimension (r : Rect) : r.dimension.toRect.dimension = r.dimension := by
  obtain ⟨hw, hw', hh, hh'⟩ := r.dimension_bounds
  exact Dimension.toRect_dimension hw hw' hh hh'

/-! ## One resize -/

/-- The native call that fits a target to a size: a window-bound target is resized in place, and a
device-context-bound one is bound again to the extent of the size. -/
def Binding.fitCall : Binding → Dimension → CompositorDevice → Except Error CompositorDevice
  | .window, size, c => c.resizeTarget size
  | .deviceContext, size, c => c.bindDc size.toRect

namespace CompositorBackend

/-- What a resize to `rect` does, from the backend `b` on the devices `d` to `b'` on `d'`. -/
structure Resized (b : CompositorBackend) (rect : Rect) (d : Devices) (b' : CompositorBackend)
    (d' : Devices) : Prop where
  /-- The staging buffer, its memory, the binding, the surface, the frame size, the pitch and the
  count of failures stay; only the target's size may change. -/
  keeps : b' = { b with targetSize := b'.targetSize }
  /-- The bitmap is not made again. -/
  bitmaps : d'.compositor.bitmapSizes = d.compositor.bitmapSizes
  /-- A target that already has the size makes no call: only the log changes. -/
  sized : rect.dimension = b.targetSize →
    b' = b ∧ ∃ ev, d' = { d with log := d.log.push ev } ∧ ev.message = "render target already sized"
  /-- Any other target makes the fitting call. When it succeeds the devices are as it leaves them
  and the target takes the size; when it fails, a warning with its error is logged, nothing else
  changes and the target keeps its size. -/
  fitted : rect.dimension ≠ b.targetSize →
    match b.binding.fitCall rect.dimension d.compositor with
    | .ok c => b'.targetSize = rect.dimension ∧
      ∃ ev, d' = { d with compositor := c, log := d.log.push ev } ∧ ev.message = "render target resized"
    | .error e => b'.targetSize = b.targetSize ∧
      ∃ ev, d' = { d with log := d.log.push ev } ∧ ev.level = .warn ∧
        ev.message = "render target resize failed" ∧ (⟨"error", .text e.message⟩ : Log.Field) ∈ ev.fields

/-- **A resize answers, and does what `Resized` says**, from every backend on every devices. -/
theorem resize_resized (b : CompositorBackend) (rect : Rect) (d₀ : Devices) :
    ⦃fun d => ⌜d = d₀⌝⦄ b.resize rect ⦃⇓ b' d => ⌜b.Resized rect d₀ b' d⌝⦄ := by
  -- each binding and each state of the fault decides one branch
  rcases b with ⟨staging, stagingId, _ | _, surface, dimension, pitch, targetSize, failedPresents⟩ <;>
  cases hf : d₀.compositor.failResize <;>
  mvcgen [resize, Act.attempt, Act.onCompositor, Act.updateCompositor, Act.debug, Act.warn, Act.emit,
    Act.fail]
  all_goals subst_vars
  all_goals refine ⟨?_, ?_, fun hsz => ?_, fun hsz => ?_⟩
  all_goals simp_all +zetaDelta [Binding.fitCall, CompositorDevice.resizeTarget, CompositorDevice.bindDc,
    Rect.dimension_toRect_dimension, Array.push_inj_right]
  -- what is left is the bitmaps after a call that succeeded, the devices as the call left them
  all_goals
    subst_vars
    rfl

theorem resize_run_resized (b : CompositorBackend) (rect : Rect) (d : Devices) :
    ∃ b' d', runAct (b.resize rect) d = (.ok b', d') ∧ b.Resized rect d b' d' :=
  Act.runAct_of_noThrow (resize_resized b rect d) rfl

/-! ## Resizes to one size -/

/-- The backends reached from `b₀` by presents, scaled presents and resizes to rectangles that
describe the size `S`, each call made on any devices: faults may be switched on and off between
calls. -/
inductive Steady (S : Dimension) (b₀ : CompositorBackend) : CompositorBackend → Prop
  | start : Steady S b₀ b₀
  | present {b b' : CompositorBackend} {d d' : Devices} (rect : Rect) :
      Steady S b₀ b → runAct (b.present rect) d = (.ok b', d') → Steady S b₀ b'
  | presentStretched {b b' : CompositorBackend} {d d' : Devices} (src dst : Rect) :
      Steady S b₀ b → runAct (b.presentStretched src dst) d = (.ok b', d') → Steady S b₀ b'
  | resize {b b' : CompositorBackend} {d d' : Devices} (rect : Rect) (hrect : rect.dimension = S) :
      Steady S b₀ b → runAct (b.resize rect) d = (.ok b', d') → Steady S b₀ b'

theorem Steady.targetSize {S : Dimension} {b₀ b : CompositorBackend} (h : Steady S b₀ b)
    (h₀ : b₀.targetSize = S) : b.targetSize = S := by
  induction h with
  | start => exact h₀
  | present rect _ hrun ih =>
    obtain ⟨b'', d'', hrun', -, rfl⟩ := present_run _ rect _
    obtain ⟨rfl, -⟩ := ok_inj (hrun.symm.trans hrun')
    exact ih
  | presentStretched src dst _ hrun ih =>
    obtain ⟨b'', d'', hrun', -, rfl⟩ := presentStretched_run _ src dst _
    obtain ⟨rfl, -⟩ := ok_inj (hrun.symm.trans hrun')
    exact ih
  | resize rect hrect _ hrun ih =>
    obtain ⟨b'', d'', hrun', hresized⟩ := resize_run_resized _ rect _
    obtain ⟨rfl, -⟩ := ok_inj (hrun.symm.trans hrun')
    rw [(hresized.sized (hrect.trans ih.symm)).1]
    exact ih

/-- **Every resize answers and makes the one fitting call only when the size changes**, whatever
presents and faults come between. -/
theorem resize_fits_target :
    (∀ (b : CompositorBackend) (rect : Rect) (d : Devices),
      ∃ b' d', runAct (b.resize rect) d = (.ok b', d') ∧ b.Resized rect d b' d') ∧
    (∀ (S : Dimension) (b₀ b : CompositorBackend), b₀.targetSize = S → Steady S b₀ b →
      ∀ (rect : Rect) (d : Devices), rect.dimension = S →
        ∃ ev, runAct (b.resize rect) d = (.ok b, { d with log := d.log.push ev }) ∧
          ev.message = "render target already sized") := by
  refine ⟨resize_run_resized, fun S b₀ b h₀ hsteady rect d hrect => ?_⟩
  obtain ⟨b', d', hrun, hresized⟩ := resize_run_resized b rect d
  -- the target already has the size, so the resize makes no call
  obtain ⟨rfl, ev, rfl, hmsg⟩ := hresized.sized (hrect.trans (hsteady.targetSize h₀).symm)
  exact ⟨ev, hrun, hmsg⟩

/-- A backend whose window-bound target was fitted to 1024×768 makes no call when asked for that
size again. -/
theorem fitted_target_resizes_once :
    let b : CompositorBackend := ⟨zeroBytes 16, 0, .window, ⟨16⟩, ⟨2, 2⟩, 8, ⟨1024, 768⟩, 0⟩
    Rect.dimension ⟨0, 0, 1024, 768⟩ = ⟨1024, 768⟩ ∧
      ∃ ev, runAct (b.resize ⟨0, 0, 1024, 768⟩) {} = (.ok b, { ({} : Devices) with log := #[ev] }) ∧
        ev.message = "render target already sized" :=
  have hdim : Rect.dimension ⟨0, 0, 1024, 768⟩ = ⟨1024, 768⟩ := by decide
  ⟨hdim, resize_fits_target.2 _ _ _ rfl .start _ {} hdim⟩

end CompositorBackend

end Presenter
