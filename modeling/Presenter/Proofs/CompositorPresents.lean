import Mathlib
import Presenter.Proofs.CoordinatorReach
import Presenter.Proofs.CopyRegion
/-!
# Presenting on the compositor — every present answers, and what its draw records

A present draws one frame: it begins a draw, uploads the whole staging buffer into the bitmap,
clears the target, draws the bitmap when both rectangles have pixels, and ends the draw. A failed
upload still ends the draw and draws nothing; a failed end of draw is absorbed. Either failure is
counted, and a frame that succeeds resets the count (`presentLogged_spec`).

A compositor backend is driven from the moment it is built by presents, scaled presents and
resizes, with the devices changed in any way between calls, faults switched on and off among them
(`Driven`). Along every drive each present answers, records exactly the calls of one frame
(`CompositorDevice.frameCalls`) and an upload of the whole staging buffer, four bytes a pixel,
draws the part of its rectangles inside the bitmap and the target as it is after earlier
resizes, and the count of failures is the number of presents that failed since the last one
that succeeded, capped at the largest 32-bit value (`driven_presents`).
-/

namespace Presenter

open Std.Do

set_option mvcgen.warning false

namespace CompositorDevice

/-- Whether a frame drawn now fails: its upload or the end of its draw is made to fail. -/
def frameFails (c : CompositorDevice) : Bool := c.failUpload || c.failEndDraw

/-- The calls one frame makes on the target: after an upload, begin, clear, a draw of `src` of
the bitmap onto `dst` when both have pixels, and end; without one, begin and end only. -/
def frameCalls (uploaded : Bool) (src dst : Rect) : List TargetCall :=
  if uploaded then
    [.beginDraw, .clear] ++ (if src.isEmpty || dst.isEmpty then [] else [.drawBitmap dst src]) ++ [.endDraw]
  else [.beginDraw, .endDraw]

/-- The compositor's record after one frame whose upload is `len` bytes of `pitch` bytes a row:
the upload, when it succeeds, and the frame's calls on the target. -/
def afterFrame (c : CompositorDevice) (len pitch : Nat) (src dst : Rect) : CompositorDevice :=
  { c with
    uploads := if c.failUpload then c.uploads else c.uploads ++ [(len, pitch)]
    targetCalls := c.targetCalls ++ frameCalls (!c.failUpload) src dst }

@[simp] theorem upload_eq_error {c : CompositorDevice} {len pitch : Nat} {e : Error} :
    c.upload len pitch = .error e ↔ c.failUpload = true ∧ e = .platform "stub upload failed" := by
  unfold upload
  cases c.failUpload <;> simp [eq_comm]

@[simp] theorem endDraw_fst (c : CompositorDevice) :
    c.endDraw.1 = if c.failEndDraw then .error (.platform "stub end draw failed") else .ok () := by
  unfold endDraw
  split <;> simp_all [record]

theorem endDraw_fst_eq_error (c : CompositorDevice) (e : Error) :
    c.endDraw.1 = .error e ↔ c.failEndDraw = true ∧ e = .platform "stub end draw failed" := by
  rw [endDraw_fst]
  cases c.failEndDraw <;> simp [eq_comm]

end CompositorDevice

theorem Act.triple_trivial {α : Type} (x : Act α) :
    ⦃fun _ => ⌜True⌝⦄ x ⦃post⟨fun _ _ => ⌜True⌝, fun _ _ => ⌜True⌝⟩⦄ := by
  intro d _
  simp only [wp, PredTrans.apply]
  split <;> trivial

theorem Rect.contains_clampTo (r : Rect) (e : Dimension) (x y : Int) :
    (r.clampTo e).Contains x y ↔ r.Contains x y ∧ e.toRect.Contains x y := by
  simp only [Rect.Contains, Rect.clampTo, Rect.inter_left, Rect.inter_top, Rect.inter_right,
    Rect.inter_bottom, Dimension.toRect]
  omega

namespace CompositorBackend

/-! ## One frame -/

theorem drawFrame_spec (b : CompositorBackend) (src dst : Rect) (c : CompositorDevice) :
    ⦃fun d => ⌜d.compositor = c⌝⦄ b.drawFrame src dst
    ⦃post⟨fun _ d => ⌜d.compositor = c.afterFrame b.staging.size b.pitch src dst ∧ c.frameFails = false⌝,
      fun e d => ⌜d.compositor = c.afterFrame b.staging.size b.pitch src dst ∧ c.frameFails = true ∧
        ∃ err, e = .error err⌝⟩⦄ := by
  mvcgen [drawFrame, Act.attempt, Act.onCompositor, Act.updateCompositor, Act.debug, Act.emit, Act.fail]
  all_goals subst_vars
  -- an upload that went through: the frame clears and draws, and fails as its end is made to
  case vc1.h_1.isTrue.h_1 | vc2.h_1.isTrue.h_2 | vc3.h_1.isFalse.h_1 | vc4.h_1.isFalse.h_2 =>
    simp_all +zetaDelta [CompositorDevice.afterFrame, CompositorDevice.frameFails,
      CompositorDevice.frameCalls, CompositorDevice.record, -CompositorDevice.endDraw_fst,
      CompositorDevice.endDraw_fst_eq_error]
  -- a failed upload: the frame only begins and ends, whatever its end answers
  case vc5.h_2.h_1 | vc6.h_2.h_2 =>
    simp_all +zetaDelta [CompositorDevice.afterFrame, CompositorDevice.frameFails,
      CompositorDevice.frameCalls, CompositorDevice.record, -CompositorDevice.endDraw_fst,
      CompositorDevice.endDraw_fst_eq_error]

/-- **A present always answers**, keeps the frame's record, and counts its failure or resets the
count. -/
theorem presentLogged_spec (b : CompositorBackend) (src dst : Rect) (c : CompositorDevice) :
    ⦃fun d => ⌜d.compositor = c⌝⦄ b.presentLogged src dst
    ⦃⇓ b' d => ⌜d.compositor = c.afterFrame b.staging.size b.pitch src dst ∧
      b' = { b with failedPresents := if c.frameFails then min (b.failedPresents + 1) (Nat.pow 2 32 - 1)
        else 0 }⌝⦄ := by
  mvcgen [presentLogged, Act.attempt, drawFrame_spec, Act.warn, Act.emit]
  all_goals simp_all +zetaDelta

theorem resize_spec (b : CompositorBackend) (rect : Rect) (c : CompositorDevice) :
    ⦃fun d => ⌜d.compositor = c⌝⦄ b.resize rect
    ⦃⇓ b' d => ⌜d.compositor.targetCalls = c.targetCalls ∧ d.compositor.uploads = c.uploads ∧
      b'.staging = b.staging ∧ b'.pitch = b.pitch ∧ b'.dimension = b.dimension ∧
      b'.failedPresents = b.failedPresents⌝⦄ := by
  mvcgen [resize, Act.attempt, Act.onCompositor, Act.updateCompositor, Act.debug, Act.warn, Act.emit,
    Act.fail]
  all_goals simp_all +zetaDelta

/-- The staging buffer holds four bytes a pixel of the frame, rows of four bytes a pixel. -/
def Whole (b : CompositorBackend) : Prop :=
  b.staging.size = b.dimension.width * b.dimension.height * 4 ∧ b.pitch = b.dimension.width * 4

theorem new_whole (config : BackendConfig) :
    ⦃fun _ => ⌜True⌝⦄ CompositorBackend.new config
    ⦃post⟨fun b _ => ⌜b.Whole ∧ b.failedPresents = 0⌝, fun _ _ => ⌜True⌝⟩⦄ := by
  have hacquire := Act.triple_trivial (acquire config)
  have hrelease := Act.triple_trivial release
  mvcgen [CompositorBackend.new, -new_spec, -acquire_spec, hacquire, -release_spec, hrelease,
    Act.allocate, Act.fail, Act.debug, Act.emit]
  all_goals simp_all +zetaDelta [Whole, stagingPixelBytes, zeroBytes_size]

/-! ## Driving a backend -/

/-- A compositor backend driven by presents, with the devices it is driven on and the number of
presents that failed since the last one that succeeded, or since it was built. It is built, then
the devices may change in any way (faults switched on and off among them), and presents, scaled
presents and resizes are made; a present fails when its upload or the end of its draw is made to
fail. -/
inductive Driven : CompositorBackend → Devices → Nat → Prop
  | built {config : BackendConfig} {d d' : Devices} {b : CompositorBackend} :
      runAct (CompositorBackend.new config) d = (.ok b, d') → Driven b d' 0
  | devices {b : CompositorBackend} {d : Devices} {k : Nat} (d' : Devices) :
      Driven b d k → Driven b d' k
  | present {b b' : CompositorBackend} {d d' : Devices} {k : Nat} (rect : Rect) :
      Driven b d k → runAct (b.present rect) d = (.ok b', d') →
      Driven b' d' (if d.compositor.frameFails then k + 1 else 0)
  | presentStretched {b b' : CompositorBackend} {d d' : Devices} {k : Nat} (src dst : Rect) :
      Driven b d k → runAct (b.presentStretched src dst) d = (.ok b', d') →
      Driven b' d' (if d.compositor.frameFails then k + 1 else 0)
  | resize {b b' : CompositorBackend} {d d' : Devices} {k : Nat} (rect : Rect) :
      Driven b d k → runAct (b.resize rect) d = (.ok b', d') → Driven b' d' k

/-- The largest 32-bit value, where the count of failures stops. -/
abbrev countCap : Nat := Nat.pow 2 32 - 1

theorem presentLogged_run (b : CompositorBackend) (src dst : Rect) (d : Devices) :
    ∃ b' d', runAct (b.presentLogged src dst) d = (.ok b', d') ∧
      d'.compositor = d.compositor.afterFrame b.staging.size b.pitch src dst ∧
      b' = { b with failedPresents := if d.compositor.frameFails then min (b.failedPresents + 1) countCap
        else 0 } :=
  Act.runAct_of_noThrow (presentLogged_spec b src dst d.compositor) rfl

theorem present_run (b : CompositorBackend) (rect : Rect) (d : Devices) :
    let r := (rect.clampTo b.dimension).clampTo b.targetSize
    ∃ b' d', runAct (b.present rect) d = (.ok b', d') ∧
      d'.compositor = d.compositor.afterFrame b.staging.size b.pitch r r ∧
      b' = { b with failedPresents := if d.compositor.frameFails then min (b.failedPresents + 1) countCap
        else 0 } :=
  presentLogged_run b _ _ d

theorem presentStretched_run (b : CompositorBackend) (src dst : Rect) (d : Devices) :
    ∃ b' d', runAct (b.presentStretched src dst) d = (.ok b', d') ∧
      d'.compositor = d.compositor.afterFrame b.staging.size b.pitch (src.clampTo b.dimension)
        (dst.clampTo b.targetSize) ∧
      b' = { b with failedPresents := if d.compositor.frameFails then min (b.failedPresents + 1) countCap
        else 0 } :=
  presentLogged_run b _ _ d

theorem resize_run (b : CompositorBackend) (rect : Rect) (d : Devices) :
    ∃ b' d', runAct (b.resize rect) d = (.ok b', d') ∧
      d'.compositor.targetCalls = d.compositor.targetCalls ∧ d'.compositor.uploads = d.compositor.uploads ∧
      b'.staging = b.staging ∧ b'.pitch = b.pitch ∧ b'.dimension = b.dimension ∧
      b'.failedPresents = b.failedPresents :=
  Act.runAct_of_noThrow (resize_spec b rect d.compositor) rfl

theorem count_after_present {n k : Nat} (hn : n = min k countCap) (fails : Bool) :
    (if fails then min (n + 1) countCap else 0) = min (if fails then k + 1 else 0) countCap := by
  cases fails <;> simp only [if_true, if_false, Bool.false_eq_true] <;> omega

theorem ok_inj {α : Type} {a a' : α} {d d' : Devices} (h : (Except.ok a, d) = ((.ok a', d') : Except Stop α × Devices)) :
    a = a' ∧ d = d' := by
  simp only [Prod.mk.injEq, Except.ok.injEq] at h
  exact h

theorem Driven.whole_count {b : CompositorBackend} {d : Devices} {k : Nat} (h : Driven b d k) :
    b.Whole ∧ b.failedPresents = min k countCap := by
  induction h with
  | @built config d₀ _ _ hnew =>
    have hb := @Act.runAct_of_triple _ _ _ _ _ (new_whole config) d₀ trivial
    rw [hnew] at hb
    exact ⟨hb.1, by rw [hb.2]; rfl⟩
  | devices _ _ ih => exact ih
  | present rect _ hrun ih =>
    obtain ⟨b'', d'', hrun', -, rfl⟩ := present_run _ rect _
    obtain ⟨rfl, -⟩ := ok_inj (hrun.symm.trans hrun')
    exact ⟨ih.1, count_after_present ih.2 _⟩
  | presentStretched src dst _ hrun ih =>
    obtain ⟨b'', d'', hrun', -, rfl⟩ := presentStretched_run _ src dst _
    obtain ⟨rfl, -⟩ := ok_inj (hrun.symm.trans hrun')
    exact ⟨ih.1, count_after_present ih.2 _⟩
  | resize rect _ hrun ih =>
    obtain ⟨b'', d'', hrun', -, -, hstaging, hpitch, hdim, hcount⟩ := resize_run _ rect _
    obtain ⟨rfl, -⟩ := ok_inj (hrun.symm.trans hrun')
    exact ⟨by rw [Whole, hstaging, hpitch, hdim]; exact ih.1, hcount.trans ih.2⟩

/-- What the next call on a driven backend does, `k` presents having failed since the last one that
succeeded. -/
structure Presents (b : CompositorBackend) (d : Devices) (k : Nat) : Prop where
  /-- The count of failures is the number of failed presents, capped. -/
  count : b.failedPresents = min k countCap
  /-- A present answers, records one frame that draws the part of its rectangle inside the bitmap
  and the target, from an upload of the whole staging buffer, and counts. -/
  present : ∀ rect : Rect, ∃ b' d', runAct (b.present rect) d = (.ok b', d') ∧
    d'.compositor = d.compositor.afterFrame (b.dimension.width * b.dimension.height * 4)
      (b.dimension.width * 4) ((rect.clampTo b.dimension).clampTo b.targetSize)
      ((rect.clampTo b.dimension).clampTo b.targetSize) ∧
    b'.failedPresents = min (if d.compositor.frameFails then k + 1 else 0) countCap
  /-- A scaled present does the same with its source inside the bitmap and its destination inside
  the target. -/
  presentStretched : ∀ src dst : Rect, ∃ b' d', runAct (b.presentStretched src dst) d = (.ok b', d') ∧
    d'.compositor = d.compositor.afterFrame (b.dimension.width * b.dimension.height * 4)
      (b.dimension.width * 4) (src.clampTo b.dimension) (dst.clampTo b.targetSize) ∧
    b'.failedPresents = min (if d.compositor.frameFails then k + 1 else 0) countCap
  /-- A resize answers, records no call on the target and no upload, and keeps the count. -/
  resize : ∀ rect : Rect, ∃ b' d', runAct (b.resize rect) d = (.ok b', d') ∧
    d'.compositor.targetCalls = d.compositor.targetCalls ∧ d'.compositor.uploads = d.compositor.uploads ∧
    b'.failedPresents = b.failedPresents

/-- **Along every drive of a compositor backend, every call answers and every present records
exactly one frame**, and the count of failures is that of the presents failed since the last success. -/
theorem driven_presents {b : CompositorBackend} {d : Devices} {k : Nat} (h : Driven b d k) :
    b.Presents d k := by
  obtain ⟨⟨hsize, hpitch⟩, hcount⟩ := h.whole_count
  refine ⟨hcount, fun rect => ?_, fun src dst => ?_, fun rect => ?_⟩
  · obtain ⟨b', d', hrun, hframe, rfl⟩ := present_run b rect d
    exact ⟨_, d', hrun, by rw [hframe, hsize, hpitch], count_after_present hcount _⟩
  · obtain ⟨b', d', hrun, hframe, rfl⟩ := presentStretched_run b src dst d
    exact ⟨_, d', hrun, by rw [hframe, hsize, hpitch], count_after_present hcount _⟩
  · obtain ⟨b', d', hrun, hcalls, huploads, -, -, -, hkept⟩ := resize_run b rect d
    exact ⟨b', d', hrun, hcalls, huploads, hkept⟩

/-- A backend just built for a 2×2 frame on the default devices is driven, and its next calls go as
the drive theorem says. -/
theorem fresh_backend_presents :
    let b : CompositorBackend := ⟨zeroBytes 16, 0, .window, ⟨16⟩, ⟨2, 2⟩, 8, ⟨640, 480⟩, 0⟩
    let d := (runAct (CompositorBackend.new ⟨.bgra32, ⟨2, 2⟩, none⟩) {}).2
    Driven b d 0 ∧ b.Presents d 0 :=
  have h : Driven ⟨zeroBytes 16, 0, .window, ⟨16⟩, ⟨2, 2⟩, 8, ⟨640, 480⟩, 0⟩
      (runAct (CompositorBackend.new ⟨.bgra32, ⟨2, 2⟩, none⟩) {}).2 0 :=
    @Driven.built ⟨.bgra32, ⟨2, 2⟩, none⟩ {} _ _ rfl
  ⟨h, driven_presents h⟩

end CompositorBackend

end Presenter
