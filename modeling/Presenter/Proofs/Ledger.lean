import Mathlib
import Presenter.Backend
/-!
# Ledger — the native resources a call leaves alive, and the order it gave them back in

Every device counts what it has handed out and not yet taken back: live sections, factories and
targets. A call that builds a backend must end with exactly one more backend's worth of them,
and a call that fails must end with none more, having given back whatever it took. The
compositor also lists every resource in the order it was given back; a correct program only
ever appends whole groups, each in reverse order of acquisition: a lone factory, a target and
its factory, or a bitmap, its target and its factory (`Released`).

`Devices.Tally k n` pins what a call may not change except by building or releasing a backend:
the live counts, the windows and the section fault of `k`, a release order of whole groups, and
at least `n` memories handed out. Each device call below has one specification in these terms
(a Hoare triple over `Act`), and the coordinator's proofs cite them instead of the code.
-/

namespace Presenter

open Std.Do

set_option mvcgen.warning false

/-- **A release order made of whole groups**, each in reverse order of acquisition. -/
inductive Released : List Resource → Prop
  | nil : Released []
  | factory {l : List Resource} : Released l → Released (l ++ [.factory])
  | target {l : List Resource} : Released l → Released (l ++ [.target, .factory])
  | bitmap {l : List Resource} : Released l → Released (l ++ [.bitmap, .target, .factory])

namespace Released

theorem append_factory {l : List Resource} (h : Released l) : Released (l ++ [.factory]) :=
  .factory h

theorem append_target {l : List Resource} (h : Released l) : Released (l ++ [.target, .factory]) :=
  .target h

theorem append_bitmap {l : List Resource} (h : Released l) :
    Released (l ++ [.bitmap, .target, .factory]) :=
  .bitmap h

end Released

/-- What of the devices only building and releasing backends may change: the live sections,
factories and targets, and the windows and section fault that decide what a backend is built on. -/
structure Stock where
  sections : Nat
  factories : Nat
  targets : Nat
  windows : List SurfaceHandle
  shortSection : Bool
  deriving DecidableEq

namespace Stock

/-- One more live section. -/
def addSection (k : Stock) : Stock := { k with sections := k.sections + 1 }

/-- One more live factory. -/
def addFactory (k : Stock) : Stock := { k with factories := k.factories + 1 }

/-- One more live factory and target. -/
def addPair (k : Stock) : Stock := { k with factories := k.factories + 1, targets := k.targets + 1 }

/-- The stock with a backend's resources added: a section for a raster backend, a factory and a
target for a compositor one. -/
def hold (k : Stock) : Backend → Stock
  | .raster _ => k.addSection
  | .compositor _ => k.addPair

/-- The stock with the live backend's resources added, if one is live. -/
def keep (k : Stock) : Option Backend → Stock
  | none => k
  | some b => k.hold b

end Stock

/-- The devices hold the stock `k`, have released whole groups only, and have handed out at least
`n` memories. -/
def Devices.Tally (k : Stock) (n : Nat) (d : Devices) : Prop :=
  d.raster.liveSections = k.sections ∧ d.compositor.liveFactories = k.factories ∧
    d.compositor.liveTargets = k.targets ∧ d.surfaces.windows = k.windows ∧
    d.raster.shortSection = k.shortSection ∧ Released d.compositor.releaseOrder ∧ n ≤ d.allocations

theorem Devices.Tally.log {k : Stock} {n : Nat} {d : Devices} (h : d.Tally k n) (l : Array Log.Event) :
    Devices.Tally k n { d with log := l } :=
  h

/-- The surface `s` is what resolving `req` among the live windows `w` may give: a live window
that is not null, and the requested one itself whenever that is a live window. -/
def Resolves (req : Option SurfaceHandle) (w : List SurfaceHandle) (s : SurfaceHandle) : Prop :=
  s ∈ w ∧ s.isNull = false ∧ ∀ r, req = some r → r ∈ w → r.isNull = false → s = r

theorem Resolves.eq_of_some {req : Option SurfaceHandle} {w : List SurfaceHandle}
    {s t : SurfaceHandle} (ht : Resolves (some s) w t) (hs : Resolves req w s) : t = s :=
  ht.2.2 s rfl hs.1 hs.2.1

/-- A backend built for `config` over the stock `k` after `n` memories were handed out: on the
surface resolving the configured one gives, of the clamped size, with memory of four bytes a pixel
unless it is a section made short, and in a memory numbered `n` or later. -/
def Backend.Built (config : BackendConfig) (k : Stock) (n : Nat) (b : Backend) : Prop :=
  Resolves config.surface k.windows b.surface ∧ b.dimension = config.dimension.clamped ∧
    ((b.mode = .raster → k.shortSection = false) →
      b.memoryLen = b.dimension.width * b.dimension.height * 4) ∧ n ≤ b.memoryId

@[simp] theorem Act.restore_eq (d : Devices) (u : PUnit) :
    @EStateM.Backtrackable.restore PUnit Devices EStateM.nonBacktrackable d u = d := rfl

/-! ## The device records -/

@[simp] theorem Dimension.byteLen_eq_ok_iff {d : Dimension} {bpp n : Nat} :
    d.byteLen bpp = .ok n ↔
      d.width * d.height < wordLimit ∧ d.width * d.height * bpp < wordLimit ∧ n = d.width * d.height * bpp := by
  unfold Dimension.byteLen Dimension.pixelCount
  by_cases h1 : d.width * d.height < wordLimit <;> by_cases h2 : d.width * d.height * bpp < wordLimit <;>
    simp [h1, h2, bind, Except.bind, @eq_comm _ _ n]

theorem BackendConfig.bytesPerPixel_of_validate {c : BackendConfig} {u : Unit} (h : c.validate = .ok u) :
    c.format.bytesPerPixel = 4 := by
  unfold BackendConfig.validate PixelFormat.validateForBackend at h
  split at h
  · cases h
  · rename_i hv
    split at hv
    · cases hv
    · rename_i h32
      simp only [ne_eq, Decidable.not_not] at h32
      simp [PixelFormat.bytesPerPixel, h32]

namespace CompositorDevice

variable {d d' : CompositorDevice}

@[simp] theorem createFactory_eq_ok :
    d.createFactory = .ok d' ↔ d.failFactory = false ∧
      d' = { d with factoriesCreated := d.factoriesCreated + 1, liveFactories := d.liveFactories + 1 } := by
  unfold createFactory
  cases hf : d.failFactory <;> simp [@eq_comm _ _ d']

@[simp] theorem createWindowTarget_eq_ok :
    d.createWindowTarget = .ok d' ↔ d.failWindowTarget = false ∧ d.targetBudget ≠ some 0 ∧
      d' = { d with targetBudget := d.targetBudget.map (· - 1), liveTargets := d.liveTargets + 1 } := by
  unfold createWindowTarget spendBudget
  cases hf : d.failWindowTarget <;> rcases hb : d.targetBudget with _ | _ | n <;> simp [hf, hb, @eq_comm _ _ d']

@[simp] theorem createDcTarget_eq_ok {bounds : Rect} :
    d.createDcTarget bounds = .ok d' ↔ d.failDcTarget = false ∧ d.targetBudget ≠ some 0 ∧
      d' = { d with targetBudget := d.targetBudget.map (· - 1), dcBinds := d.dcBinds ++ [bounds]
                    liveTargets := d.liveTargets + 1 } := by
  unfold createDcTarget spendBudget
  cases hf : d.failDcTarget <;> rcases hb : d.targetBudget with _ | _ | n <;> simp [hf, hb, @eq_comm _ _ d']

@[simp] theorem createBitmap_eq_ok {size : Dimension} :
    d.createBitmap size = .ok d' ↔ d.failBitmap = false ∧
      d' = { d with bitmapSizes := d.bitmapSizes ++ [size] } := by
  unfold createBitmap
  cases hf : d.failBitmap <;> simp [@eq_comm _ _ d']

@[simp] theorem upload_eq_ok {len pitch : Nat} :
    d.upload len pitch = .ok d' ↔ d.failUpload = false ∧ d' = { d with uploads := d.uploads ++ [(len, pitch)] } := by
  unfold upload
  cases hf : d.failUpload <;> simp [@eq_comm _ _ d']

@[simp] theorem resizeTarget_eq_ok {size : Dimension} :
    d.resizeTarget size = .ok d' ↔ d.failResize = false ∧ d' = { d with resizes := d.resizes ++ [size] } := by
  unfold resizeTarget
  cases hf : d.failResize <;> simp [@eq_comm _ _ d']

@[simp] theorem bindDc_eq_ok {bounds : Rect} :
    d.bindDc bounds = .ok d' ↔ d.failResize = false ∧ d' = { d with dcBinds := d.dcBinds ++ [bounds] } := by
  unfold bindDc
  cases hf : d.failResize <;> simp [@eq_comm _ _ d']

@[simp] theorem endDraw_snd : d.endDraw.2 = d.record .endDraw := by
  unfold endDraw
  dsimp only
  split <;> rfl

end CompositorDevice

namespace RasterDevice

variable {d d' : RasterDevice}

@[simp] theorem createSection_eq_ok {id : Nat} {f : PixelFormat} {dim : Dimension} {s : Section} :
    d.createSection id f dim = .ok (s, d') ↔ d.failCreate = false ∧ ∃ len, dim.byteLen f.bytesPerPixel = .ok len ∧
      s = ⟨id, zeroBytes len, dim.width, if d.shortSection then len - 1 else len⟩ ∧
      d' = { d with sections := d.sections + 1, liveSections := d.liveSections + 1 } := by
  unfold createSection
  cases hf : d.failCreate
  · cases hl : dim.byteLen f.bytesPerPixel <;> simp [@eq_comm _ _ s, @eq_comm _ _ d']
  · simp

theorem blitFromScreen_eq_ok {s s' : Section} {dst : Rect} {sx sy : Int} {mode : CaptureMode}
    (h : d.blitFromScreen s dst sx sy mode = .ok (s', d')) :
    s'.id = s.id ∧ s'.width = s.width ∧ s'.len = s.len ∧ d'.liveSections = d.liveSections ∧
      d'.shortSection = d.shortSection := by
  unfold blitFromScreen at h
  split at h
  · cases h
  · dsimp only at h
    split at h
    · cases h
    · cases h; exact ⟨rfl, rfl, rfl, rfl, rfl⟩

@[simp] theorem blitToSurface_eq_ok {s : Section} {rect : Rect} :
    d.blitToSurface s rect = .ok d' ↔ d.failPresent = false ∧
      d' = { d with surfaceBlits := d.surfaceBlits ++ [rect], screen := showOnScreen d.screen s rect } := by
  unfold blitToSurface
  cases hf : d.failPresent <;> simp [@eq_comm _ _ d']

@[simp] theorem stretchToSurface_eq_ok {src dst : Rect} :
    d.stretchToSurface src dst = .ok d' ↔ d.failPresent = false ∧
      d' = { d with stretches := d.stretches ++ [(src, dst)] } := by
  unfold stretchToSurface
  cases hf : d.failPresent <;> simp [@eq_comm _ _ d']

end RasterDevice

namespace Surfaces

variable (w : Surfaces) (s : SurfaceHandle)

@[simp] theorem isValid_fst : (w.isValid s).1 = decide (s ∈ w.windows ∧ w.validBudget ≠ some 0) := by
  unfold isValid
  split
  · split <;> simp_all
  · simp_all

theorem classify_of_findDesktop {e : Error} (h : w.findDesktop = .error e) : e.classify = .fatal := by
  unfold findDesktop at h
  split at h
  · cases h; rfl
  · cases h

@[simp] theorem isValid_snd_windows : (w.isValid s).2.windows = w.windows := by
  unfold isValid
  split
  · split <;> rfl
  · rfl

@[simp] theorem isValid_snd_validBudget :
    (w.isValid s).2.validBudget = if s ∈ w.windows then w.validBudget.map (· - 1) else w.validBudget := by
  unfold isValid
  split
  · split <;> simp_all
  · simp_all

end Surfaces

/-! ## Surfaces -/

@[simp] theorem Error.classify_invalidTarget (m : String) : (Error.invalidTarget m).classify = .invalidInput := rfl

@[spec] theorem resolveSurface_spec (req : Option SurfaceHandle) (k : Stock) (n : Nat) :
    ⦃fun d => ⌜d.Tally k n⌝⦄ resolveSurface req
    ⦃post⟨fun s d => ⌜d.Tally k n ∧ Resolves req k.windows s⌝,
      fun e d => ⌜d.Tally k n ∧ ∃ err, e = .error err ∧ err.classify ≠ .unsupported⌝⟩⦄ := by
  mvcgen [resolveSurface, isLiveWindow, Act.debug, Act.emit, Act.ofExcept, Act.fail]
  -- the requested window is live
  case vc1.h_1.isTrue.isTrue => simp_all +zetaDelta [Devices.Tally, Resolves]
  -- the desktop is live, and stands in for a request that is missing, null or not live
  case vc4.h_1.isTrue.isFalse.h_1.isFalse.isFalse | vc8.h_1.isFalse.h_1.isFalse.isFalse
      | vc12.h_2.h_1.isFalse.isFalse =>
    simp_all +zetaDelta [Devices.Tally, Resolves]
  -- the desktop is null or not live: the target is not valid
  case vc2.h_1.isTrue.isFalse.h_1.isTrue | vc3.h_1.isTrue.isFalse.h_1.isFalse.isTrue
      | vc6.h_1.isFalse.h_1.isTrue | vc7.h_1.isFalse.h_1.isFalse.isTrue | vc10.h_2.h_1.isTrue
      | vc11.h_2.h_1.isFalse.isTrue =>
    simp_all +zetaDelta [Devices.Tally]
  -- the desktop cannot be looked up, which is the platform failing
  case vc5.h_1.isTrue.isFalse.h_2 | vc9.h_1.isFalse.h_2 | vc13.h_2.h_2 =>
    simp_all +zetaDelta [Devices.Tally]
    rw [Surfaces.classify_of_findDesktop _ ‹_›]
    decide

/-! ## Compositor -/

@[spec] theorem compositorUsable_spec (k : Stock) (n : Nat) :
    ⦃fun d => ⌜d.Tally k n⌝⦄ compositorUsable ⦃⇓ _ d => ⌜d.Tally k n⌝⦄ := by
  mvcgen [compositorUsable, Act.attempt, Act.onCompositor, Act.updateCompositor, Act.debug, Act.emit, Act.fail]
  all_goals simp_all +zetaDelta [Devices.Tally, CompositorDevice.releaseFactory, Released.append_factory]

namespace CompositorBackend

theorem createTarget_spec (k : Stock) (n : Nat) :
    ⦃fun d => ⌜d.Tally k.addFactory n⌝⦄ createTarget
    ⦃post⟨fun _ d => ⌜d.Tally k.addPair n⌝,
      fun e d => ⌜d.Tally k.addFactory n ∧ ∃ err, e = .error err⌝⟩⦄ := by
  mvcgen [createTarget, Act.attempt, Act.onCompositor, Act.warn, Act.emit, Act.fail]
  -- a target bound to the window, whether or not the client area was read
  case vc1.h_1.h_1 | vc4.h_2.h_1 =>
    simp_all +zetaDelta [Devices.Tally, Stock.addPair, Stock.addFactory]
  -- a target bound to the device context, after the window refused one
  case vc2.h_1.h_2.h_1 | vc5.h_2.h_2.h_1 =>
    simp_all +zetaDelta [Devices.Tally, Stock.addPair, Stock.addFactory]
  -- neither: nothing is taken
  case vc3.h_1.h_2.h_2 | vc6.h_2.h_2.h_2 => simp_all +zetaDelta [Devices.Tally]

theorem createBitmap_spec (k : Stock) (n : Nat) (dim : Dimension) :
    ⦃fun d => ⌜d.Tally k.addPair n⌝⦄ createBitmap dim
    ⦃post⟨fun _ d => ⌜d.Tally k.addPair n⌝, fun e d => ⌜d.Tally k n ∧ ∃ err, e = .error err⌝⟩⦄ := by
  mvcgen [createBitmap, releaseTargetAndFactory, Act.attempt, Act.onCompositor, Act.updateCompositor,
    Act.fail]
  -- a bitmap is not counted
  case vc1.h_1 => simp_all [Devices.Tally]
  -- without one, target and factory are given back, in that order
  case vc2.h_2 =>
    simp_all +zetaDelta [Devices.Tally, Stock.addPair, CompositorDevice.releaseTarget,
      CompositorDevice.releaseFactory, Released.append_target]

end CompositorBackend

@[spec] theorem acquire_spec (config : BackendConfig) (k : Stock) (n : Nat) :
    ⦃fun d => ⌜d.Tally k n⌝⦄ CompositorBackend.acquire config
    ⦃post⟨fun r d => ⌜d.Tally k.addPair n ∧ Resolves config.surface k.windows r.1⌝,
      fun e d => ⌜d.Tally k n ∧ ∃ err, e = .error err⌝⟩⦄ := by
  have htarget := CompositorBackend.createTarget_spec k n
  have hbitmap := CompositorBackend.createBitmap_spec k n config.dimension.clamped
  mvcgen [CompositorBackend.acquire, htarget, hbitmap, Act.ofExcept, Act.fail, Act.attempt,
    Act.onCompositor, Act.updateCompositor]
  -- the factory is counted before a target is tried
  case vc4.h_1.post.success.h_1.pre => simp_all +zetaDelta [Devices.Tally, Stock.addFactory]
  -- factory, target and bitmap: one more pair, on the resolved surface
  case vc6.h_1.post.success.h_1.post.success.post.success => simp_all
  -- a target refused gives the factory back; taking a target never stops the program
  case vc7.h_1.post.success.h_1.post.except.handle.h_1 =>
    simp_all +zetaDelta [Devices.Tally, Stock.addFactory, CompositorDevice.releaseFactory,
      Released.append_factory]
  case vc8.h_1.post.success.h_1.post.except.handle.h_2 => simp_all
  -- a refused configuration, surface or factory takes nothing
  case vc9.h_1.post.success.h_2 | vc10.h_1.post.except.handle | vc11.h_2 => simp_all

@[spec] theorem CompositorBackend.release_spec (k : Stock) (n : Nat) :
    ⦃fun d => ⌜d.Tally k.addPair n⌝⦄ CompositorBackend.release ⦃⇓ _ d => ⌜d.Tally k n⌝⦄ := by
  mvcgen [CompositorBackend.release, Act.updateCompositor]
  all_goals simp_all +zetaDelta [Devices.Tally, Stock.addPair, CompositorDevice.releaseFactory,
    CompositorDevice.releaseTarget, CompositorDevice.releaseBitmap, Released.append_bitmap]

@[spec] theorem CompositorBackend.new_spec (config : BackendConfig) (k : Stock) (n : Nat) :
    ⦃fun d => ⌜d.Tally k n⌝⦄ CompositorBackend.new config
    ⦃post⟨fun b d => ⌜d.Tally k.addPair n ∧ (Backend.compositor b).Built config k n⌝,
      fun e d => ⌜d.Tally k n ∧ ∃ err, e = .error err⌝⟩⦄ := by
  mvcgen [CompositorBackend.new, CompositorBackend.release, Act.updateCompositor, Act.allocate,
    Act.fail, Act.debug, Act.emit]
  -- a staging buffer past the row pitch, or past the section limit, gives back all three
  case vc2.post.success.h_1.isTrue | vc4.post.success.h_2 =>
    simp_all +zetaDelta [Devices.Tally, Stock.addPair, CompositorDevice.releaseFactory,
      CompositorDevice.releaseTarget, CompositorDevice.releaseBitmap, Released.append_bitmap]
  -- a zeroed staging buffer in the memory just handed out
  case vc3.post.success.h_1.isFalse =>
    simp_all +zetaDelta [Devices.Tally, Backend.Built, Backend.surface, Backend.dimension,
      Backend.memoryLen, Backend.memoryId, stagingPixelBytes]
    grind

@[spec] theorem CompositorBackend.checkCreatable_spec (config : BackendConfig) (k : Stock) (n : Nat) :
    ⦃fun d => ⌜d.Tally k n⌝⦄ CompositorBackend.checkCreatable config
    ⦃post⟨fun _ d => ⌜d.Tally k n⌝, fun e d => ⌜d.Tally k n ∧ ∃ err, e = .error err⌝⟩⦄ := by
  have hrelease := CompositorBackend.release_spec k n
  mvcgen [CompositorBackend.checkCreatable, -CompositorBackend.release_spec, hrelease]
  all_goals simp_all

/-! ## Raster -/

@[spec] theorem RasterBackend.new_spec (config : BackendConfig) (k : Stock) (n : Nat) :
    ⦃fun d => ⌜d.Tally k n⌝⦄ RasterBackend.new config
    ⦃post⟨fun b d => ⌜d.Tally k.addSection n ∧ (Backend.raster b).Built config k n⌝,
      fun e d => ⌜d.Tally k n ∧ ∃ err, e = .error err⌝⟩⦄ := by
  mvcgen [RasterBackend.new, Act.allocate, Act.ofExcept, Act.fail, Act.onRaster, Act.debug, Act.emit]
  -- a section of the clamped size, numbered by the memory handed out next
  case vc4.h_1.post.success.h_1 =>
    simp_all +zetaDelta [Devices.Tally, Backend.Built, Backend.surface, Backend.dimension,
      Backend.memoryLen, Backend.memoryId, Backend.mode, Stock.addSection,
      BackendConfig.bytesPerPixel_of_validate]
    grind
  -- a refused configuration, surface or section takes nothing
  case vc5.h_1.post.success.h_2 | vc6.h_1.post.except.handle | vc7.h_2 => simp_all

@[spec] theorem RasterBackend.release_spec (k : Stock) (n : Nat) :
    ⦃fun d => ⌜d.Tally k.addSection n⌝⦄ RasterBackend.release ⦃⇓ _ d => ⌜d.Tally k n⌝⦄ := by
  mvcgen [RasterBackend.release, Act.updateRaster]
  all_goals simp_all +zetaDelta [Devices.Tally, Stock.addSection, RasterDevice.releaseSection]

theorem RasterBackend.capture_spec (b : RasterBackend) (rect : Rect) (mode : CaptureMode) (k : Stock)
    (n : Nat) :
    ⦃fun d => ⌜d.Tally k n⌝⦄ b.capture rect mode
    ⦃post⟨fun b' d => ⌜d.Tally k n ∧ b'.memory.id = b.memory.id ∧ b'.memory.len = b.memory.len ∧
        b'.dimension = b.dimension ∧ b'.surface = b.surface⌝,
      fun _ d => ⌜d.Tally k n⌝⟩⦄ := by
  mvcgen [RasterBackend.capture, Act.debug, Act.emit, Act.fail, Act.halt]
  all_goals simp_all [Devices.Tally]
  case vc2.isFalse.h_1 hblit =>
    -- the copy itself: the device keeps its counts, the section its number and length
    obtain ⟨hid, -, hlen, hlive, hshort⟩ := RasterDevice.blitFromScreen_eq_ok hblit
    simp_all

/-! ## Drawing on the compositor -/

namespace CompositorBackend

variable (b : CompositorBackend) (k : Stock) (n : Nat)

theorem drawFrame_keeps (src dst : Rect) :
    ⦃fun d => ⌜d.Tally k n⌝⦄ b.drawFrame src dst
    ⦃post⟨fun _ d => ⌜d.Tally k n⌝, fun e d => ⌜d.Tally k n ∧ ∃ err, e = .error err⌝⟩⦄ := by
  mvcgen [drawFrame, Act.attempt, Act.onCompositor, Act.updateCompositor, Act.debug, Act.emit, Act.fail]
  -- every path only records calls on the target and the upload, which hold no resource
  all_goals simp_all +zetaDelta [Devices.Tally, CompositorDevice.record]

theorem presentLogged_keeps (src dst : Rect) :
    ⦃fun d => ⌜d.Tally k n⌝⦄ b.presentLogged src dst
    ⦃⇓ b' d => ⌜d.Tally k n ∧ ∃ m, b' = { b with failedPresents := m }⌝⦄ := by
  have hframe := b.drawFrame_keeps k n src dst
  mvcgen [presentLogged, hframe, Act.attempt, Act.warn, Act.emit]
  -- a frame drawn resets the count of failures
  case vc2.post.success => exact ⟨‹_›, 0, rfl⟩
  -- a frame that failed is logged and counted; a frame never stops the program
  case vc3.post.except.handle.h_1 => exact ⟨by simp_all +zetaDelta [Devices.Tally], _, rfl⟩
  case vc4.post.except.handle.h_2 => simp_all

theorem resize_keeps (rect : Rect) :
    ⦃fun d => ⌜d.Tally k n⌝⦄ b.resize rect
    ⦃⇓ b' d => ⌜d.Tally k n ∧ ∃ size, b' = { b with targetSize := size }⌝⦄ := by
  mvcgen [resize, Act.attempt, Act.onCompositor, Act.debug, Act.warn, Act.emit, Act.fail]
  -- the target keeps its size: it has it already, or resizing it was refused
  case vc1.isTrue | vc3.isFalse.h_1.h_2 | vc5.isFalse.h_2.h_2 =>
    exact ⟨by simp_all +zetaDelta [Devices.Tally], b.targetSize, rfl⟩
  -- the target takes the new size, in place or bound to the device context again
  case vc2.isFalse.h_1.h_1 | vc4.isFalse.h_2.h_1 =>
    exact ⟨by simp_all +zetaDelta [Devices.Tally], _, rfl⟩

end CompositorBackend

/-! ## Backends and the platform -/

namespace Backend

/-- Two backends alike in all that a drawing call keeps: mode, size, surface and memory. -/
def Alike (b b' : Backend) : Prop :=
  b'.mode = b.mode ∧ b'.dimension = b.dimension ∧ b'.surface = b.surface ∧
    b'.memoryId = b.memoryId ∧ b'.memoryLen = b.memoryLen

@[simp] theorem Alike.refl (b : Backend) : b.Alike b := ⟨rfl, rfl, rfl, rfl, rfl⟩

theorem Alike.trans {b b' b'' : Backend} (h : b.Alike b') (h' : b'.Alike b'') : b.Alike b'' :=
  ⟨h'.1.trans h.1, h'.2.1.trans h.2.1, h'.2.2.1.trans h.2.2.1, h'.2.2.2.1.trans h.2.2.2.1,
    h'.2.2.2.2.trans h.2.2.2.2⟩

@[spec] theorem release_spec (b : Backend) (k : Stock) (n : Nat) :
    ⦃fun d => ⌜d.Tally (k.hold b) n⌝⦄ b.release ⦃⇓ _ d => ⌜d.Tally k n⌝⦄ := by
  cases b with
  | raster _ => exact RasterBackend.release_spec k n
  | compositor _ => exact CompositorBackend.release_spec k n

@[spec] theorem draw_spec (b : Backend) (call : DrawCall) (k : Stock) (n : Nat) :
    ⦃fun d => ⌜d.Tally (k.hold b) n⌝⦄ b.draw call
    ⦃post⟨fun b' d => ⌜d.Tally (k.hold b) n ∧ b.Alike b'⌝, fun _ d => ⌜d.Tally (k.hold b) n⌝⟩⦄ := by
  cases b with
  | raster r =>
    -- presents reach the surface only, a resize nothing; a capture keeps the section's number
    -- and length
    cases call <;> mvcgen [draw, capture, present, presentStretched, resize,
      RasterBackend.capture_spec, RasterBackend.present, RasterBackend.presentStretched,
      RasterBackend.resize, Act.debug, Act.warn, Act.emit]
    case vc2.raster.capture.post.success =>
      simp_all [Alike, mode, dimension, surface, memoryId, memoryLen]
    case vc2.raster.present.isFalse.h_1 | vc2.raster.presentStretched.isFalse.h_1 =>
      simp_all +zetaDelta [Devices.Tally, Stock.hold, Stock.addSection]
  | compositor c =>
    -- a capture is refused; a present keeps all but the count of failures, a resize all but
    -- the target's size
    have hpresent := c.presentLogged_keeps (k.hold (.compositor c)) n
    have hresize := c.resize_keeps (k.hold (.compositor c)) n
    cases call <;> mvcgen [draw, capture, present, presentStretched, resize,
      CompositorBackend.present, CompositorBackend.presentStretched, hpresent, hresize, Act.fail]
    case vc2.compositor.present.post.success | vc2.compositor.presentStretched.post.success =>
      rintro htally ⟨m, rfl⟩
      exact ⟨htally, rfl, rfl, rfl, rfl, rfl⟩
    case vc2.compositor.resize.post.success =>
      rintro htally ⟨size, rfl⟩
      exact ⟨htally, rfl, rfl, rfl, rfl, rfl⟩

end Backend

namespace Platform

variable (p : Platform) (k : Stock) (n : Nat)

@[spec] theorem acceleratedAvailable_spec :
    ⦃fun d => ⌜d.Tally k n⌝⦄ p.acceleratedAvailable ⦃⇓ _ d => ⌜d.Tally k n⌝⦄ := by
  cases p <;> mvcgen [acceleratedAvailable]

@[spec] theorem resolve_spec (req : Option SurfaceHandle) :
    ⦃fun d => ⌜d.Tally k n⌝⦄ p.resolve req
    ⦃post⟨fun s d => ⌜d.Tally k n ∧ Resolves req k.windows s⌝,
      fun e d => ⌜d.Tally k n ∧ ∃ err, e = .error err ∧ err.classify ≠ .unsupported⌝⟩⦄ := by
  cases p <;> mvcgen [resolve, Act.fail]
  all_goals simp_all [unsupportedPlatform, Error.classify]

@[spec] theorem checkCreatable_spec (m : RenderMode) (config : BackendConfig) :
    ⦃fun d => ⌜d.Tally k n⌝⦄ p.checkCreatable m config
    ⦃post⟨fun _ d => ⌜d.Tally k n⌝, fun e d => ⌜d.Tally k n ∧ ∃ err, e = .error err⌝⟩⦄ := by
  cases p <;> cases m <;> mvcgen [checkCreatable, Act.ofExcept, Act.fail]
  all_goals simp_all

@[spec] theorem createBackend_spec (m : RenderMode) (config : BackendConfig) :
    ⦃fun d => ⌜d.Tally k n⌝⦄ p.createBackend m config
    ⦃post⟨fun b d => ⌜d.Tally (k.hold b) n ∧ b.mode = m ∧ b.Built config k n⌝,
      fun e d => ⌜d.Tally k n ∧ ∃ err, e = .error err⌝⟩⦄ := by
  cases p <;> cases m <;> mvcgen [createBackend, Act.fail]
  all_goals simp_all [Stock.hold, Backend.mode]

end Platform

end Presenter
