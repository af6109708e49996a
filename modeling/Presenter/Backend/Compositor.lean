import Presenter.Devices
/-!
# Compositor backend — a CPU staging buffer drawn through the accelerated interface

Frames are written into a zeroed CPU staging buffer of four bytes per pixel. Every present
uploads the whole staging buffer into a bitmap and draws it on a render target bound to the
window. The target is bound to the window itself when that works, and to the window's device
context otherwise; its size is the window's client area, or one pixel when that cannot be read.

Building takes a factory, then a target, then a bitmap, and a failure gives back what was
taken, in reverse order; releasing a backend gives back bitmap, target and factory.
Presents never fail: a failed upload or end of draw is logged and counted, and the next present
tries again. There is no capture. Resizing adjusts only the target.
-/

namespace Presenter

open Act

/-- How the render target reaches the window. -/
inductive Binding where
  | window
  | deviceContext
  deriving DecidableEq, Repr

def Binding.describe : Binding → String
  | .window => "Window"
  | .deviceContext => "DeviceContext"

def stagingPixelBytes : Nat := 4

/-- The compositor backend: staging buffer, target binding and size, and the count of
presents that failed in a row. -/
structure CompositorBackend where
  staging : ByteArray
  /-- Which allocation of backend memory the staging buffer is. -/
  stagingId : Nat
  binding : Binding
  surface : SurfaceHandle
  dimension : Dimension
  pitch : Nat
  targetSize : Dimension
  failedPresents : Nat

namespace CompositorBackend

def releaseTargetAndFactory : Act Unit :=
  updateCompositor fun c => c.releaseTarget.releaseFactory

/-- A render target for the window: bound to the window if possible, else to its device
context. Answers the target's size and binding. -/
def createTarget : Act (Dimension × Binding) := do
  let size ← match (← get).surfaces.clientArea with
    | .ok client => pure client.dimension
    | .error e => do
      warn .compositor "failed to query client area, using a 1x1 target" [⟨"error", .text e.message⟩]
      pure ⟨1, 1⟩
  match ← attempt (onCompositor CompositorDevice.createWindowTarget) with
  | .ok () => return (size, .window)
  | .error we =>
    warn .compositor "window-bound render target failed, trying device-context-bound target"
      [⟨"error", .text we.message⟩]
    let bounds := size.toRect
    match ← attempt (onCompositor fun c => c.createDcTarget bounds) with
    | .ok () => return (bounds.dimension, .deviceContext)
    | .error de =>
      fail (.renderingSubsystem ("window-bound target: " ++ we.message ++
        "; device-context-bound target: " ++ de.message))

/-- The bitmap of the frame's size; a failure gives back target and factory. -/
def createBitmap (dim : Dimension) : Act Unit := do
  match ← attempt (onCompositor fun c => c.createBitmap dim) with
  | .ok () => pure ()
  | .error e =>
    releaseTargetAndFactory
    fail (.renderingSubsystem ("failed to create native bitmap: " ++ e.message))

/-- Factory, target and bitmap for a valid configuration; whatever a failure leaves taken is
given back. -/
def acquire (config : BackendConfig) : Act (SurfaceHandle × Dimension × Binding) := do
  ofExcept config.validate
  let surface ← resolveSurface config.surface
  onCompositor CompositorDevice.createFactory
  let (size, binding) ← match ← attempt createTarget with
    | .ok t => pure t
    | .error e => do updateCompositor CompositorDevice.releaseFactory; fail e
  createBitmap config.dimension.clamped
  return (surface, size, binding)

def release : Act Unit :=
  updateCompositor fun c => c.releaseBitmap.releaseTarget.releaseFactory

/-- A compositor backend for a valid configuration. -/
def new (config : BackendConfig) : Act CompositorBackend := do
  let (surface, size, binding) ← acquire config
  let dim := config.dimension.clamped
  let len ← match dim.byteLen stagingPixelBytes with
    | .ok n => pure n
    | .error e => do release; fail e
  let pitch := dim.width * stagingPixelBytes
  if Nat.pow 2 32 ≤ pitch then
    release
    fail .bufferOverflow
  let id ← allocate
  debug .compositor "compositor backend created"
    [⟨"width", .num dim.width⟩, ⟨"height", .num dim.height⟩,
      ⟨"binding", .text binding.describe⟩, ⟨"surface", .text surface.stableId⟩]
  return ⟨zeroBytes len, id, binding, surface, dim, pitch, size, 0⟩

def checkCreatable (config : BackendConfig) : Act Unit := do
  let _ ← acquire config
  release

/-- One frame: upload the staging buffer, clear, draw `src` of the bitmap onto `dst` when both are
non-empty, end the draw. A failed upload still ends the draw. -/
def drawFrame (b : CompositorBackend) (src dst : Rect) : Act Unit := do
  updateCompositor (·.record .beginDraw)
  match ← attempt (onCompositor fun c => c.upload b.staging.size b.pitch) with
  | .error e =>
    let (r, c) := (← get).compositor.endDraw
    updateCompositor fun _ => c
    if let .error endErr := r then
      debug .compositor "end of draw after failed upload also failed" [⟨"error", .text endErr.message⟩]
    fail (Error.transient "bitmap upload failed" e)
  | .ok () =>
    updateCompositor (·.record .clear)
    if !src.isEmpty && !dst.isEmpty then
      updateCompositor (·.record (.drawBitmap dst src))
    let (r, c) := (← get).compositor.endDraw
    updateCompositor fun _ => c
    if let .error e := r then fail (Error.transient "end of draw failed" e)

/-- Draws a frame; a failure is logged and counted, success resets the count. -/
def presentLogged (b : CompositorBackend) (src dst : Rect) : Act CompositorBackend := do
  match ← attempt (b.drawFrame src dst) with
  | .ok () => return { b with failedPresents := 0 }
  | .error e =>
    let n := min (b.failedPresents + 1) (Nat.pow 2 32 - 1)
    warn .compositor "compositor present failed, frame skipped"
      [⟨"error", .text e.message⟩, ⟨"consecutive_failures", .num n⟩,
        ⟨"src", .text src.describe⟩, ⟨"dst", .text dst.describe⟩]
    return { b with failedPresents := n }

def present (b : CompositorBackend) (rect : Rect) : Act CompositorBackend :=
  let r := (rect.clampTo b.dimension).clampTo b.targetSize
  b.presentLogged r r

def presentStretched (b : CompositorBackend) (src dst : Rect) : Act CompositorBackend :=
  b.presentLogged (src.clampTo b.dimension) (dst.clampTo b.targetSize)

/-- Fits the target to the size `rect` describes: in place for a window-bound target, by
binding the device context again otherwise. A failure is logged and the target keeps its size. -/
def resize (b : CompositorBackend) (rect : Rect) : Act CompositorBackend := do
  let size := rect.dimension
  if size = b.targetSize then
    debug .compositor "render target already sized"
      [⟨"width", .num size.width⟩, ⟨"height", .num size.height⟩]
    return b
  let r ← match b.binding with
    | .window => attempt (onCompositor fun c => c.resizeTarget size)
    | .deviceContext => attempt (onCompositor fun c => c.bindDc size.toRect)
  let fields := [⟨"width", .num size.width⟩, ⟨"height", .num size.height⟩,
    ⟨"binding", .text b.binding.describe⟩]
  match r with
  | .ok () =>
    debug .compositor "render target resized" fields
    let newSize := match b.binding with
      | .window => size
      | .deviceContext => size.toRect.dimension
    return { b with targetSize := newSize }
  | .error e =>
    warn .compositor "render target resize failed" (⟨"error", .text e.message⟩ :: fields)
    return b

end CompositorBackend

/-- Whether a factory can be made: one is made and given back at once. -/
def compositorUsable : Act Bool := do
  match ← attempt (onCompositor CompositorDevice.createFactory) with
  | .ok () =>
    updateCompositor CompositorDevice.releaseFactory
    return true
  | .error e =>
    debug .compositor "accelerated rendering is unavailable" [⟨"error", .text e.message⟩]
    return false

end Presenter
