import Presenter.Backend.Raster
import Presenter.Backend.Compositor
/-!
# Backend — either way of rendering, behind one interface

A `Backend` is a raster or a compositor backend. Both have a mode, a frame size and pixel
memory: the raster section or the compositor staging buffer, each a numbered allocation. The
memory is seen as the backend reports it (`Backend.memory`, its first `memoryLen` bytes), and
the frame buffer writes its pixels back into it (`Backend.overwrite`).

`Platform` is where backends come from: the devices of `Devices`, or a platform without any
rendering, on which every backend call fails.
-/

namespace Presenter

open Act

/-- A drawing call on a live backend: copy the screen in, show a part of the frame, show a
part scaled onto a part of the surface, or follow a change of the surface's size. -/
inductive DrawCall where
  | capture (rect : Rect) (mode : CaptureMode)
  | present (rect : Rect)
  | presentStretched (src dst : Rect)
  | resize (rect : Rect)

/-- A live backend. -/
inductive Backend where
  | raster (b : RasterBackend)
  | compositor (b : CompositorBackend)

namespace Backend

def mode : Backend → RenderMode
  | .raster _ => .raster
  | .compositor _ => .compositor

def dimension : Backend → Dimension
  | .raster b => b.dimension
  | .compositor b => b.dimension

def surface : Backend → SurfaceHandle
  | .raster b => b.surface
  | .compositor b => b.surface

def memoryId : Backend → Nat
  | .raster b => b.memory.id
  | .compositor b => b.stagingId

def memoryLen : Backend → Nat
  | .raster b => b.memory.len
  | .compositor b => b.staging.size

def bits : Backend → ByteArray
  | .raster b => b.memory.bits
  | .compositor b => b.staging

def memory (b : Backend) : ByteArray := b.bits.extract 0 b.memoryLen

def overwrite (b : Backend) (offset : Nat) (data : ByteArray) : Backend :=
  match b with
  | .raster r => .raster { r with memory := { r.memory with
      bits := data.copySlice 0 r.memory.bits offset data.size } }
  | .compositor c => .compositor { c with staging := data.copySlice 0 c.staging offset data.size }

/-- The memory replaced by bytes of the same length. -/
def replaceBits (b : Backend) (bits : ByteArray) : Backend :=
  if bits.size = b.bits.size then
    match b with
    | .raster r => .raster { r with memory := { r.memory with bits := bits } }
    | .compositor c => .compositor { c with staging := bits }
  else b.overwrite 0 bits

def capture (b : Backend) (rect : Rect) (mode : CaptureMode) : Act Backend :=
  match b with
  | .raster r => .raster <$> r.capture rect mode
  | .compositor _ =>
    fail (.unsupportedOperation "the compositor backend does not capture the screen")

def present (b : Backend) (rect : Rect) : Act Backend :=
  match b with
  | .raster r => do r.present rect; pure b
  | .compositor c => .compositor <$> c.present rect

def presentStretched (b : Backend) (src dst : Rect) : Act Backend :=
  match b with
  | .raster r => do r.presentStretched src dst; pure b
  | .compositor c => .compositor <$> c.presentStretched src dst

def resize (b : Backend) (rect : Rect) : Act Backend :=
  match b with
  | .raster _ => do RasterBackend.resize rect; pure b
  | .compositor c => .compositor <$> c.resize rect

def draw (b : Backend) : DrawCall → Act Backend
  | .capture rect mode => b.capture rect mode
  | .present rect => b.present rect
  | .presentStretched src dst => b.presentStretched src dst
  | .resize rect => b.resize rect

def release : Backend → Act Unit
  | .raster _ => RasterBackend.release
  | .compositor _ => CompositorBackend.release

end Backend

/-- Where backends come from. -/
inductive Platform where
  /-- The devices of `Devices`. -/
  | devices
  /-- A system without rendering. -/
  | unsupported
  deriving DecidableEq, Repr

def unsupportedPlatform : Error := .platform "rendering is only supported on Windows"

namespace Platform

def acceleratedAvailable : Platform → Act Bool
  | .devices => do if (← get).env.acceleratedAllowed then compositorUsable else pure false
  | .unsupported => pure false

def resolve : Platform → Option SurfaceHandle → Act SurfaceHandle
  | .devices, s => resolveSurface s
  | .unsupported, _ => fail unsupportedPlatform

/-- Whether a backend of the mode could be built, keeping nothing. -/
def checkCreatable : Platform → RenderMode → BackendConfig → Act Unit
  | .devices, .raster, c => ofExcept c.validate
  | .devices, .compositor, c => do
    if !(← get).env.acceleratedAllowed then
      fail (.backendUnavailable "disabled by SNOW_RENDER_DISABLE_ACCELERATED")
    CompositorBackend.checkCreatable c
  | .unsupported, _, _ => fail unsupportedPlatform

def createBackend : Platform → RenderMode → BackendConfig → Act Backend
  | .devices, .raster, c => .raster <$> RasterBackend.new c
  | .devices, .compositor, c => .compositor <$> CompositorBackend.new c
  | .unsupported, _, _ => fail unsupportedPlatform

end Platform

end Presenter
