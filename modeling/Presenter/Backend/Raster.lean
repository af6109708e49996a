import Presenter.Devices
/-!
# Raster backend — a CPU pixel section is the frame's memory

The backend holds one section of the frame's size, made for the resolved surface, and the
virtual-desktop origin seen when it was made. Capturing copies the screen into the part of a
rectangle that lies in the section, reading the screen shifted by that origin; presenting copies
that part of the section to the surface. A failed present only logs: the frame is skipped and the
backend stays usable. A failed capture is a transient error. Resizing does nothing, since
stretched presents cover a surface of another size.
-/

namespace Presenter

open Act

/-- The raster backend: its section, the frame size, the desktop origin and the surface. -/
structure RasterBackend where
  memory : Section
  dimension : Dimension
  origin : Int × Int
  surface : SurfaceHandle

namespace RasterBackend

/-- A raster backend for a valid configuration, on the resolved surface. -/
def new (config : BackendConfig) : Act RasterBackend := do
  ofExcept config.validate
  let surface ← resolveSurface config.surface
  let dim := config.dimension.clamped
  let id := (← get).allocations
  let memory ← onRaster fun r => r.createSection id config.format dim
  let _ ← allocate
  let origin := (← get).surfaces.desktopOrigin
  debug .raster "raster backend created"
    [⟨"width", .num dim.width⟩, ⟨"height", .num dim.height⟩,
      ⟨"surface", .text surface.stableId⟩, ⟨"origin_x", .num origin.1⟩,
      ⟨"origin_y", .num origin.2⟩]
  return ⟨memory, dim, origin, surface⟩

/-- Copies the screen into the part of `rect` inside the section, shifted by the origin. The
raster device stops the program in the middle of the copy when a screen coordinate overflows,
which leaves the devices stuck. -/
def capture (b : RasterBackend) (rect : Rect) (mode : CaptureMode) : Act RasterBackend := do
  let dst := rect.clampTo b.dimension
  if dst.isEmpty then
    debug .raster "capture rect is outside the pixel section" [⟨"rect", .text rect.describe⟩]
    return b
  let d ← get
  match d.raster.blitFromScreen b.memory dst (Coord.add dst.left b.origin.1)
      (Coord.add dst.top b.origin.2) mode with
  | .ok (memory, r) => set { d with raster := r }; return { b with memory := memory }
  | .error (.error e) => fail (Error.transient "screen capture failed" e)
  | .error (.halt h) => set { d with poisoned := true }; halt h

/-- Copies the part of `rect` inside the section to the surface; a failure skips the frame. -/
def present (b : RasterBackend) (rect : Rect) : Act Unit := do
  let rect := rect.clampTo b.dimension
  if rect.isEmpty then return
  let d ← get
  match d.raster.blitToSurface b.memory rect with
  | .ok r => set { d with raster := r }
  | .error e =>
    warn .raster "raster present failed, frame skipped"
      [⟨"error", .text e.message⟩, ⟨"rect", .text rect.describe⟩]

/-- Scales the part of `src` inside the section onto `dst` of the surface; a failure skips the
frame. -/
def presentStretched (b : RasterBackend) (src dst : Rect) : Act Unit := do
  let src := src.clampTo b.dimension
  if src.isEmpty || dst.isEmpty then return
  let d ← get
  match d.raster.stretchToSurface src dst with
  | .ok r => set { d with raster := r }
  | .error e =>
    warn .raster "raster stretched present failed, frame skipped"
      [⟨"error", .text e.message⟩, ⟨"src", .text src.describe⟩, ⟨"dst", .text dst.describe⟩]

def resize (rect : Rect) : Act Unit :=
  debug .raster "raster backend ignores resize" [⟨"rect", .text rect.describe⟩]

def release : Act Unit := updateRaster RasterDevice.releaseSection

end RasterBackend

end Presenter
