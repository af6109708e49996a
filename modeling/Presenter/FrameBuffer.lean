import Presenter.Coordinator
import Presenter.PixelBuffer.Fill
import Presenter.PixelBuffer.Copy
/-!
# Managed frame buffer — a pixel buffer whose memory is the live backend's

The frame buffer pairs a coordinator with a pixel buffer bound to the memory of its live
backend. Initialising and switching bind it again to whatever backend is live; binding refuses a
backend that reports too little memory, and the binding then stays. A binding whose memory is no
longer the live backend's still reads and writes that memory, which holds what the buffer saw
there when its backend was released. Every other way of replacing format, size or memory is
refused.
-/

namespace Presenter

open Act

def testPatternBars : List (Nat × Nat × Nat) :=
  [(0xff, 0xff, 0xff), (0xff, 0xff, 0x00), (0x00, 0xff, 0xff), (0x00, 0xff, 0x00),
    (0xff, 0x00, 0xff), (0xff, 0x00, 0x00), (0x00, 0x00, 0xff), (0x00, 0x00, 0x00)]

/-- A frame buffer over a coordinator. -/
structure FrameBuffer where
  coordinator : Coordinator
  /-- The mode asked for on every initialise, unless the settings name another. -/
  preferred : RenderMode := .raster
  format : PixelFormat := .bgra32
  dimension : Dimension := ⟨1, 1⟩
  /-- The backend memory the buffer is bound to, if any. -/
  binding : Option Nat := none
  /-- What the buffer last saw of the memory it is bound to. Once that memory's backend is
  released, a binding that stays reads and writes these bytes. -/
  released : ByteArray := .empty

namespace FrameBuffer

def new (p : Platform) (preferred : RenderMode) : FrameBuffer :=
  { coordinator := .new p, preferred := preferred }

def mode (fb : FrameBuffer) : RenderMode := fb.coordinator.mode

def isInitialized (fb : FrameBuffer) : Bool := fb.coordinator.isInitialized

def bufferSize (fb : FrameBuffer) : Nat :=
  fb.dimension.width * fb.format.bytesPerPixel * fb.dimension.height

def boundBackend (fb : FrameBuffer) : Option Backend :=
  match fb.binding, fb.coordinator.backend with
  | some id, some b => if b.memoryId = id then some b else none
  | _, _ => none

/-- The buffer as a pixel buffer. Bound to the live backend's memory, it sees the first
`bufferSize` bytes of it; bound to memory whose backend was released, it sees what that memory
held when it was released, as changed through the buffer since. -/
def pixels (fb : FrameBuffer) : PixelBuffer :=
  match fb.binding with
  | none => ⟨fb.format, fb.dimension, .unbound⟩
  | some id =>
    match fb.boundBackend with
    | some b => ⟨fb.format, fb.dimension, .bound id (b.bits.extract 0 fb.bufferSize)⟩
    | none => ⟨fb.format, fb.dimension, .bound id fb.released⟩

/-- Writes a pixel buffer's bound bytes back where the buffer is bound: into the live backend's
memory, or into the released memory of a stale binding. -/
def store (fb : FrameBuffer) (pb : PixelBuffer) : FrameBuffer :=
  match pb.storage with
  | .bound _ bits =>
    match fb.boundBackend with
    | some b => { fb with coordinator := { fb.coordinator with backend := some (b.replaceBits bits) } }
    | none => { fb with released := bits }
  | _ => fb

/-- Takes the coordinator a call left. When the call released the backend whose memory the buffer
is bound to, that memory keeps what the buffer saw there. -/
def follow (fb : FrameBuffer) (c : Coordinator) : FrameBuffer :=
  let released := match fb.boundBackend with
    | some b =>
      if c.backend.map Backend.memoryId = some b.memoryId then fb.released
      else b.bits.extract 0 fb.bufferSize
    | none => fb.released
  { fb with coordinator := c, released }

/-- Binds the buffer to the live backend's memory, or unbinds it without a backend. A backend
reporting less memory than the buffer needs is refused, and the binding stays as it was. -/
def rebind (fb : FrameBuffer) : FrameBuffer × Except Error Unit :=
  match fb.coordinator.backend with
  | some b =>
    if b.memoryLen < fb.bufferSize then (fb, .error .bufferOverflow)
    else ({ fb with binding := some b.memoryId }, .ok ())
  | none => ({ fb with binding := none }, .ok ())

/-- Builds the backend for a format, size and surface in the effective mode, takes the format
and size when that worked, and binds again. A failed binding is the outcome. -/
def setup (fb : FrameBuffer) (format : PixelFormat) (dim : Dimension)
    (surface : Option SurfaceHandle) : Act (FrameBuffer × Except Error Unit) := do
  let mode := (← get).env.modeOverride.getD fb.preferred
  let (c, result) ← fb.coordinator.setup format dim surface mode
  let fb := fb.follow c
  let fb := match result with
    | .ok () => { fb with format := format, dimension := dim.clamped, binding := none }
    | .error _ => fb
  let (fb, bound) := fb.rebind
  match bound with
  | .error e => return (fb, .error e)
  | .ok () => return (fb, result)

/-- Switches the coordinator's mode and binds again. -/
def switchMode (fb : FrameBuffer) (mode : RenderMode) : Act (FrameBuffer × Except Error Unit) := do
  let (c, result) ← fb.coordinator.switchMode mode
  let (fb, bound) := (fb.follow c).rebind
  match bound with
  | .error e => return (fb, .error e)
  | .ok () => return (fb, result)

def bytes (fb : FrameBuffer) : Except Error ByteArray :=
  fb.pixels.bytes

def edit (fb : FrameBuffer) (f : PixelBuffer → Except Stop PixelBuffer) :
    Except Stop FrameBuffer := do
  if !fb.isInitialized then throw (.error .notInitialized)
  let pb ← f fb.pixels
  return fb.store pb

def cmpFrom (fb : FrameBuffer) (rect : Rect) (src : PixelBuffer) (sx sy : Int) :
    Except Stop Bool := do
  if !fb.isInitialized then throw (.error .notInitialized)
  fb.pixels.cmpFrom rect src sx sy

def onCoordinator (fb : FrameBuffer)
    (f : Coordinator → Act (Coordinator × Except Error Unit)) :
    Act (FrameBuffer × Except Error Unit) := do
  let (c, r) ← f fb.coordinator
  return ({ fb with coordinator := c }, r)

def setTargetSurface (fb : FrameBuffer) (surface : SurfaceHandle) : Act (Except Error Unit) := do
  if !fb.isInitialized then return .error .notInitialized
  debug .frameBuffer "target surface change ignored" [⟨"surface", .text surface.stableId⟩]
  return .ok ()

/-- The operations that would replace the format, the size or the memory. -/
inductive Replacement where
  | assignProperties
  | cloneFromBuffer
  | setPixelFormat
  | setDimension
  | setDimensionFromRect
  | setEmptyDimension
  | setEmptyPixelFormat
  | setProperties
  | setPropertiesWithoutResize
  | setBuffer
  deriving DecidableEq, Repr

/-- The operation's name. -/
def Replacement.name : Replacement → String
  | .assignProperties => "assign_properties"
  | .cloneFromBuffer => "clone_from_buffer"
  | .setPixelFormat => "set_pixel_format"
  | .setDimension => "set_dimension"
  | .setDimensionFromRect => "set_dimension_from_rect"
  | .setEmptyDimension => "set_empty_dimension"
  | .setEmptyPixelFormat => "set_empty_pixel_format"
  | .setProperties => "set_properties"
  | .setPropertiesWithoutResize => "set_properties_without_resize"
  | .setBuffer => "set_buffer"

def Replacement.all : List Replacement :=
  [.assignProperties, .cloneFromBuffer, .setPixelFormat, .setDimension, .setDimensionFromRect,
    .setEmptyDimension, .setEmptyPixelFormat, .setProperties, .setPropertiesWithoutResize,
    .setBuffer]

def Replacement.ofName? (s : String) : Option Replacement :=
  Replacement.all.find? (·.name == s)

def refuse (op : Replacement) : Act Error := do
  debug .frameBuffer "refused buffer-replacing operation on a managed frame buffer"
    [⟨"operation", .str op.name⟩]
  return .unsupportedOperation op.name

def barRects (full : Rect) : List Rect :=
  let w := max (full.width / 8) 1
  (List.range 8).map fun (i : Nat) =>
    let left := (i : Int) * w
    ⟨left, 0, if i = 7 then full.right else left + w, full.bottom⟩

/-- Paints the bars and presents the whole frame. -/
def paintTestPattern (fb : FrameBuffer) : Act (FrameBuffer × Except Error Unit) := do
  if !fb.isInitialized then return (fb, .error .notInitialized)
  let full := fb.dimension.toRect
  let pb ← ofStop ((barRects full).zip testPatternBars |>.foldlM
    (fun pb (r, (red, green, blue)) => pb.fillRect r (pb.format.packRgb red green blue)) fb.pixels)
  let fb := fb.store pb
  fb.onCoordinator fun c => c.present full

/-- Paints the test pattern; a failure is logged with the mode. -/
def drawTestPattern (fb : FrameBuffer) : Act FrameBuffer := do
  let (fb, r) ← match ← attempt fb.paintTestPattern with
    | .ok p => pure p
    | .error e => pure (fb, .error e)
  if let .error e := r then
    warn .frameBuffer "test pattern failed" [⟨"error", .text e.message⟩, ⟨"mode", .str fb.mode.name⟩]
  return fb

end FrameBuffer

end Presenter
