import Presenter.FrameBuffer
import Presenter.Session.Buffers
import Presenter.Session.Settings
/-!
# Frame sessions — a managed frame buffer and named side buffers

A frame session drives one frame buffer, named `@fb`, next to named side buffers. Pixel steps
on `@fb` go through the frame buffer: those that change pixels need a live backend, and the
frame buffer's memory cannot be made anew. A step on `@fb` answers its bytes only while it has
memory, where a side buffer without memory answers that it has none. A transfer into `@fb`
reads from a side buffer; a transfer into a side buffer may read `@fb` itself. The other steps
initialise, switch, capture, present, resize, announce a surface, paint the test pattern, try
a refused operation, or change the devices.

When the session ends the frame buffer is released, and with it the live backend.
-/

namespace Presenter

/-- One step of a frame session. -/
inductive FrameStep where
  | init (req : ConfigRequest)
  | switch (mode : RenderMode)
  | draw (call : DrawCall)
  | setTargetSurface (s : SurfaceHandle)
  | testPattern
  | refuse (op : FrameBuffer.Replacement)
  | configure (settings : List (Except Misuse DeviceSetting))
  | pixels (st : PixelStep)

/-- A frame buffer, side buffers and the devices. -/
structure FrameSession where
  fb : FrameBuffer
  side : Buffers := {}
  devices : Devices

namespace FrameSession

def start (p : Platform) (preferred : RenderMode) (env : Environment) : FrameSession :=
  { fb := .new p preferred, devices := { env := env } }

/-- A frame buffer call returning the frame buffer and an outcome. -/
def onFrame (s : FrameSession) (x : Act (FrameBuffer × Except Error Unit)) :
    BufferAnswer × FrameSession :=
  match runAct x s.devices with
  | (.ok (fb, r), d) => (⟨.ofUnit r, none⟩, { s with fb := fb, devices := d })
  | (.error (.error e), d) => (⟨.error e, none⟩, { s with devices := d })
  | (.error (.halt h), d) => (⟨.halt h, none⟩, { s with devices := d })

/-- A pixel step on the frame buffer; the other buffer it names is a side buffer. -/
def frameStep (s : FrameSession) (st : PixelStep) : BufferAnswer × FrameSession :=
  if st.made.isSome then (⟨.misuse .frameReplaced, none⟩, s)
  else
    let find (n : String) : Except Misuse PixelBuffer :=
      match s.side.find? n with
      | some b => .ok b
      | none => .error (.noBuffer n)
    match st.sourceBy find, st.op with
    | .error m, _ => (⟨.misuse m, none⟩, s)
    | .ok _, .error m => (⟨.misuse m, none⟩, s)
    | .ok src, .ok op =>
      if op.needsBackend && !s.fb.isInitialized then (⟨.error .notInitialized, none⟩, s)
      else
        let pb := s.fb.pixels
        let (o, pb') := runPixelOp pb op (src.getD pb)
        let fb := s.fb.store pb'
        let bytes := match fb.bytes with
          | .ok b => if o.isOk then some (.ok b) else none
          | .error _ => none
        (⟨o, bytes⟩, { s with fb := fb })

def shownBytes (b : PixelBuffer) : Option (Except Error ByteArray) :=
  b.bytes.toOption.map .ok

/-- A pixel step on a side buffer; the other buffer it names may be the frame buffer. -/
def sideStep (s : FrameSession) (st : PixelStep) : BufferAnswer × FrameSession :=
  match st.made with
  | some (.error m) => (⟨.misuse m, none⟩, s)
  | some (.ok (.error e)) => (⟨.error e, none⟩, s)
  | some (.ok (.ok b)) => (⟨.ok .unit, shownBytes b⟩, { s with side := s.side.put st.target b })
  | none =>
    match s.side.find? st.target with
    | none => (⟨.misuse (.noBuffer st.target), none⟩, s)
    | some b =>
      let find (n : String) : Except Misuse PixelBuffer :=
        if n == frameName then .ok s.fb.pixels
        else match s.side.find? n with
          | some sb => .ok sb
          | none => .error (.noBuffer n)
      match st.sourceBy find, st.op with
      | .error m, _ => (⟨.misuse m, none⟩, s)
      | .ok _, .error m => (⟨.misuse m, none⟩, s)
      | .ok src, .ok op =>
        let (o, b') := runPixelOp b op (src.getD b)
        (⟨o, if o.isOk then shownBytes b' else none⟩, { s with side := s.side.put st.target b' })

/-- One step of the session. -/
def step (s : FrameSession) : FrameStep → BufferAnswer × FrameSession
  | .init req =>
    match req.parts with
    | .error m => (⟨.misuse m, none⟩, s)
    | .ok (format, dim, surface) => s.onFrame (s.fb.setup format dim surface)
  | .switch mode => s.onFrame (s.fb.switchMode mode)
  | .draw call => s.onFrame (s.fb.onCoordinator fun c => c.draw call)
  | .setTargetSurface surface =>
    s.onFrame (do let r ← s.fb.setTargetSurface surface; pure (s.fb, r))
  | .testPattern => s.onFrame (do let fb ← s.fb.drawTestPattern; pure (fb, .ok ()))
  | .refuse op => s.onFrame (do let e ← FrameBuffer.refuse op; pure (s.fb, .error e))
  | .configure settings =>
    if s.fb.coordinator.platform = .devices then
      let (o, d) := s.devices.configureAll settings
      (⟨o, none⟩, { s with devices := d })
    else (⟨.misuse .noDevices, none⟩, s)
  | .pixels st => if st.target == frameName then s.frameStep st else s.sideStep st

def request (s : FrameSession) : Except Misuse FrameStep → BufferAnswer × FrameSession
  | .error m => (⟨.misuse m, none⟩, s)
  | .ok step => s.step step

def run (s : FrameSession) (steps : List (Except Misuse FrameStep)) :
    List (BufferAnswer × FrameSession) :=
  Session.run request (·.outcome.isHalt) s steps

def finish (s : FrameSession) : Devices :=
  if s.devices.stuck.isSome then s.devices else (runAct s.fb.coordinator.destroyBackend s.devices).2

end FrameSession

end Presenter
