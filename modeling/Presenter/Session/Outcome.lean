import Presenter.PixelBuffer.Basic
import Presenter.Surface
import Presenter.Backend.Config
/-!
# Session outcomes — what one step of a session answers

A session runs steps against the library's objects. A step answers a `Reply`, a library
`Error`, a `Misuse` of the session that is refused before the library is called, or a `Halt`
that ends the session.

Sessions refuse to allocate a pixel store of more than `allocationLimit` bytes; the size is
checked only when it fits a machine word, since larger ones are refused by the library itself.
A configuration a step names (`ConfigRequest`) meets that limit before its surface is looked
at, so a store too large is refused even when the surface could not be read.
-/

namespace Presenter

def allocationLimit : Nat := 16 * 1024 * 1024

/-- A step a session refuses before the library is called. -/
inductive Misuse where
  /-- No buffer of this name exists. -/
  | noBuffer (name : String)
  /-- A transfer names the same buffer as target and source. -/
  | sameSource
  /-- The frame buffer's memory cannot be replaced by a step. -/
  | frameReplaced
  /-- The frame buffer is named outside a frame session. -/
  | frameOutside
  /-- A write reaches past the end of the memory. -/
  | outOfBuffer
  /-- A write into backend memory while no backend is live. -/
  | noBackendMemory
  /-- A backend call while no backend is held. -/
  | noBackend
  /-- Device settings on a platform without devices. -/
  | noDevices
  /-- A pixel store of more bytes than a session may allocate. -/
  | tooLarge (bytes : Nat)
  /-- The step could not be read; the reason says what was wrong with it. -/
  | malformed (reason : String)
  deriving DecidableEq, Repr

/-- The text of a refused step. -/
def Misuse.message : Misuse → String
  | .noBuffer name => "no buffer " ++ name
  | .sameSource => "src must differ from the target buffer"
  | .frameReplaced => "@fb cannot be replaced"
  | .frameOutside => "@fb exists only in frame sessions"
  | .outOfBuffer => "write: out of the buffer"
  | .noBackendMemory => "write: no backend buffer"
  | .noBackend => "no backend"
  | .noDevices => "no stubs on the default platform"
  | .tooLarge n => toString n ++ " bytes exceeds the driver's allocation limit"
  | .malformed reason => reason

def checkAllocation (f : PixelFormat) (d : Dimension) : Except Misuse Unit :=
  match d.clamped.byteLen f.bytesPerPixel with
  | .ok n => if allocationLimit < n then .error (.tooLarge n) else .ok ()
  | .error _ => .ok ()

/-- A configuration as a step names it: a format and a dimension, and the surface as read, which
is looked at only once the pixel store has passed the allocation limit. -/
structure ConfigRequest where
  format : PixelFormat
  dim : Dimension
  surface : Except Misuse (Option SurfaceHandle) := .ok none

namespace ConfigRequest

def parts (r : ConfigRequest) : Except Misuse (PixelFormat × Dimension × Option SurfaceHandle) := do
  checkAllocation r.format r.dim
  return (r.format, r.dim, ← r.surface)

def config (r : ConfigRequest) : Except Misuse BackendConfig := do
  let (f, d, s) ← r.parts
  return BackendConfig.new f d s

/-- **A configuration that passes met the allocation limit and had a readable surface**, and
its parts are the ones it names. -/
theorem parts_ok {r : ConfigRequest} {p : PixelFormat × Dimension × Option SurfaceHandle}
    (h : r.parts = .ok p) :
    checkAllocation r.format r.dim = .ok () ∧ r.surface = .ok p.2.2 ∧ p.1 = r.format ∧
      p.2.1 = r.dim := by
  unfold parts at h
  cases hc : checkAllocation r.format r.dim with
  | error m => simp [hc, bind, Except.bind] at h
  | ok u =>
    cases hs : r.surface with
    | error m => simp [hc, hs, bind, Except.bind] at h
    | ok s =>
      simp only [hc, hs, bind, Except.bind, pure, Except.pure, Except.ok.injEq] at h
      subst h
      exact ⟨rfl, rfl, rfl, rfl⟩

theorem parts_of_tooLarge (r : ConfigRequest) (n : Nat)
    (h : checkAllocation r.format r.dim = .error (.tooLarge n)) :
    r.parts = .error (.tooLarge n) := by
  simp [parts, h, bind, Except.bind]

end ConfigRequest

/-- The layout of a pixel buffer. -/
structure BufferInfo where
  bitsPerPixel : Nat
  bytesPerPixel : Nat
  bytesPerRow : Nat
  bufferSize : Nat
  hasBuffer : Bool
  dimension : Dimension
  format : PixelFormat
  deriving DecidableEq, Repr

/-- The value a step answers with. -/
inductive Reply where
  | unit
  | flag (b : Bool)
  | handle (s : SurfaceHandle)
  | bytes (b : ByteArray)
  | offset (o : Option Nat)
  | text (s : String)
  | info (i : BufferInfo)

/-- What one step answers. -/
inductive Outcome where
  | ok (r : Reply)
  | error (e : Error)
  | misuse (m : Misuse)
  | halt (h : Halt)

namespace Outcome

def ofUnit : Except Error Unit → Outcome
  | .ok () => .ok .unit
  | .error e => .error e

def ofStop (r : Reply) : Except Stop Unit → Outcome
  | .ok () => .ok r
  | .error (.error e) => .error e
  | .error (.halt h) => .halt h

def isOk : Outcome → Bool
  | .ok _ => true
  | _ => false

def isHalt : Outcome → Bool
  | .halt _ => true
  | _ => false

end Outcome

end Presenter
