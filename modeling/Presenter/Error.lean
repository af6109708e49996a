/-!
# Error — why a rendering call did not do its work

Every refusal of the library is one `Error` value: a cause with the few words that tell the
cases of that cause apart. `Error.message` is the one place where causes become text,
`Error.classify` sorts them into four classes, and only transient errors are worth a retry.
`Error.kind` names an error's cause, and `Error.ofKind?` makes an error back from that name.

An arithmetic fault (`Halt`) is not an error: it stops the whole program. A `Stop` is either.
-/

namespace Presenter

/-- The causes for which a rendering call refuses or fails. -/
inductive Error where
  /-- Pixel format or dimension rejected before any native resource was acquired. -/
  | invalidConfig (detail : String)
  /-- Every construction strategy available for a mode failed. -/
  | renderingSubsystem (detail : String)
  /-- The accelerated path failed its capability or creatability check. -/
  | backendUnavailable (detail : String)
  /-- A call that needs a live backend came before any backend existed. -/
  | notInitialized
  /-- The operation is structurally disallowed for this object or backend. -/
  | unsupportedOperation (operation : String)
  /-- A single frame was not rendered; the backend stays usable. -/
  | transientRender (detail : String)
  /-- The surface to draw on is missing or gone. -/
  | invalidTarget (detail : String)
  /-- A pixel operation between buffers of different formats. -/
  | formatMismatch
  /-- A size does not fit the machine word, or a buffer is too short. -/
  | bufferOverflow
  /-- No control connection arrived in time. -/
  | timeout
  /-- A control peer failed the executable identity check. -/
  | peerRejected (detail : String)
  /-- A failure reported by the window system or a device, shown as its own text. -/
  | platform (detail : String)
  deriving DecidableEq, Repr, Inhabited

/-- The four classes of errors: what a caller can do about one. -/
inductive Error.Class where
  | invalidInput
  | unsupported
  | transient
  | fatal
  deriving DecidableEq, Repr, Inhabited

def Error.Class.name : Error.Class → String
  | .invalidInput => "InvalidInput"
  | .unsupported => "Unsupported"
  | .transient => "Transient"
  | .fatal => "Fatal"

namespace Error

/-- The text of an error, one fixed sentence per cause followed by its detail. -/
def message : Error → String
  | invalidConfig d => "invalid render configuration: " ++ d
  | renderingSubsystem d => "rendering subsystem could not be created: " ++ d
  | backendUnavailable d => "render backend is not available: " ++ d
  | notInitialized =>
    "can't perform operation because the render coordinator is not initialized yet"
  | unsupportedOperation op => "operation is not supported: " ++ op
  | transientRender d => "frame was not rendered: " ++ d
  | invalidTarget d => "invalid drawing surface: " ++ d
  | formatMismatch => "pixel formats of the two buffers differ"
  | bufferOverflow => "pixel buffer size overflow"
  | timeout => "timed out waiting for a control connection"
  | peerRejected d => "control client rejected: " ++ d
  | platform d => d

/-- The name of the error's cause. -/
def kind : Error → String
  | invalidConfig _ => "InvalidConfig"
  | renderingSubsystem _ => "RenderingSubsystem"
  | backendUnavailable _ => "BackendUnavailable"
  | notInitialized => "NotInitialized"
  | unsupportedOperation _ => "UnsupportedOperation"
  | transientRender _ => "TransientRender"
  | invalidTarget _ => "InvalidTarget"
  | formatMismatch => "FormatMismatch"
  | bufferOverflow => "BufferOverflow"
  | timeout => "Timeout"
  | peerRejected _ => "PeerRejected"
  | platform _ => "Platform"

/-- The error of a cause named by `kind`, with its detail read by `detail` only when the cause
has one. -/
def ofKind? {m : Type → Type} [Monad m] (kind : String) (detail : m String) : Option (m Error) :=
  match kind with
  | "InvalidConfig" => some (invalidConfig <$> detail)
  | "RenderingSubsystem" => some (renderingSubsystem <$> detail)
  | "BackendUnavailable" => some (backendUnavailable <$> detail)
  | "NotInitialized" => some (pure notInitialized)
  | "UnsupportedOperation" => some (unsupportedOperation <$> detail)
  | "TransientRender" => some (transientRender <$> detail)
  | "InvalidTarget" => some (invalidTarget <$> detail)
  | "FormatMismatch" => some (pure formatMismatch)
  | "BufferOverflow" => some (pure bufferOverflow)
  | "Timeout" => some (pure timeout)
  | "PeerRejected" => some (peerRejected <$> detail)
  | "Platform" => some (platform <$> detail)
  | _ => none

def classify : Error → Error.Class
  | invalidConfig _ | invalidTarget _ | formatMismatch => .invalidInput
  | backendUnavailable _ | unsupportedOperation _ | notInitialized => .unsupported
  | transientRender _ | timeout => .transient
  | renderingSubsystem _ | bufferOverflow | peerRejected _ | platform _ => .fatal

def retryable (e : Error) : Bool :=
  e.classify == .transient

def hasSource : Error → Bool
  | platform _ => true
  | _ => false

def transient (context : String) (e : Error) : Error :=
  .transientRender (context ++ ": " ++ e.message)

/-- Every error is found again by the name of its cause and its detail. -/
theorem ofKind?_kind (e : Error) :
    ofKind? (m := Id) e.kind (pure (match e with
      | invalidConfig d | renderingSubsystem d | backendUnavailable d | unsupportedOperation d
      | transientRender d | invalidTarget d | peerRejected d | platform d => d
      | _ => "")) = some (pure e) := by
  cases e <;> rfl

theorem retryable_iff (e : Error) : e.retryable = true ↔ e.classify = .transient := by
  cases e <;> simp [retryable, classify]

end Error

/-- Arithmetic faults that stop the program where a word would overflow. -/
inductive Halt where
  | multiplyOverflow
  | addOverflow
  | subtractOverflow
  | negateOverflow
  /-- The devices were looked at after a device call stopped the program midway. -/
  | stuckDevices
  /-- A slice of `len` bytes was cut from a start past its end. -/
  | sliceStart (index len : Nat)
  /-- A slice of `len` bytes was cut to an end past its end. -/
  | sliceEnd (index len : Nat)
  /-- A slice of `len` bytes was read at an index past its end. -/
  | indexOutOfBounds (len index : Nat)
  deriving DecidableEq, Repr, Inhabited

/-- The text the program stops with. -/
def Halt.message : Halt → String
  | .multiplyOverflow => "attempt to multiply with overflow"
  | .addOverflow => "attempt to add with overflow"
  | .subtractOverflow => "attempt to subtract with overflow"
  | .negateOverflow => "attempt to negate with overflow"
  | .stuckDevices => "called \x60Result::unwrap()\x60 on an \x60Err\x60 value: PoisonError \x7b .. \x7d"
  | .sliceStart index len =>
    "range start index " ++ toString index ++ " out of range for slice of length " ++ toString len
  | .sliceEnd index len =>
    "range end index " ++ toString index ++ " out of range for slice of length " ++ toString len
  | .indexOutOfBounds len index =>
    "index out of bounds: the len is " ++ toString len ++ " but the index is " ++ toString index

/-- Why a call did not return a value: a refusal the caller sees, or a fault that stops. -/
inductive Stop where
  | error (e : Error)
  | halt (h : Halt)
  deriving DecidableEq, Repr, Inhabited

def liftError {α : Type} : Except Error α → Except Stop α
  | .ok a => .ok a
  | .error e => .error (.error e)

@[simp] theorem liftError_ok {α : Type} (a : α) : liftError (.ok a) = .ok a := rfl

@[simp] theorem liftError_error {α : Type} (e : Error) :
    (liftError (.error e) : Except Stop α) = .error (.error e) := rfl

end Presenter
