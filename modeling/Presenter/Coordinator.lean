import Presenter.Backend
/-!
# Coordinator — one live backend, and the way from a request to it

The coordinator owns at most one backend and decides which mode it has. Initialising checks the
configuration before touching anything, downgrades a compositor request to raster when
accelerated rendering is unavailable, destroys the old backend and builds the new one. Building
resolves the surface first and then tries the modes in order, compositor before raster for a
compositor request: an attempt that fails with invalid input ends the chain at once, and when
every attempt fails, the errors of all of them are reported together. Any failure leaves no
backend and the raster mode.

Switching to the compositor is checked before anything is torn down, so a refused switch keeps
the current backend. Every call returns the coordinator as it is afterwards together with the
outcome, so that a refusal never loses what the call changed.
-/

namespace Presenter

open Act

/-- The coordinator: its platform, the stored configuration, the mode and the live backend. -/
structure Coordinator where
  platform : Platform
  config : Option BackendConfig := none
  mode : RenderMode := .raster
  backend : Option Backend := none

namespace Coordinator

def new (p : Platform) : Coordinator := { platform := p }

def isInitialized (c : Coordinator) : Bool := c.backend.isSome

def buffer (c : Coordinator) : Option (Nat × ByteArray) :=
  c.backend.map fun b => (b.memoryLen, b.memory)

/-- Releases the live backend, if any, and logs it. -/
def destroyBackend (c : Coordinator) : Act Coordinator := do
  match c.backend with
  | none => return c
  | some b =>
    b.release
    debug .coordinator "render backend destroyed" [⟨"mode", .str b.mode.name⟩]
    return { c with backend := none }

def joinErrors (errs : List (RenderMode × Error)) : String :=
  "; ".intercalate (errs.map fun (m, e) => m.name ++ ": " ++ e.message)

/-- Tries the modes in order until a backend is built; invalid input ends the chain. -/
def tryModes (c : Coordinator) (config : BackendConfig) (surface : SurfaceHandle) :
    List RenderMode → List (RenderMode × Error) → Act (Coordinator × Except Error Unit)
  | [], errs =>
    return (c, .error (.renderingSubsystem ("no render backend could be created: " ++ joinErrors errs)))
  | m :: rest, errs => do
    match ← attempt (c.platform.createBackend m config) with
    | .ok b =>
      if m ≠ c.mode then
        warn .coordinator "falling back to a different render backend"
          [⟨"requested", .str c.mode.name⟩, ⟨"active", .str m.name⟩]
      info .coordinator "render backend active"
        [⟨"mode", .str m.name⟩, ⟨"width", .num config.dimension.width⟩,
          ⟨"height", .num config.dimension.height⟩, ⟨"surface", .text surface.stableId⟩]
      return ({ c with mode := m, backend := some b }, .ok ())
    | .error e =>
      if e.classify = .invalidInput then return (c, .error e)
      warn .coordinator "render backend creation failed"
        [⟨"mode", .str m.name⟩, ⟨"error", .text e.message⟩]
      tryModes c config surface rest (errs ++ [(m, e)])

def attempts : RenderMode → List RenderMode
  | .compositor => [.compositor, .raster]
  | .raster => [.raster]

/-- Builds a backend for the stored configuration and mode, after resolving the surface and
storing it in the configuration. -/
def tryCreateBackend (c : Coordinator) : Act (Coordinator × Except Error Unit) := do
  let some config := c.config | return (c, .error .notInitialized)
  match ← attempt (c.platform.resolve config.surface) with
  | .error e => return (c, .error e)
  | .ok surface =>
    let config := { config with surface := some surface }
    let c := { c with config := some config }
    c.tryModes config surface (attempts c.mode) []

def createBackend (c : Coordinator) : Act (Coordinator × Except Error Unit) := do
  let (c, r) ← c.tryCreateBackend
  match r with
  | .ok () => return (c, r)
  | .error _ => return ({ c with mode := .raster }, r)

/-- Rebuilds the backend for a new configuration. A configuration that is not valid changes
nothing; a compositor request becomes raster when accelerated rendering is unavailable. -/
def setup (c : Coordinator) (format : PixelFormat) (dim : Dimension)
    (surface : Option SurfaceHandle) (requested : RenderMode) :
    Act (Coordinator × Except Error Unit) := do
  let config := BackendConfig.new format dim surface
  if let .error e := config.validate then return (c, .error e)
  let mut mode := requested
  if mode = .compositor then
    if !(← c.platform.acceleratedAvailable) then
      info .coordinator "accelerated rendering unavailable, initializing in raster mode" []
      mode := .raster
  let c ← c.destroyBackend
  { c with config := some config, mode := mode }.createBackend

/-- Replaces the live backend by one of the requested mode. A compositor request is checked
first, and a refused one keeps the current backend. -/
def switchMode (c : Coordinator) (requested : RenderMode) :
    Act (Coordinator × Except Error Unit) := do
  let some config := c.config | return (c, .error .notInitialized)
  if c.backend.isNone then return (c, .error .notInitialized)
  if requested = c.mode then
    debug .coordinator "render mode unchanged" [⟨"mode", .str requested.name⟩]
    return (c, .ok ())
  if requested = .compositor then
    if !(← c.platform.acceleratedAvailable) then
      warn .coordinator "accelerated rendering unavailable, keeping current backend" []
      return (c, .error (.backendUnavailable "accelerated rendering is not available"))
    if let .error e ← attempt (c.platform.checkCreatable requested config) then
      warn .coordinator "compositor backend cannot be created, keeping current backend"
        [⟨"error", .text e.message⟩]
      return (c, .error (.backendUnavailable ("compositor backend cannot be created: " ++ e.message)))
  let previous := c.mode
  let c ← c.destroyBackend
  let (c, r) ← { c with mode := requested }.createBackend
  if let .error e := r then return (c, .error e)
  if c.mode ≠ requested then
    return (c, .error (.backendUnavailable (requested.name ++ " backend failed after the switch, running in " ++
      c.mode.name ++ " mode")))
  info .coordinator "render mode switched" [⟨"from", .str previous.name⟩, ⟨"to", .str requested.name⟩]
  return (c, .ok ())

/-- Runs a call on the live backend and keeps the backend it leaves. -/
def onBackend (c : Coordinator) (f : Backend → Act Backend) :
    Act (Coordinator × Except Error Unit) := do
  let some b := c.backend | return (c, .error .notInitialized)
  match ← attempt (f b) with
  | .ok b => return ({ c with backend := some b }, .ok ())
  | .error e => return (c, .error e)

def capture (c : Coordinator) (rect : Rect) (mode : CaptureMode) :
    Act (Coordinator × Except Error Unit) :=
  c.onBackend fun b => b.capture rect mode

def present (c : Coordinator) (rect : Rect) : Act (Coordinator × Except Error Unit) :=
  c.onBackend fun b => b.present rect

def presentStretched (c : Coordinator) (src dst : Rect) : Act (Coordinator × Except Error Unit) :=
  c.onBackend fun b => b.presentStretched src dst

def resize (c : Coordinator) (rect : Rect) : Act (Coordinator × Except Error Unit) :=
  c.onBackend fun b => b.resize rect

def draw (c : Coordinator) (call : DrawCall) : Act (Coordinator × Except Error Unit) :=
  c.onBackend fun b => b.draw call

end Coordinator

end Presenter
