import Presenter.Backend
import Presenter.Session.Settings
import Presenter.Session.Run
/-!
# Backend sessions — backends and the device platform called directly

A backend session holds at most one backend. Building one checks the allocation limit,
releases the held backend, and builds a raster or compositor backend directly or through the
platform; a failure leaves nothing held. Checks, the factory probe, accelerated availability
and surface resolution keep nothing. Calls on the held backend are refused while none is held.
-/

namespace Presenter

/-- How the held backend was made: directly as raster or compositor, or by the platform. -/
inductive BackendKind where
  | raster
  | compositor
  | generic
  deriving DecidableEq, Repr

/-- One step of a backend session. -/
inductive BackendStep where
  | build (kind : BackendKind) (mode : RenderMode) (req : ConfigRequest)
  | check (mode : RenderMode) (req : ConfigRequest)
  | checkCompositor (req : ConfigRequest)
  | usable
  | accelerated
  | resolve (surface : Option SurfaceHandle)
  | drop
  | draw (call : DrawCall)
  | write (args : Except Misuse (Nat × ByteArray))
  | configure (settings : List (Except Misuse DeviceSetting))

/-- A step as read. A step for the held backend is refused while none is held, before what
was read of it counts; any other step is refused only when it could not be read. -/
inductive BackendRequest where
  | free (step : Except Misuse BackendStep)
  | onHeld (step : Except Misuse BackendStep)

/-- The held backend and the devices. -/
structure BackendSession where
  held : Option (BackendKind × Backend) := none
  devices : Devices

namespace BackendSession

def start (env : Environment) : BackendSession := { devices := { env := env } }

def make (kind : BackendKind) (mode : RenderMode) (c : BackendConfig) : Act Backend :=
  match kind with
  | .raster => .raster <$> RasterBackend.new c
  | .compositor => .compositor <$> CompositorBackend.new c
  | .generic => Platform.devices.createBackend mode c

def call {α : Type} (s : BackendSession) (x : Act α) (reply : α → Reply) :
    Outcome × BackendSession :=
  let (r, d) := runAct x s.devices
  (Outcome.ofAct reply r, { s with devices := d })

/-- A call on the held backend. -/
def onHeld (s : BackendSession) (f : Backend → Act Backend) : Outcome × BackendSession :=
  match s.held with
  | none => (.misuse .noBackend, s)
  | some (k, b) =>
    match runAct (f b) s.devices with
    | (.ok b, d) => (.ok .unit, { held := some (k, b), devices := d })
    | (.error (.error e), d) => (.error e, { s with devices := d })
    | (.error (.halt h), d) => (.halt h, { s with devices := d })

/-- One step of the session. -/
def step (s : BackendSession) : BackendStep → Outcome × BackendSession
  | .build kind mode req =>
    match req.config with
    | .error m => (.misuse m, s)
    | .ok c =>
      let released := match s.held with
        | some (_, b) => (runAct b.release s.devices).2
        | none => s.devices
      match runAct (make kind mode c) released with
      | (.ok b, d) => (.ok .unit, { held := some (kind, b), devices := d })
      | (.error (.error e), d) => (.error e, { held := none, devices := d })
      | (.error (.halt h), d) => (.halt h, { held := none, devices := d })
  | .check mode req =>
    match req.config with
    | .error m => (.misuse m, s)
    | .ok c => s.call (Platform.devices.checkCreatable mode c) fun () => .unit
  | .checkCompositor req =>
    match req.config with
    | .error m => (.misuse m, s)
    | .ok c => s.call (CompositorBackend.checkCreatable c) fun () => .unit
  | .usable => s.call compositorUsable .flag
  | .accelerated => s.call Platform.devices.acceleratedAvailable .flag
  | .resolve surface => s.call (Platform.devices.resolve surface) .handle
  | .drop =>
    match s.held with
    | some (_, b) => (.ok .unit, { held := none, devices := (runAct b.release s.devices).2 })
    | none => (.ok .unit, s)
  | .draw call => s.onHeld fun b => b.draw call
  | .write args =>
    match s.held, args with
    | none, _ => (.misuse .noBackend, s)
    | some _, .error m => (.misuse m, s)
    | some (k, b), .ok (offset, data) =>
      if b.memoryLen < offset + data.size then (.misuse .outOfBuffer, s)
      else (.ok .unit, { s with held := some (k, b.overwrite offset data) })
  | .configure settings =>
    let (o, d) := s.devices.configureAll settings
    (o, { s with devices := d })

/-- Answers a step as read. -/
def request (s : BackendSession) : BackendRequest → Outcome × BackendSession
  | .onHeld r =>
    if s.held.isNone then (.misuse .noBackend, s)
    else match r with
      | .error m => (.misuse m, s)
      | .ok step => s.step step
  | .free (.error m) => (.misuse m, s)
  | .free (.ok step) => s.step step

def run (s : BackendSession) (steps : List BackendRequest) : List (Outcome × BackendSession) :=
  Session.run request Outcome.isHalt s steps

def finish (s : BackendSession) : Devices :=
  match s.held, s.devices.stuck with
  | some (_, b), none => (runAct b.release s.devices).2
  | _, _ => s.devices

end BackendSession

end Presenter
