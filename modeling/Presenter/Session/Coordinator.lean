import Presenter.Coordinator
import Presenter.Session.Settings
import Presenter.Session.Run
/-!
# Coordinator sessions — a bare coordinator over the devices

A coordinator session initialises, switches, destroys, captures, presents and resizes, writes
bytes straight into the live backend's memory, or changes the devices. A write needs a live
backend, whose memory is taken before the offset and bytes are looked at, and must lie inside
the memory the backend reports. An initialisation looks at its configuration before its mode.
When the session ends the coordinator releases its backend.
-/

namespace Presenter

/-- One step of a coordinator session. -/
inductive CoordinatorStep where
  | init (req : ConfigRequest) (mode : Except Misuse RenderMode)
  | switch (mode : RenderMode)
  | destroy
  | draw (call : DrawCall)
  | write (args : Except Misuse (Nat × ByteArray))
  | configure (settings : List (Except Misuse DeviceSetting))

/-- A coordinator and the devices. -/
structure CoordinatorSession where
  coordinator : Coordinator
  devices : Devices

namespace CoordinatorSession

def start (p : Platform) (env : Environment) : CoordinatorSession :=
  ⟨.new p, { env := env }⟩

/-- A coordinator call returning the coordinator and an outcome. -/
def onCoordinator (s : CoordinatorSession) (x : Act (Coordinator × Except Error Unit)) :
    Outcome × CoordinatorSession :=
  match runAct x s.devices with
  | (.ok (c, r), d) => (.ofUnit r, ⟨c, d⟩)
  | (.error (.error e), d) => (.error e, { s with devices := d })
  | (.error (.halt h), d) => (.halt h, { s with devices := d })

/-- One step of the session. -/
def step (s : CoordinatorSession) : CoordinatorStep → Outcome × CoordinatorSession
  | .init req mode =>
    match req.parts, mode with
    | .error m, _ | .ok _, .error m => (.misuse m, s)
    | .ok (format, dim, surface), .ok mode => s.onCoordinator (s.coordinator.setup format dim surface mode)
  | .switch mode => s.onCoordinator (s.coordinator.switchMode mode)
  | .destroy => s.onCoordinator (do let c ← s.coordinator.destroyBackend; pure (c, .ok ()))
  | .draw call => s.onCoordinator (s.coordinator.draw call)
  | .write args =>
    match s.coordinator.backend, args with
    | none, _ => (.misuse .noBackendMemory, s)
    | some _, .error m => (.misuse m, s)
    | some b, .ok (offset, data) =>
      if b.memoryLen < offset + data.size then (.misuse .outOfBuffer, s)
      else (.ok .unit, { s with coordinator := { s.coordinator with
        backend := some (b.overwrite offset data) } })
  | .configure settings =>
    if s.coordinator.platform = .devices then
      let (o, d) := s.devices.configureAll settings
      (o, { s with devices := d })
    else (.misuse .noDevices, s)

def request (s : CoordinatorSession) : Except Misuse CoordinatorStep → Outcome × CoordinatorSession
  | .error m => (.misuse m, s)
  | .ok step => s.step step

def run (s : CoordinatorSession) (steps : List (Except Misuse CoordinatorStep)) :
    List (Outcome × CoordinatorSession) :=
  Session.run request Outcome.isHalt s steps

def finish (s : CoordinatorSession) : Devices :=
  if s.devices.stuck.isSome then s.devices else (runAct s.coordinator.destroyBackend s.devices).2

end CoordinatorSession

end Presenter
