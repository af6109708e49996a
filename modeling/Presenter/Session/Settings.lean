import Presenter.Devices
import Presenter.Session.Outcome
/-!
# Device settings — faults, budgets and screen contents a session sets

Between steps a session may switch device faults on and off, limit how many render targets
can still be made or how many liveness answers are still positive, change the window
system's client area and desktop origin, add live windows, and put pixels on the screen.
`Devices.configure` applies one setting. A step's settings are read one at a time and each is
applied as soon as it is read, so a setting that cannot be read refuses the step with those
before it in force (`Devices.configureAll`). `runAct` runs a call on the devices for a session.
-/

namespace Presenter

/-- A device call that can be made to fail. -/
inductive Fault where
  | createSection
  | capture
  | present
  | factory
  | windowTarget
  | dcTarget
  | bitmap
  | upload
  | endDraw
  | resize
  /-- New sections report one byte less than their memory. -/
  | shortSection
  | clientRect
  | desktop
  deriving DecidableEq, Repr

/-- One change of the devices. -/
inductive DeviceSetting where
  | fault (f : Fault) (on : Bool)
  | targetBudget (n : Option Nat)
  | validBudget (n : Option Nat)
  | clientRect (r : Rect)
  | desktopOrigin (x y : Int)
  | addWindow (s : SurfaceHandle)
  /-- Puts pixels on the screen, in order; a step that reads screen entries one at a time
  makes each entry a setting of its own. -/
  | screen (pixels : List (Point × ByteArray))

namespace Devices

/-- Switches a fault on or off. -/
def setFault (d : Devices) (f : Fault) (on : Bool) : Devices :=
  match f with
  | .createSection => { d with raster := { d.raster with failCreate := on } }
  | .capture => { d with raster := { d.raster with failCapture := on } }
  | .present => { d with raster := { d.raster with failPresent := on } }
  | .shortSection => { d with raster := { d.raster with shortSection := on } }
  | .factory => { d with compositor := { d.compositor with failFactory := on } }
  | .windowTarget => { d with compositor := { d.compositor with failWindowTarget := on } }
  | .dcTarget => { d with compositor := { d.compositor with failDcTarget := on } }
  | .bitmap => { d with compositor := { d.compositor with failBitmap := on } }
  | .upload => { d with compositor := { d.compositor with failUpload := on } }
  | .endDraw => { d with compositor := { d.compositor with failEndDraw := on } }
  | .resize => { d with compositor := { d.compositor with failResize := on } }
  | .clientRect => { d with surfaces := { d.surfaces with
      clientRectFailure := if on then some "stub client rect failed" else none } }
  | .desktop => { d with surfaces := { d.surfaces with
      desktopFailure := if on then some "stub desktop lookup failed" else none } }

/-- Applies one setting. -/
def configure (d : Devices) : DeviceSetting → Devices
  | .fault f on => d.setFault f on
  | .targetBudget n => { d with compositor := { d.compositor with targetBudget := n } }
  | .validBudget n => { d with surfaces := { d.surfaces with validBudget := n } }
  | .clientRect r => { d with surfaces := { d.surfaces with clientRect := r } }
  | .desktopOrigin x y => { d with surfaces := { d.surfaces with desktopOrigin := (x, y) } }
  | .addWindow s => { d with surfaces := d.surfaces.addWindow s }
  | .screen ps => { d with raster := { d.raster with
      screen := ps.foldl (fun scr (p, px) => scr.insert p px) d.raster.screen } }

def configureAll (d : Devices) : List (Except Misuse DeviceSetting) → Outcome × Devices
  | [] => (.ok .unit, d)
  | .ok s :: rest => (d.configure s).configureAll rest
  | .error m :: _ => (.misuse m, d)

@[simp] theorem configureAll_nil (d : Devices) : d.configureAll [] = (.ok .unit, d) := rfl

theorem configureAll_map_ok : ∀ (d : Devices) (ss : List DeviceSetting),
    d.configureAll (ss.map .ok) = (.ok .unit, ss.foldl configure d)
  | _, [] => rfl
  | d, s :: ss => configureAll_map_ok (d.configure s) ss

theorem configureAll_refused (m : Misuse) : ∀ (d : Devices) (ss : List DeviceSetting)
    (rest : List (Except Misuse DeviceSetting)),
    d.configureAll (ss.map .ok ++ .error m :: rest) = (.misuse m, ss.foldl configure d)
  | _, [], _ => rfl
  | d, s :: ss, rest => configureAll_refused m (d.configure s) ss rest

end Devices

def runAct {α : Type} (x : Act α) (d : Devices) : Except Stop α × Devices :=
  match x.run d with
  | .ok a d => (.ok a, d)
  | .error s d => (.error s, d)

def Outcome.ofAct {α : Type} (reply : α → Reply) : Except Stop α → Outcome
  | .ok a => .ok (reply a)
  | .error (.error e) => .error e
  | .error (.halt h) => .halt h

end Presenter
