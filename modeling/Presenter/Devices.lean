import Presenter.Log
import Presenter.Backend.Config
import Presenter.Device.Raster
import Presenter.Device.Compositor
/-!
# Devices — the state every rendering call works on

`Devices` gathers what the library talks to: the process settings, the window system, the
raster device and the compositor interface, together with the events logged so far and the
number of backend memories handed out. An `Act` is a call on them: it changes them and returns
a value, or stops with an `Error` or a `Halt`, keeping whatever it changed before. A device that
stops the program in the middle of its own work leaves the devices stuck: whoever looks at them
afterwards stops too (`Devices.stuck`).

Resolving a surface (`resolveSurface`) keeps a requested live window, and otherwise falls back
to the desktop, which must itself be a live window.
-/

namespace Presenter

/-- What the library talks to, and what it logged. -/
structure Devices where
  env : Environment := {}
  surfaces : Surfaces := {}
  raster : RasterDevice := {}
  compositor : CompositorDevice := {}
  log : Array Log.Event := #[]
  /-- Backend memories handed out so far; the next one gets this number. -/
  allocations : Nat := 0
  /-- A device call stopped the program while it held the devices, which cannot be looked at
  since. -/
  poisoned : Bool := false

instance : Inhabited Devices := ⟨{}⟩

def Devices.stuck (d : Devices) : Option Halt :=
  if d.poisoned then some .stuckDevices else none

abbrev Act := EStateM Stop Devices

namespace Act

def emit (e : Log.Event) : Act Unit :=
  modify fun d => { d with log := d.log.push e }

def debug (c : Log.Component) (msg : String) (fields : List Log.Field) : Act Unit :=
  emit ⟨.debug, c, msg, fields⟩

def info (c : Log.Component) (msg : String) (fields : List Log.Field) : Act Unit :=
  emit ⟨.info, c, msg, fields⟩

def warn (c : Log.Component) (msg : String) (fields : List Log.Field) : Act Unit :=
  emit ⟨.warn, c, msg, fields⟩

def fail {α : Type} (e : Error) : Act α := throw (.error e)

def halt {α : Type} (h : Halt) : Act α := throw (.halt h)

def ofExcept {α : Type} : Except Error α → Act α
  | .ok a => pure a
  | .error e => fail e

def ofStop {α : Type} : Except Stop α → Act α
  | .ok a => pure a
  | .error s => throw s

def attempt {α : Type} (x : Act α) : Act (Except Error α) :=
  tryCatch (do let a ← x; pure (.ok a)) fun
    | .error e => pure (.error e)
    | .halt h => throw (.halt h)

def allocate : Act Nat :=
  modifyGet fun d => (d.allocations, { d with allocations := d.allocations + 1 })

def onRaster {α : Type} (f : RasterDevice → Except Error (α × RasterDevice)) : Act α := do
  let d ← get
  match f d.raster with
  | .ok (a, r) => set { d with raster := r }; pure a
  | .error e => fail e

def onCompositor (f : CompositorDevice → Except Error CompositorDevice) : Act Unit := do
  let d ← get
  match f d.compositor with
  | .ok c => set { d with compositor := c }
  | .error e => fail e

def updateCompositor (f : CompositorDevice → CompositorDevice) : Act Unit :=
  modify fun d => { d with compositor := f d.compositor }

def updateRaster (f : RasterDevice → RasterDevice) : Act Unit :=
  modify fun d => { d with raster := f d.raster }

end Act

open Act

def isLiveWindow (s : SurfaceHandle) : Act Bool :=
  modifyGet fun d =>
    let (ok, w) := d.surfaces.isValid s
    (ok, { d with surfaces := w })

/-- The surface to draw on: a requested live window, else the desktop, which has to be live. -/
def resolveSurface (requested : Option SurfaceHandle) : Act SurfaceHandle := do
  if let some s := requested then
    if !s.isNull then
      if ← isLiveWindow s then return s
    debug .surface "target surface is not a valid window, using the desktop"
      [⟨"surface", .text s.stableId⟩]
  let desk ← ofExcept (← get).surfaces.findDesktop
  if desk.isNull then fail (.invalidTarget "no target surface and the desktop window is unavailable")
  if !(← isLiveWindow desk) then
    fail (.invalidTarget "no target surface and the desktop window is unavailable")
  return desk

end Presenter
