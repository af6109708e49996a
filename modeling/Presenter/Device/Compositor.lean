import Presenter.Geometry
/-!
# Compositor device — factories, render targets and bitmaps

The accelerated drawing interface hands out a factory, render targets made by the factory
(bound to a window, or to a window's device context with given bounds), and bitmaps made by a
target. `CompositorDevice` counts what is live, records sizes, binds, resizes, uploads and the
calls on targets, and lists every resource in the order it was given back (`releaseOrder`).

A limited budget of target creations can be set: a creation whose own failure switch is off
spends one unit, and with none left it fails instead.
-/

namespace Presenter

/-- A call on a render target. -/
inductive TargetCall where
  | beginDraw
  | clear
  | drawBitmap (dst src : Rect)
  | endDraw
  deriving DecidableEq, Repr

/-- The kinds of compositor resources. -/
inductive Resource where
  | factory
  | target
  | bitmap
  deriving DecidableEq, Repr

/-- What the compositor interface did, and which of its calls are made to fail. -/
structure CompositorDevice where
  failFactory : Bool := false
  failWindowTarget : Bool := false
  failDcTarget : Bool := false
  failBitmap : Bool := false
  failUpload : Bool := false
  failEndDraw : Bool := false
  failResize : Bool := false
  /-- Target creations that still succeed; `none` is unlimited. -/
  targetBudget : Option Nat := none
  factoriesCreated : Nat := 0
  liveFactories : Nat := 0
  liveTargets : Nat := 0
  bitmapSizes : List Dimension := []
  dcBinds : List Rect := []
  resizes : List Dimension := []
  uploads : List (Nat × Nat) := []
  targetCalls : List TargetCall := []
  releaseOrder : List Resource := []
  deriving DecidableEq, Repr

namespace CompositorDevice

def createFactory (d : CompositorDevice) : Except Error CompositorDevice :=
  if d.failFactory then .error (.backendUnavailable "stub factory unavailable")
  else .ok { d with factoriesCreated := d.factoriesCreated + 1, liveFactories := d.liveFactories + 1 }

def releaseFactory (d : CompositorDevice) : CompositorDevice :=
  { d with liveFactories := d.liveFactories - 1, releaseOrder := d.releaseOrder ++ [.factory] }

def spendBudget (d : CompositorDevice) : Bool × CompositorDevice :=
  match d.targetBudget with
  | none => (true, d)
  | some 0 => (false, d)
  | some (n + 1) => (true, { d with targetBudget := some n })

/-- A render target bound to a window; its size is the one asked for. -/
def createWindowTarget (d : CompositorDevice) : Except Error CompositorDevice :=
  if d.failWindowTarget then .error (.platform "stub window target failed")
  else
    match d.spendBudget with
    | (false, _) => .error (.platform "stub window target failed")
    | (true, d) => .ok { d with liveTargets := d.liveTargets + 1 }

/-- A render target bound to a device context with the given bounds; its size is theirs. -/
def createDcTarget (d : CompositorDevice) (bounds : Rect) : Except Error CompositorDevice :=
  if d.failDcTarget then .error (.platform "stub dc target failed")
  else
    match d.spendBudget with
    | (false, _) => .error (.platform "stub dc target failed")
    | (true, d) => .ok { d with dcBinds := d.dcBinds ++ [bounds], liveTargets := d.liveTargets + 1 }

def releaseTarget (d : CompositorDevice) : CompositorDevice :=
  { d with liveTargets := d.liveTargets - 1, releaseOrder := d.releaseOrder ++ [.target] }

def createBitmap (d : CompositorDevice) (size : Dimension) : Except Error CompositorDevice :=
  if d.failBitmap then .error (.platform "stub bitmap failed")
  else .ok { d with bitmapSizes := d.bitmapSizes ++ [size] }

def releaseBitmap (d : CompositorDevice) : CompositorDevice :=
  { d with releaseOrder := d.releaseOrder ++ [.bitmap] }

def record (d : CompositorDevice) (c : TargetCall) : CompositorDevice :=
  { d with targetCalls := d.targetCalls ++ [c] }

def endDraw (d : CompositorDevice) : Except Error Unit × CompositorDevice :=
  let d := d.record .endDraw
  if d.failEndDraw then (.error (.platform "stub end draw failed"), d) else (.ok (), d)

def resizeTarget (d : CompositorDevice) (size : Dimension) : Except Error CompositorDevice :=
  if d.failResize then .error (.platform "stub resize failed")
  else .ok { d with resizes := d.resizes ++ [size] }

def bindDc (d : CompositorDevice) (bounds : Rect) : Except Error CompositorDevice :=
  if d.failResize then .error (.platform "stub rebind failed")
  else .ok { d with dcBinds := d.dcBinds ++ [bounds] }

def upload (d : CompositorDevice) (len pitch : Nat) : Except Error CompositorDevice :=
  if d.failUpload then .error (.platform "stub upload failed")
  else .ok { d with uploads := d.uploads ++ [(len, pitch)] }

end CompositorDevice

end Presenter
