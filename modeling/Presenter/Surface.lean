import Presenter.Geometry
import Presenter.Encoding.Hex
/-!
# Surfaces — windows to draw on, and the desktop

A `SurfaceHandle` is a signed machine-word handle of a window; zero is no window. Its stable
identifier is the handle's 64-bit two's-complement pattern in sixteen hex digits.

`Surfaces` is the window system as the library sees it: which handles are live windows, which
handle is the desktop, the client area of a window and where the virtual desktop starts. Each of
the lookups can be made to fail, and the number of positive liveness answers can be limited, so
that a window goes stale between two checks (`isValid`).
-/

namespace Presenter

/-- A window handle. -/
structure SurfaceHandle where
  raw : Int
  deriving DecidableEq, Repr, Inhabited

namespace SurfaceHandle

def desktop : SurfaceHandle := ⟨0x10⟩

def isNull (s : SurfaceHandle) : Bool := s.raw == 0

def stableId (s : SurfaceHandle) : String := Hex.ofNat 16 (s.raw % Int.pow 2 64).toNat

end SurfaceHandle

/-- The window system: live windows, the desktop, client areas and the desktop origin. -/
structure Surfaces where
  windows : List SurfaceHandle := [SurfaceHandle.desktop]
  desktop : SurfaceHandle := SurfaceHandle.desktop
  /-- When set, looking up the desktop fails with this text. -/
  desktopFailure : Option String := none
  clientRect : Rect := ⟨0, 0, 640, 480⟩
  /-- When set, querying a client area fails with this text. -/
  clientRectFailure : Option String := none
  desktopOrigin : Int × Int := (0, 0)
  /-- Positive liveness answers still to give; `none` is unlimited. -/
  validBudget : Option Nat := none
  deriving Repr, Inhabited

namespace Surfaces

/-- Whether a handle is a live window. A limited budget is spent by every positive answer,
and once it is spent every window counts as gone. -/
def isValid (w : Surfaces) (s : SurfaceHandle) : Bool × Surfaces :=
  if s ∈ w.windows then
    match w.validBudget with
    | none => (true, w)
    | some 0 => (false, w)
    | some (n + 1) => (true, { w with validBudget := some n })
  else (false, w)

def findDesktop (w : Surfaces) : Except Error SurfaceHandle :=
  match w.desktopFailure with
  | some m => .error (.platform m)
  | none => .ok w.desktop

def clientArea (w : Surfaces) : Except Error Rect :=
  match w.clientRectFailure with
  | some m => .error (.platform m)
  | none => .ok w.clientRect

def addWindow (w : Surfaces) (s : SurfaceHandle) : Surfaces :=
  if s ∈ w.windows then w else { w with windows := w.windows ++ [s] }

theorem isValid_false_same {w : Surfaces} {s : SurfaceHandle} (h : (w.isValid s).1 = false) :
    (w.isValid s).2 = w := by
  unfold isValid at *
  split
  · split <;> simp_all
  · rfl

end Surfaces

end Presenter
