import Presenter.PixelFormat
import Presenter.Device.Screen
/-!
# Raster device — pixel sections that exchange blocks with the screen

A `Section` is CPU memory of four bytes per pixel that a window system can copy from the screen
(`blitFromScreen`) and to the surface it belongs to (`blitToSurface`). `RasterDevice` keeps what
the device did: sections made and still live, every block transfer, stretches, and the screen
itself. Each transfer can be made to fail, and a section can be made to report one byte less
memory than it has.

Copying from the screen reads the screen point `(srcX + x, srcY + y)` for the section pixel
`(left + x, top + y)`; that sum is a 32-bit signed addition and stops the program past its range.
-/

namespace Presenter

def zeroBytes (n : Nat) : ByteArray := ⟨Array.replicate n 0⟩

@[simp] theorem zeroBytes_size (n : Nat) : (zeroBytes n).size = n := by
  simp [zeroBytes, ByteArray.size]

/-- Whether a screen grab includes layered (transparent) windows. -/
inductive CaptureMode where
  | solidOnly
  | withLayered
  deriving DecidableEq, Repr

/-- One recorded copy from the screen: the section area and the screen origin it read from. -/
structure ScreenBlit where
  dst : Rect
  srcX : Int
  srcY : Int
  mode : CaptureMode
  deriving DecidableEq, Repr

/-- A pixel section: its memory, row width in pixels, and the length it reports. -/
structure Section where
  /-- Which allocation of backend memory this is. -/
  id : Nat
  bits : ByteArray
  width : Nat
  len : Nat

namespace Section

def offset (s : Section) (x y : Nat) : Nat := (y * s.width + x) * 4

def pixel (s : Section) (x y : Nat) : ByteArray :=
  s.bits.extract (s.offset x y) (s.offset x y + 4)

def view (s : Section) : ByteArray := s.bits.extract 0 s.len

end Section

/-- What the raster device did, the screen, and which of its calls are made to fail. -/
structure RasterDevice where
  sections : Nat := 0
  liveSections : Nat := 0
  screenBlits : List ScreenBlit := []
  surfaceBlits : List Rect := []
  stretches : List (Rect × Rect) := []
  screen : Screen := ∅
  failCreate : Bool := false
  failCapture : Bool := false
  failPresent : Bool := false
  /-- New sections report one byte less than their memory. -/
  shortSection : Bool := false

namespace RasterDevice

/-- A zeroed section of `w·h·bytes per pixel` bytes; counts as made and live. -/
def createSection (d : RasterDevice) (id : Nat) (f : PixelFormat) (dim : Dimension) :
    Except Error (Section × RasterDevice) :=
  if d.failCreate then .error (.renderingSubsystem "stub section creation failed")
  else
    match dim.byteLen f.bytesPerPixel with
    | .error e => .error e
    | .ok len =>
      .ok (⟨id, zeroBytes len, dim.width, if d.shortSection then len - 1 else len⟩,
        { d with sections := d.sections + 1, liveSections := d.liveSections + 1 })

def releaseSection (d : RasterDevice) : RasterDevice :=
  { d with liveSections := d.liveSections - 1 }

def writePixel (bits : ByteArray) (at_ : Nat) (px : ByteArray) : ByteArray :=
  px.copySlice 0 bits at_ 4

/-- Screen pixels copied into the section area `dst`, row by row. -/
def fillFromScreen (screen : Screen) (s : Section) (dst : Rect) (sx sy : Int) (w h : Nat) :
    ByteArray :=
  (List.range h).foldl (fun bits (y : Nat) =>
    (List.range w).foldl (fun bits (x : Nat) =>
      writePixel bits (s.offset (dst.left.toNat + x) (dst.top.toNat + y))
        (screen.pixelAt ⟨sx + (x : Int), sy + (y : Int)⟩)) bits) s.bits

/-- Copies the screen area starting at `(sx, sy)` into the section area `dst`, which lies inside
the section. A screen coordinate past the 32-bit range stops the program. -/
def blitFromScreen (d : RasterDevice) (s : Section) (dst : Rect) (sx sy : Int)
    (mode : CaptureMode) : Except Stop (Section × RasterDevice) :=
  if d.failCapture then .error (.error (.platform "stub blit failed"))
  else
    let d := { d with screenBlits := d.screenBlits ++ [⟨dst, sx, sy, mode⟩] }
    let w := dst.width.toNat
    let h := dst.height.toNat
    if 0 < w ∧ 0 < h ∧ (Coord.hi < sx + (w - 1) ∨ Coord.hi < sy + (h - 1)) then
      .error (.halt .addOverflow)
    else
      .ok ({ s with bits := fillFromScreen d.screen s dst sx sy w h }, d)

/-- Section pixels of `rect` put on the screen at the same points. -/
def showOnScreen (screen : Screen) (s : Section) (rect : Rect) : Screen :=
  let w := (rect.right - rect.left).toNat
  let h := (rect.bottom - rect.top).toNat
  (List.range h).foldl (fun scr (y : Nat) =>
    (List.range w).foldl (fun scr (x : Nat) =>
      scr.insert ⟨rect.left + (x : Int), rect.top + (y : Int)⟩
        (s.pixel (rect.left.toNat + x) (rect.top.toNat + y))) scr) screen

def blitToSurface (d : RasterDevice) (s : Section) (rect : Rect) : Except Error RasterDevice :=
  if d.failPresent then .error (.platform "stub present failed")
  else .ok { d with surfaceBlits := d.surfaceBlits ++ [rect], screen := showOnScreen d.screen s rect }

def stretchToSurface (d : RasterDevice) (src dst : Rect) : Except Error RasterDevice :=
  if d.failPresent then .error (.platform "stub stretch failed")
  else .ok { d with stretches := d.stretches ++ [(src, dst)] }

end RasterDevice

end Presenter
