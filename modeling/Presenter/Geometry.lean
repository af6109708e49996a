import Presenter.Error
/-!
# Geometry — rectangles and sizes in pixels

A `Rect` has 32-bit signed corners, `right` and `bottom` exclusive, and every arithmetic step on
them saturates at the ends of that range instead of wrapping. A `Dimension` has unsigned 32-bit
sides; counting its pixels or bytes is checked against the 64-bit machine word and refuses with
`bufferOverflow` past it.

Beside the definitions stand their small equations: saturation lands in range and leaves a
coordinate alone (`Coord.sat_fits`, `Coord.sat_of_fits`), and a checked byte count is the plain
product below the word limit (`Dimension.byteLen_eq_ok`).
-/

namespace Presenter

/-! ## Signed 32-bit coordinates -/

namespace Coord

def lo : Int := -2147483648

def hi : Int := 2147483647

def Fits (x : Int) : Prop := lo ≤ x ∧ x ≤ hi

instance (x : Int) : Decidable (Fits x) := inferInstanceAs (Decidable (_ ∧ _))

def sat (x : Int) : Int := max lo (min hi x)

def add (a b : Int) : Int := sat (a + b)

def sub (a b : Int) : Int := sat (a - b)

theorem sat_fits (x : Int) : Fits (sat x) := by
  unfold Fits sat lo hi; omega

theorem sat_of_fits {x : Int} (h : Fits x) : sat x = x := by
  unfold Fits lo hi at h; unfold sat lo hi; omega

end Coord

/-! ## Sizes -/

def wordLimit : Nat := Nat.pow 2 64

/-- Width and height in pixels, each an unsigned 32-bit value. -/
structure Dimension where
  width : Nat
  height : Nat
  deriving DecidableEq, Repr, Inhabited

/-- A rectangle in pixel coordinates; `right` and `bottom` are exclusive. -/
structure Rect where
  left : Int
  top : Int
  right : Int
  bottom : Int
  deriving DecidableEq, Repr, Inhabited

namespace Dimension

def clamped (d : Dimension) : Dimension :=
  ⟨max d.width 1, max d.height 1⟩

def toRect (d : Dimension) : Rect :=
  ⟨0, 0, min d.width Coord.hi, min d.height Coord.hi⟩

def pixelCount (d : Dimension) : Except Error Nat :=
  if d.width * d.height < wordLimit then .ok (d.width * d.height) else .error .bufferOverflow

def byteLen (d : Dimension) (bpp : Nat) : Except Error Nat := do
  let n ← d.pixelCount
  if n * bpp < wordLimit then .ok (n * bpp) else .error .bufferOverflow

def describe (d : Dimension) : String :=
  "Dimension \x7b width: " ++ toString d.width ++ ", height: " ++ toString d.height ++ " \x7d"

@[simp] theorem clamped_width (d : Dimension) : d.clamped.width = max d.width 1 := rfl
@[simp] theorem clamped_height (d : Dimension) : d.clamped.height = max d.height 1 := rfl

theorem clamped_clamped (d : Dimension) : d.clamped.clamped = d.clamped := by
  simp [clamped]

theorem byteLen_eq_ok {d : Dimension} {bpp n : Nat} (h : d.byteLen bpp = .ok n) :
    n = d.width * d.height * bpp ∧ n < wordLimit := by
  unfold byteLen pixelCount at h
  split at h
  · simp only [bind, Except.bind] at h
    split at h
    · cases h; exact ⟨rfl, by assumption⟩
    · cases h
  · cases h

end Dimension

namespace Rect

def ofSize (left top width height : Int) : Rect :=
  ⟨left, top, Coord.add left width, Coord.add top height⟩

def width (r : Rect) : Int := Coord.sub r.right r.left

def height (r : Rect) : Int := Coord.sub r.bottom r.top

def isEmpty (r : Rect) : Bool := decide (r.width ≤ 0) || decide (r.height ≤ 0)

def translate (r : Rect) (dx dy : Int) : Rect :=
  ⟨Coord.add r.left dx, Coord.add r.top dy, Coord.add r.right dx, Coord.add r.bottom dy⟩

def inter (r s : Rect) : Rect :=
  let left := max r.left s.left
  let top := max r.top s.top
  ⟨left, top, max (min r.right s.right) left, max (min r.bottom s.bottom) top⟩

def clampTo (r : Rect) (d : Dimension) : Rect := r.inter d.toRect

def dimension (r : Rect) : Dimension :=
  Dimension.clamped ⟨r.width.toNat, r.height.toNat⟩

def describe (r : Rect) : String :=
  "Rect \x7b left: " ++ toString r.left ++ ", top: " ++ toString r.top ++ ", right: " ++
    toString r.right ++ ", bottom: " ++ toString r.bottom ++ " \x7d"

@[simp] theorem inter_left (r s : Rect) : (r.inter s).left = max r.left s.left := rfl
@[simp] theorem inter_top (r s : Rect) : (r.inter s).top = max r.top s.top := rfl
@[simp] theorem inter_right (r s : Rect) :
    (r.inter s).right = max (min r.right s.right) (max r.left s.left) := rfl
@[simp] theorem inter_bottom (r s : Rect) :
    (r.inter s).bottom = max (min r.bottom s.bottom) (max r.top s.top) := rfl

end Rect

end Presenter
