import Presenter.PixelBuffer.Basic
/-!
# Clipping a transfer between two buffers

A transfer sends the source area starting at `(sx, sy)` to the destination rectangle `D`. Its
offset is `(sx - D.left, sy - D.top)`, saturated. `clipPair` cuts `D` to the destination's
extent, moves it by the offset, cuts it to the source's extent and moves it back, all with
saturating steps. What survives is the destination rectangle that is transferred and the
source origin matching it; nothing survives when it is empty.

Moving back negates the offset, which stops the program when the offset is the least
coordinate: its negation is no coordinate.
-/

namespace Presenter

/-- The surviving destination rectangle of a transfer and its source origin, if any. -/
def clipPair (dstRect : Rect) (dstExt : Dimension) (sx sy : Int) (srcExt : Dimension) :
    Except Halt (Option (Rect × Int × Int)) :=
  let dx := Coord.sub sx dstRect.left
  let dy := Coord.sub sy dstRect.top
  let dst := dstRect.clampTo dstExt
  let src := (dst.translate dx dy).clampTo srcExt
  if dx = Coord.lo ∨ dy = Coord.lo then .error .negateOverflow
  else
    let dst := src.translate (-dx) (-dy)
    if dst.isEmpty then .ok none else .ok (some (dst, src.left, src.top))

end Presenter
