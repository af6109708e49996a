import Presenter.PixelBuffer.Clip
/-!
# Transfers between buffers — copy, overlay, move, compare

Every transfer sends the source area starting at `(sx, sy)` to a destination rectangle and is
cut by `clipPair` to the part inside both buffers. Buffers of different formats are refused
before anything else. When nothing survives the cut, nothing happens and no memory is needed.

* `copyFrom` copies the surviving rows.
* `overlay` copies only the pixels whose bit is set in a mask of one bit per pixel of the whole
  destination rectangle, most significant bit first, each row padded to whole bytes; a mask too
  short for the rectangle is refused. Each row of the mask is cut as a slice before its bits are
  read, and the program stops where a cut or a read falls past its slice.
* `moveRect` moves an area inside one buffer, row by row in place, in the row order that
  reads each source row before a move overwrites it.
* `cmpFrom` tells whether the surviving area equals its source.
-/

namespace Presenter

namespace PixelBuffer

def sameFormat (a b : PixelBuffer) : Except Stop Unit :=
  if a.format = b.format then .ok () else .error (.error .formatMismatch)

def clip (dstRect : Rect) (dstExt : Dimension) (sx sy : Int) (srcExt : Dimension) :
    Except Stop (Option (Rect × Int × Int)) :=
  (clipPair dstRect dstExt sx sy srcExt).mapError .halt

def copyRows (src dst : ByteArray) (rows len : Nat) (s d : Nat → Nat) : ByteArray :=
  (List.range rows).foldl (fun acc r => src.copySlice (s r) acc (d r) len) dst

/-- Copies the source area starting at `(sx, sy)` into `dstRect`, cut to both buffers. -/
def copyFrom (b : PixelBuffer) (dstRect : Rect) (src : PixelBuffer) (sx sy : Int) :
    Except Stop PixelBuffer := do
  sameFormat b src
  match ← clip dstRect b.dimension sx sy src.dimension with
  | none => pure b
  | some (dst, sx, sy) =>
    let bpp := b.bytesPerPixel
    let srcBytes ← liftError src.bytes
    b.modifyBytes fun bytes =>
      copyRows srcBytes bytes dst.height.toNat (dst.width.toNat * bpp)
        (fun r => (sy.toNat + r) * src.bytesPerRow + sx.toNat * bpp)
        (fun r => (dst.top.toNat + r) * b.bytesPerRow + dst.left.toNat * bpp)

def copyFromAll (b src : PixelBuffer) : Except Stop PixelBuffer :=
  b.copyFrom b.dimension.toRect src 0 0

def maskRow (mask : ByteArray) (stride row : Nat) : Except Halt ByteArray :=
  let start := row * stride
  if mask.size < start then .error (.sliceStart start mask.size)
  else if mask.size - start < stride then .error (.sliceEnd stride (mask.size - start))
  else .ok (mask.extract start (start + stride))

def byteAt (bytes : ByteArray) (i : Nat) : Except Halt UInt8 :=
  if h : i < bytes.size then .ok (bytes.get i h) else .error (.indexOutOfBounds bytes.size i)

/-- Pixels of `bpp` bytes copied from `src` into `dst` where their mask bit is set, row by row:
row `row` reads row `my + row` of a mask of `stride` bytes a row, and pixel `col` of it reads bit
`mx + col`, most significant bit first; the pixel is copied from `s row col` to `d row col`. -/
def copyMasked (src dst mask : ByteArray) (stride mx my w h bpp : Nat) (s d : Nat → Nat → Nat) :
    Except Halt ByteArray :=
  (List.range h).foldlM (fun acc row => do
    let rowBits ← maskRow mask stride (my + row)
    (List.range w).foldlM (fun acc col => do
      let bit := mx + col
      let byte ← byteAt rowBits (bit / 8)
      return if byte &&& (0x80 >>> (bit % 8)).toUInt8 = 0 then acc
        else src.copySlice (s row col) acc (d row col) bpp) acc)
    dst

/-- Like `copyFrom`, but only pixels whose mask bit is set are copied. Mask bits are counted
from the corner of the uncut `dstRect`. -/
def overlay (b : PixelBuffer) (dstRect : Rect) (src : PixelBuffer) (sx sy : Int)
    (mask : ByteArray) : Except Stop PixelBuffer := do
  sameFormat b src
  if dstRect.isEmpty then return b
  let maskStride := (dstRect.width.toNat + 7) / 8
  if mask.size < maskStride * dstRect.height.toNat then throw (.error .bufferOverflow)
  match ← clip dstRect b.dimension sx sy src.dimension with
  | none => pure b
  | some (dst, sx, sy) =>
    let bpp := b.bytesPerPixel
    let mx := dst.left - dstRect.left
    let my := dst.top - dstRect.top
    if ¬ Coord.Fits mx ∨ ¬ Coord.Fits my then throw (.halt .subtractOverflow)
    let srcBytes ← liftError src.bytes
    b.modifyBytesM fun bytes =>
      copyMasked srcBytes bytes mask maskStride mx.toNat my.toNat dst.width.toNat dst.height.toNat bpp
        (fun row col => (sy.toNat + row) * src.bytesPerRow + (sx.toNat + col) * bpp)
        (fun row col => (dst.top.toNat + row) * b.bytesPerRow + (dst.left.toNat + col) * bpp)

def moveRows (bytes : ByteArray) (rows : List Nat) (len : Nat) (s d : Nat → Nat) : ByteArray :=
  rows.foldl (fun acc r => acc.copySlice (s r) acc (d r) len) bytes

/-- Moves the area starting at `(sx, sy)` to `dstRect` inside the buffer, row by row in place.
Moving down walks the rows bottom-up, so that a source row is read before it is overwritten. -/
def moveRect (b : PixelBuffer) (dstRect : Rect) (sx sy : Int) : Except Stop PixelBuffer := do
  match ← clip dstRect b.dimension sx sy b.dimension with
  | none => pure b
  | some (dst, sx, sy) =>
    let bpp := b.bytesPerPixel
    let rows := if sy < dst.top then (List.range dst.height.toNat).reverse
      else List.range dst.height.toNat
    b.modifyBytes fun bytes =>
      moveRows bytes rows (dst.width.toNat * bpp)
        (fun r => (sy.toNat + r) * b.bytesPerRow + sx.toNat * bpp)
        (fun r => (dst.top.toNat + r) * b.bytesPerRow + dst.left.toNat * bpp)

/-- Whether the surviving part of `dstRect` equals the source area starting at `(sx, sy)`;
true when nothing survives the cut. -/
def cmpFrom (b : PixelBuffer) (dstRect : Rect) (src : PixelBuffer) (sx sy : Int) :
    Except Stop Bool := do
  sameFormat b src
  match ← clip dstRect b.dimension sx sy src.dimension with
  | none => pure true
  | some (dst, sx, sy) =>
    let bpp := b.bytesPerPixel
    let len := dst.width.toNat * bpp
    let dstBytes ← liftError b.bytes
    let srcBytes ← liftError src.bytes
    pure ((List.range dst.height.toNat).all fun r =>
      let d := (dst.top.toNat + r) * b.bytesPerRow + dst.left.toNat * bpp
      let s := (sy.toNat + r) * src.bytesPerRow + sx.toNat * bpp
      decide ((dstBytes.extract d (d + len)).data = (srcBytes.extract s (s + len)).data))

end PixelBuffer

end Presenter
