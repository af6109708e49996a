import Presenter.PixelBuffer.Basic
/-!
# Filling pixels with a colour

`fillRect` writes a colour into every pixel of the part of a rectangle inside the buffer: the
first `min bpp 4` bytes of each pixel get the colour's bytes in the buffer's byte order, and any
further bytes of the pixel stay. An empty part, or a format of zero bytes per pixel, changes
nothing and needs no memory. `setColor` fills the whole buffer with an RGB colour packed for the
buffer's format.
-/

namespace Presenter

def putBytes : ByteArray → Nat → List UInt8 → ByteArray
  | bs, _, [] => bs
  | bs, off, b :: rest => putBytes (bs.set! off b) (off + 1) rest

namespace PixelBuffer

/-- Each pixel of the part of `rect` inside the buffer gets the colour's bytes. -/
def fillRect (b : PixelBuffer) (rect : Rect) (color : Nat) : Except Stop PixelBuffer :=
  let rect := rect.clampTo b.dimension
  let bpp := b.bytesPerPixel
  if rect.isEmpty || bpp == 0 then .ok b
  else
    let stride := b.bytesPerRow
    let px := b.encode color
    b.modifyBytes fun bytes =>
      (List.range (rect.bottom - rect.top).toNat).foldl (fun acc r =>
        (List.range (rect.right - rect.left).toNat).foldl (fun acc c =>
          putBytes acc ((rect.top.toNat + r) * stride + (rect.left.toNat + c) * bpp) px) acc) bytes

def setColor (b : PixelBuffer) (red green blue : Nat) : Except Stop PixelBuffer :=
  b.fillRect b.dimension.toRect (b.format.packRgb red green blue)

end PixelBuffer

end Presenter
