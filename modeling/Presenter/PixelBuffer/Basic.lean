import Presenter.PixelFormat
/-!
# Pixel buffers — a format, a size and maybe memory

A `PixelBuffer` has a pixel format, a size (each side at least one) and storage: none yet,
memory of its own, or the memory of a live backend, lent to it. Rows follow each other without
gaps, `bytesPerRow` bytes each, and the whole buffer is `bufferSize` bytes.

Sizes are machine words: the byte count of a buffer without memory can be too large for one, and
computing it then stops the program (`bufferSize`), as does computing the offset of a pixel
(`offsetOf`). Reading memory that is not there is refused with `notInitialized`; writing first
computes the size, then refuses (`modifyBytes`).
-/

namespace Presenter

/-- Where a buffer's pixels live. -/
inductive Storage where
  /-- No memory yet. -/
  | unbound
  /-- Memory of its own. -/
  | owned (bytes : ByteArray)
  /-- The memory of a live backend, allocation `id`, seen as the buffer's bytes. -/
  | bound (id : Nat) (bytes : ByteArray)

/-- A rectangular pixel store. -/
structure PixelBuffer where
  format : PixelFormat
  dimension : Dimension
  storage : Storage

namespace PixelBuffer

def new (format : PixelFormat) (dim : Dimension) : Except Error PixelBuffer :=
  let dim := dim.clamped
  match dim.byteLen format.bytesPerPixel with
  | .ok len => .ok ⟨format, dim, .owned ⟨Array.replicate len 0⟩⟩
  | .error e => .error e

def unbound (format : PixelFormat) (dim : Dimension) : PixelBuffer :=
  ⟨format, dim.clamped, .unbound⟩

def bytesPerPixel (b : PixelBuffer) : Nat := b.format.bytesPerPixel

def bytesPerRow (b : PixelBuffer) : Nat := b.dimension.width * b.bytesPerPixel

def hasBuffer (b : PixelBuffer) : Bool :=
  match b.storage with
  | .unbound => false
  | _ => true

def wordMul (a b : Nat) : Except Halt Nat :=
  if a * b < wordLimit then .ok (a * b) else .error .multiplyOverflow

def wordAdd (a b : Nat) : Except Halt Nat :=
  if a + b < wordLimit then .ok (a + b) else .error .addOverflow

def bufferSize (b : PixelBuffer) : Except Halt Nat :=
  wordMul b.bytesPerRow b.dimension.height

/-- Byte offset of pixel `(x, y)`; none outside the buffer. -/
def offsetOf (b : PixelBuffer) (x y : Int) : Except Halt (Option Nat) :=
  if x < 0 ∨ y < 0 ∨ b.dimension.width ≤ x ∨ b.dimension.height ≤ y then .ok none
  else do
    let rowStart ← wordMul y.toNat b.bytesPerRow
    let off ← wordAdd rowStart (x.toNat * b.bytesPerPixel)
    return some off

def ptrAt (b : PixelBuffer) (x y : Int) : Except Halt (Option Nat) := do
  match ← b.offsetOf x y with
  | none => return none
  | some off => return if b.hasBuffer then some off else none

def bytes (b : PixelBuffer) : Except Error ByteArray :=
  match b.storage with
  | .unbound => .error .notInitialized
  | .owned bs => .ok bs
  | .bound _ bs => .ok bs

/-- The buffer with its bytes changed by `f`. The size is computed first, so an oversized
buffer stops the program even without memory; then a buffer without memory is refused. -/
def modifyBytes (b : PixelBuffer) (f : ByteArray → ByteArray) : Except Stop PixelBuffer :=
  match b.bufferSize with
  | .error h => .error (.halt h)
  | .ok _ =>
    match b.storage with
    | .unbound => .error (.error .notInitialized)
    | .owned bs => .ok { b with storage := .owned (f bs) }
    | .bound id bs => .ok { b with storage := .bound id (f bs) }

/-- The buffer with its bytes changed by `f`, which may stop the program. The size and the memory
are checked first, as for `modifyBytes`. -/
def modifyBytesM (b : PixelBuffer) (f : ByteArray → Except Halt ByteArray) : Except Stop PixelBuffer :=
  match b.bufferSize with
  | .error h => .error (.halt h)
  | .ok _ =>
    match b.storage with
    | .unbound => .error (.error .notInitialized)
    | .owned bs =>
      match f bs with
      | .ok bs' => .ok { b with storage := .owned bs' }
      | .error h => .error (.halt h)
    | .bound id bs =>
      match f bs with
      | .ok bs' => .ok { b with storage := .bound id bs' }
      | .error h => .error (.halt h)

def encode (b : PixelBuffer) (color : Nat) : List UInt8 :=
  let k := min b.bytesPerPixel 4
  (List.range k).map fun i =>
    let byteIndex := if b.format.bigEndian then k - 1 - i else i
    UInt8.ofNat (color / Nat.pow 2 (8 * byteIndex) % 256)

def isEqualTo (a b : PixelBuffer) : Bool :=
  decide (a.format = b.format) && decide (a.dimension = b.dimension) &&
    match a.bytes, b.bytes with
    | .ok x, .ok y => decide (x.data = y.data)
    | _, _ => false

def storageName (b : PixelBuffer) : String :=
  match b.storage with
  | .unbound => "unbound"
  | .owned _ => "owned"
  | .bound _ _ => "bound"

def describe (b : PixelBuffer) : String :=
  "PixelBuffer \x7b pixel_format: " ++ b.format.describe ++ ", dimension: " ++
    b.dimension.describe ++ ", storage: \"" ++ b.storageName ++ "\" \x7d"

end PixelBuffer

end Presenter
