import Presenter.Geometry
/-!
# Pixel formats — packed true-colour layouts

A `PixelFormat` says how many bits a pixel takes, in which byte order it is stored, and for
each of red, green and blue the largest channel value and its bit position. Colours given with
eight bits per channel are scaled to a channel's range and shifted into place (`packRgb`); a
shift that leaves the 32-bit word gives zero, and bits shifted past the top are lost.

Native backends accept one shape only: 32 bits per pixel with every channel inside the word
(`validateForBackend`).
-/

namespace Presenter

/-- Pixel layout: bits per pixel, colour depth, byte order, and per-channel maximum and shift. -/
structure PixelFormat where
  bitsPerPixel : Nat
  colorDepth : Nat
  bigEndian : Bool
  redMax : Nat
  greenMax : Nat
  blueMax : Nat
  redShift : Nat
  greenShift : Nat
  blueShift : Nat
  deriving DecidableEq, Repr

namespace PixelFormat

def bgra32 : PixelFormat :=
  ⟨32, 24, false, 255, 255, 255, 16, 8, 0⟩

instance : Inhabited PixelFormat := ⟨bgra32⟩

def bytesPerPixel (f : PixelFormat) : Nat := (f.bitsPerPixel + 7) / 8

def channel (value max shift : Nat) : Nat :=
  if shift < 32 then (value * max / 255 * Nat.pow 2 shift) % Nat.pow 2 32 else 0

def packRgb (f : PixelFormat) (red green blue : Nat) : Nat :=
  channel red f.redMax f.redShift ||| channel green f.greenMax f.greenShift |||
    channel blue f.blueMax f.blueShift

def channelFits (max shift : Nat) : Bool :=
  decide (shift < 32) && decide (max * Nat.pow 2 shift < Nat.pow 2 32)

/-- Native backends take 32 bits per pixel with every channel inside the word. -/
def validateForBackend (f : PixelFormat) : Except Error Unit :=
  if f.bitsPerPixel ≠ 32 then
    .error (.invalidConfig s!"backends require 32 bits per pixel, got {f.bitsPerPixel}")
  else if channelFits f.redMax f.redShift && channelFits f.greenMax f.greenShift &&
      channelFits f.blueMax f.blueShift then
    .ok ()
  else
    .error (.invalidConfig "colour channels do not fit in 32 bits")

/-- The structural text of a format, fields in declaration order. -/
def describe (f : PixelFormat) : String :=
  "PixelFormat \x7b bits_per_pixel: " ++ toString f.bitsPerPixel ++
    ", color_depth: " ++ toString f.colorDepth ++
    ", big_endian: " ++ toString f.bigEndian ++
    ", red_max: " ++ toString f.redMax ++ ", green_max: " ++ toString f.greenMax ++
    ", blue_max: " ++ toString f.blueMax ++ ", red_shift: " ++ toString f.redShift ++
    ", green_shift: " ++ toString f.greenShift ++ ", blue_shift: " ++ toString f.blueShift ++
    " \x7d"

theorem channel_lt (value max shift : Nat) : channel value max shift < Nat.pow 2 32 := by
  unfold channel
  split
  · exact Nat.mod_lt _ (by decide)
  · decide

theorem bytesPerPixel_bgra32 : bgra32.bytesPerPixel = 4 := rfl

end PixelFormat

end Presenter
