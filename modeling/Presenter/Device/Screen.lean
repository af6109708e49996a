import Std.Data.TreeMap
import Presenter.Encoding.Digest
/-!
# Screen — the pixels shown on the desktop

The screen holds four bytes per point it has been given, keyed by the point's coordinates and
kept in order of `x`, then `y`. A point never written reads as four zero bytes (`pixelAt`).
Its digest folds, for each point in that order, the point's two coordinates as 32-bit
little-endian words and then its four bytes into the FNV-1a hash.
-/

namespace Presenter

/-- A point of the screen. -/
structure Point where
  x : Int
  y : Int
  deriving DecidableEq, Repr, Inhabited

instance : Ord Point := ⟨fun a b => (compare a.x b.x).then (compare a.y b.y)⟩

abbrev Screen := Std.TreeMap Point ByteArray

namespace Screen

def pixelAt (s : Screen) (p : Point) : ByteArray :=
  (s.get? p).getD (ByteArray.mk #[0, 0, 0, 0])

def entries (s : Screen) : List (Point × ByteArray) := s.toList

def digest (s : Screen) : UInt64 :=
  s.foldl (fun h p px => Fnv.extend (Fnv.extendWord (Fnv.extendWord h p.x) p.y) px) Fnv.basis

end Screen

end Presenter
