import Mathlib
import Presenter.Proofs.SliceCopies
/-!
# Moving inside a buffer — in place, as if from a snapshot

`moveRect` moves the rows of the kept rectangle one at a time inside the buffer's own bytes, each
row's source read as the rows before it left the bytes. It picks the row order from the direction
of the move: bottom-up when the rows move down, top-down otherwise. Then no row reads a memory row
that a row moved before it wrote (`moveRows_down`, `moveRows_up`), and within one memory row the
slice copy reads before it writes. So the move is the copy from a snapshot of the buffer, whatever
the overlap (`moveRect_eq_copyFrom_self`).
-/

namespace Presenter

theorem span_before {W k x w y y' x' : Nat} (hx : x + w ≤ W) (hy : y < y') :
    y * (W * k) + x * k + w * k ≤ y' * (W * k) + x' * k :=
  calc y * (W * k) + x * k + w * k = y * (W * k) + (x + w) * k := by ring
    _ ≤ y * (W * k) + W * k := by gcongr
    _ = (y + 1) * (W * k) := by ring
    _ ≤ y' * (W * k) := Nat.mul_le_mul_right _ hy
    _ ≤ y' * (W * k) + x' * k := Nat.le_add_right _ _

namespace PixelBuffer

/-! ## Rows moved in place -/

section Block

-- A block of `h` rows of `w` pixels, `bpp` bytes each, moved inside a `W × H` memory: row `r` is
-- read at row `sy0 + r`, column `sx0`, and written at row `y0 + r`, column `x0`.
variable {bytes : ByteArray} {W H bpp x0 y0 sx0 sy0 w h : Nat}

theorem block_rows_inside (hsize : bytes.size = W * bpp * H) (hx : x0 + w ≤ W) (hy : y0 + h ≤ H) :
    ∀ r < h, (y0 + r) * (W * bpp) + x0 * bpp + w * bpp ≤ bytes.size :=
  fun r hr => hsize ▸ span_le (by omega) hx

theorem block_rows_apart (hx : x0 + w ≤ W) :
    PiecesApart (List.range h) (w * bpp) fun r => (y0 + r) * (W * bpp) + x0 * bpp :=
  List.pairwise_lt_range.imp fun hlt => .inl (span_before hx (by omega))

/-- **Moving a block down, bottom-up, copies it from a snapshot**: each row reads a memory row
above every row written before it. -/
theorem moveRows_down (hsize : bytes.size = W * bpp * H) (hx : x0 + w ≤ W) (hy : y0 + h ≤ H)
    (hsx : sx0 + w ≤ W) (hsy : sy0 + h ≤ H) (hdown : sy0 < y0) :
    moveRows bytes (List.range h).reverse (w * bpp) (fun r => (sy0 + r) * (W * bpp) + sx0 * bpp)
        (fun r => (y0 + r) * (W * bpp) + x0 * bpp) =
      copyRows bytes bytes h (w * bpp) (fun r => (sy0 + r) * (W * bpp) + sx0 * bpp)
        (fun r => (y0 + r) * (W * bpp) + x0 * bpp) := by
  have hd := block_rows_inside hsize hx hy
  have hs := block_rows_inside hsize hsx hsy
  have hread : (List.range h).reverse.Pairwise fun r r' =>
      (y0 + r) * (W * bpp) + x0 * bpp + w * bpp ≤ (sy0 + r') * (W * bpp) + sx0 * bpp ∨
        (sy0 + r') * (W * bpp) + sx0 * bpp + w * bpp ≤ (y0 + r) * (W * bpp) + x0 * bpp := by
    rw [List.pairwise_reverse]
    exact List.pairwise_lt_range.imp fun hlt => .inr (span_before hsx (by omega))
  rw [moveRows_eq_copyPieces _ (fun r hr => hd r (by simpa using hr)) (fun r hr => hs r (by simpa using hr))
    hread, copyRows_eq_copyPieces]
  exact copyPieces_perm (List.reverse_perm _) (fun r hr => hd r (by simpa using hr))
    (fun r hr => hs r (by simpa using hr)) (List.pairwise_reverse.2 ((block_rows_apart hx).imp Or.symm))

/-- **Moving a block up or along a row, top-down, copies it from a snapshot**: each row reads a
memory row at or below every row written before it, and its own row's slice before writing it. -/
theorem moveRows_up (hsize : bytes.size = W * bpp * H) (hx : x0 + w ≤ W) (hy : y0 + h ≤ H)
    (hsx : sx0 + w ≤ W) (hsy : sy0 + h ≤ H) (hup : y0 ≤ sy0) :
    moveRows bytes (List.range h) (w * bpp) (fun r => (sy0 + r) * (W * bpp) + sx0 * bpp)
        (fun r => (y0 + r) * (W * bpp) + x0 * bpp) =
      copyRows bytes bytes h (w * bpp) (fun r => (sy0 + r) * (W * bpp) + sx0 * bpp)
        (fun r => (y0 + r) * (W * bpp) + x0 * bpp) := by
  have hd := block_rows_inside hsize hx hy
  have hs := block_rows_inside hsize hsx hsy
  refine moveRows_eq_copyPieces _ (fun r hr => hd r (List.mem_range.1 hr))
    (fun r hr => hs r (List.mem_range.1 hr)) ?_
  exact List.pairwise_lt_range.imp fun hlt => .inl (span_before hx (by omega))

end Block

/-! ## The move of a buffer -/

variable {b : PixelBuffer} {D : Rect} {sx sy : Int}

theorem moveRect_of_nonempty (hox : Coord.lo < sx - D.left) (hoy : Coord.lo < sy - D.top)
    (hT : (transferRect D b.dimension b.dimension (sx - D.left) (sy - D.top)).isEmpty = false) :
    let T := transferRect D b.dimension b.dimension (sx - D.left) (sy - D.top)
    b.moveRect D sx sy = b.modifyBytes fun bytes =>
      moveRows bytes (if T.top + (sy - D.top) < T.top then (List.range T.height.toNat).reverse
          else List.range T.height.toNat) (T.width.toNat * b.bytesPerPixel)
        (fun r => ((T.top + (sy - D.top)).toNat + r) * b.bytesPerRow +
          (T.left + (sx - D.left)).toNat * b.bytesPerPixel)
        (fun r => (T.top.toNat + r) * b.bytesPerRow + T.left.toNat * b.bytesPerPixel) := by
  intro T
  simp only [moveRect, clip, clipPair_eq, if_neg (not_or.2 ⟨not_le.2 hox, not_le.2 hoy⟩), hT]
  rfl

theorem modifyBytes_congr {f g : ByteArray → ByteArray} (h : ∀ bs, b.bytes = .ok bs → f bs = g bs) :
    b.modifyBytes f = b.modifyBytes g := by
  unfold modifyBytes
  split
  · rfl
  · split <;> rename_i hst
    · rfl
    · rw [h _ (by rw [bytes, hst])]
    · rw [h _ (by rw [bytes, hst])]

/-- **Moving an area inside a buffer is copying it from a snapshot of the buffer**, whatever the
overlap. -/
theorem moveRect_eq_copyFrom_self (b : PixelBuffer) (D : Rect) (sx sy : Int) (hb : b.Full)
    (hmem : b.hasBuffer = true) : b.moveRect D sx sy = b.copyFrom D b sx sy := by
  by_cases hhalt : sx - D.left ≤ Coord.lo ∨ sy - D.top ≤ Coord.lo
  · simp only [moveRect, copyFrom, sameFormat, clip, clipPair_eq, if_pos hhalt]
    rfl
  cases hT : (transferRect D b.dimension b.dimension (sx - D.left) (sy - D.top)).isEmpty
  case true =>
    -- no pixel to move: the cut keeps nothing, for the move as for the copy
    simp only [moveRect, copyFrom, sameFormat, clip, clipPair_eq, if_neg hhalt, hT]
    rfl
  case false =>
    simp only [not_or, not_le] at hhalt
    obtain ⟨bs, hbs⟩ := bytes_of_hasBuffer hmem
    rw [moveRect_of_nonempty hhalt.1 hhalt.2 hT, copyFrom_of_nonempty rfl hhalt.1 hhalt.2 hT, hbs,
      liftError_ok]
    refine modifyBytes_congr fun bs' hbs' => ?_
    rw [hbs] at hbs'
    cases hbs'
    obtain ⟨-, -, -, -, -, -, ht, -, -, hto, -, -⟩ := transferRect_bounds hT
    obtain ⟨hx, hy, hsx, hsy⟩ := transferRect_block hT
    set T := transferRect D b.dimension b.dimension (sx - D.left) (sy - D.top)
    have hsize : bs.size = b.dimension.width * b.bytesPerPixel * b.dimension.height := hb bs hbs
    split_ifs with hdown
    · exact moveRows_down hsize hx hy hsx hsy (by omega)
    · exact moveRows_up hsize hx hy hsx hsy (by omega)

/-- Moving a column of four pixels down by one row, onto itself, is the copy from its snapshot. -/
theorem move_column_down_is_copy :
    let b : PixelBuffer := ⟨.bgra32, ⟨1, 4⟩, .owned ⟨#[1, 0, 0, 0, 2, 0, 0, 0, 3, 0, 0, 0, 4, 0, 0, 0]⟩⟩
    b.Full ∧ b.hasBuffer = true ∧ b.moveRect ⟨0, 1, 1, 4⟩ 0 0 = b.copyFrom ⟨0, 1, 1, 4⟩ b 0 0 :=
  have hfull : PixelBuffer.Full
      ⟨.bgra32, ⟨1, 4⟩, .owned ⟨#[1, 0, 0, 0, 2, 0, 0, 0, 3, 0, 0, 0, 4, 0, 0, 0]⟩⟩ := fun bs h => by
    cases h
    rfl
  ⟨hfull, rfl, moveRect_eq_copyFrom_self _ ⟨0, 1, 1, 4⟩ 0 0 hfull rfl⟩

end PixelBuffer

end Presenter
