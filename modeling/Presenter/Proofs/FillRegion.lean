import Mathlib
import Presenter.Proofs.MaskedCopy
import Presenter.Proofs.CompositorPresents
/-!
# Filling a rectangle — the colour's bytes in every pixel of the part inside the buffer

A fill writes a colour into each pixel of the part of a rectangle inside the buffer, whose extent
is capped at the greatest coordinate. The first `k = min bpp 4` bytes of such a pixel get the
colour's `k` low bytes: least significant first, or most significant first in a big-endian
format. The pixel's further bytes, and every pixel outside the part, stay (`fillRect_writes`).
Read back in the buffer's byte order, a filled pixel is the colour modulo `2^(8k)`
(`valueOf_encode`). A format of no bytes per pixel makes every fill a no-op, and setting a colour
is filling the whole extent with it packed for the format (`fillRect_outcome`).

A fill writes each pixel's bytes one after another from the colour's bytes. So it is a copy of
pieces, all read from one source pixel (`foldl_putBytes`), and the pieces lemmas of slice copies
say which bytes it writes (`copyPieces_pixel_block`).
-/

namespace Presenter

/-! ## Byte order -/

/-- The `k` low bytes of `c`, least significant first. -/
def lowBytes (c k : Nat) : List UInt8 :=
  (List.range k).map fun i => UInt8.ofNat (c / 256 ^ i % 256)

theorem ofDigits_lowBytes (c k : Nat) :
    Nat.ofDigits 256 ((lowBytes c k).map UInt8.toNat) = c % 256 ^ k := by
  induction k with
  | zero => simp [lowBytes, Nat.mod_one]
  | succ k ih =>
    simp only [lowBytes, List.range_succ, List.map_append, List.map_cons, List.map_nil,
      Nat.ofDigits_append, Nat.ofDigits_singleton, List.length_map, List.length_range] at ih ⊢
    rw [ih, UInt8.toNat_ofNat', show (2 : Nat) ^ 8 = 256 by norm_num, Nat.mod_mod, Nat.mod_pow_succ]

namespace PixelBuffer

/-- The number a pixel's bytes stand for in the buffer's byte order: the first byte is the least
significant one, or the most significant one in a big-endian format. -/
def valueOf (b : PixelBuffer) (bytes : List UInt8) : Nat :=
  Nat.ofDigits 256 ((if b.format.bigEndian then bytes.reverse else bytes).map UInt8.toNat)

theorem length_encode (b : PixelBuffer) (c : Nat) : (b.encode c).length = min b.bytesPerPixel 4 := by
  simp [encode]

theorem getElem?_encode (b : PixelBuffer) (c : Nat) {j : Nat} (hj : j < min b.bytesPerPixel 4) :
    (b.encode c)[j]? = some (UInt8.ofNat
      (c / 2 ^ (8 * if b.format.bigEndian then min b.bytesPerPixel 4 - 1 - j else j) % 256)) := by
  simp [encode, List.getElem?_range hj]

theorem encode_inOrder (b : PixelBuffer) (c : Nat) :
    (if b.format.bigEndian then (b.encode c).reverse else b.encode c) =
      lowBytes c (min b.bytesPerPixel 4) := by
  refine List.ext_getElem? fun j => ?_
  rcases lt_or_ge j (min b.bytesPerPixel 4) with hj | hj
  · have hlow : (lowBytes c (min b.bytesPerPixel 4))[j]? = some (UInt8.ofNat (c / 256 ^ j % 256)) := by
      simp [lowBytes, List.getElem?_range hj]
    rw [hlow]
    -- a byte `8 i` bits up is the `i`-th base-256 digit
    have hpow : ∀ i : Nat, (2 : Nat) ^ (8 * i) = 256 ^ i := fun i => by rw [pow_mul]; norm_num
    split
    · rename_i hbe
      rw [List.getElem?_reverse (by rw [length_encode]; exact hj), length_encode,
        getElem?_encode b c (by omega), if_pos hbe, hpow, show min b.bytesPerPixel 4 - 1 -
          (min b.bytesPerPixel 4 - 1 - j) = j by omega]
    · rename_i hbe
      rw [getElem?_encode b c hj, if_neg hbe, hpow]
  · have hlen : (lowBytes c (min b.bytesPerPixel 4)).length = min b.bytesPerPixel 4 := by simp [lowBytes]
    have hnone : (lowBytes c (min b.bytesPerPixel 4))[j]? = none :=
      List.getElem?_eq_none (by rw [hlen]; exact hj)
    rw [hnone]
    split <;> exact List.getElem?_eq_none (by simp [length_encode, hj])

/-- **A stored colour reads back as the colour modulo `2^(8k)`**, `k` the bytes stored. -/
theorem valueOf_encode (b : PixelBuffer) (c : Nat) :
    b.valueOf (b.encode c) = c % 2 ^ (8 * min b.bytesPerPixel 4) := by
  rw [valueOf, encode_inOrder, ofDigits_lowBytes, pow_mul]
  norm_num

end PixelBuffer

/-! ## Writing bytes -/

theorem putBytes_getElem? : ∀ (px : List UInt8) (bs : ByteArray) (off i : Nat), off + px.length ≤ bs.size →
    (putBytes bs off px).data[i]? = if off ≤ i ∧ i < off + px.length then px[i - off]? else bs.data[i]?
  | [], bs, off, i, _ => by
    rw [if_neg (by simp only [List.length_nil, Nat.add_zero]; omega)]
    rfl
  | a :: rest, bs, off, i, h => by
    simp only [List.length_cons] at h
    have hset : (bs.set! off a).size = bs.size := ByteArray.size_set! bs off a
    rw [putBytes, putBytes_getElem? rest _ (off + 1) i (by omega)]
    -- the first byte lands at `off`, the rest after it
    have hfirst : (bs.set! off a).data[i]? = if off = i then some a else bs.data[i]? := by
      show (bs.data.set! off a)[i]? = _
      rw [Array.set!_eq_setIfInBounds, Array.getElem?_setIfInBounds]
      by_cases hoff : off = i
      · rw [if_pos hoff, if_pos hoff, if_pos (by rw [ByteArray.size_data]; omega)]
      · rw [if_neg hoff, if_neg hoff]
    rw [hfirst]
    by_cases hi : off + 1 ≤ i ∧ i < off + 1 + rest.length
    · rw [if_pos hi, if_pos (by simp; omega), show i - off = i - (off + 1) + 1 by omega,
        List.getElem?_cons_succ]
    · rw [if_neg hi]
      by_cases hoff : off = i
      · subst hoff
        simp
      · rw [if_neg hoff, if_neg (by simp; omega)]

theorem putBytes_eq_copySlice {bs : ByteArray} {off : Nat} {px : List UInt8} (h : off + px.length ≤ bs.size) :
    putBytes bs off px = (ByteArray.mk px.toArray).copySlice 0 bs off px.length := by
  refine ByteArray.ext (Array.ext_getElem? fun i => ?_)
  rw [putBytes_getElem? px bs off i h,
    ByteArray.copySlice_getElem? h (by simp [ByteArray.size]) i, Nat.zero_add]
  simp only [List.getElem?_toArray]

/-- **Writing one pixel's bytes at many places is copying pieces from that pixel.** -/
theorem foldl_putBytes {ι : Type} {px : List UInt8} {d : ι → Nat} : ∀ (l : List ι) (dst : ByteArray),
    (∀ p ∈ l, d p + px.length ≤ dst.size) →
    l.foldl (fun acc p => putBytes acc (d p) px) dst =
      copyPieces (ByteArray.mk px.toArray) dst l px.length (fun _ => 0) d
  | [], _, _ => rfl
  | p :: l, dst, hd => by
    have hp := hd p List.mem_cons_self
    rw [List.foldl_cons, putBytes_eq_copySlice hp, copyPieces_cons]
    exact foldl_putBytes l _ fun q hq => by
      rw [ByteArray.size_copySlice_of_le hp]
      exact hd q (List.mem_cons_of_mem p hq)

theorem List.foldl_product {α β γ : Type} (l₁ : List α) (l₂ : List β) (g : γ → α × β → γ) (init : γ) :
    (l₁ ×ˢ l₂).foldl g init = l₁.foldl (fun acc a => l₂.foldl (fun acc b => g acc (a, b)) acc) init := by
  show (l₁.flatMap fun a => l₂.map (a, ·)).foldl g init = _
  simp only [List.foldl_flatMap, List.foldl_map]

theorem Array.extract_toList_eq {a : Array UInt8} {off : Nat} {l : List UInt8} (h : off + l.length ≤ a.size)
    (hl : ∀ j < l.length, a[off + j]? = l[j]?) : (a.extract off (off + l.length)).toList = l := by
  refine List.ext_getElem? fun j => ?_
  rw [Array.getElem?_toList, Array.getElem?_extract]
  split
  · exact hl j (by omega)
  · exact (List.getElem?_eq_none (by omega)).symm

/-! ## The pixels a fill writes -/

theorem pixel_end_le {W H bpp x y : Nat} (hx : x < W) (hy : y < H) :
    y * (W * bpp) + x * bpp + bpp ≤ W * bpp * H := by
  have hspan := @span_le W H bpp x y 1 hy (by omega)
  rwa [one_mul] at hspan

theorem block_pixel_end_le {W H bpp x0 y0 w h k : Nat} (hx : x0 + w ≤ W) (hy : y0 + h ≤ H) (hk : k ≤ bpp)
    {p : Nat × Nat} (hp : p ∈ List.range h ×ˢ List.range w) :
    (y0 + p.1) * (W * bpp) + (x0 + p.2) * bpp + k ≤ W * bpp * H := by
  obtain ⟨hr, hc⟩ := List.mem_product.1 hp
  rw [List.mem_range] at hr hc
  exact (Nat.add_le_add_left hk _).trans (pixel_end_le (by omega) (by omega))

theorem writePieces_pixel_block {src : Nat × Nat → ByteArray} {dst : ByteArray} {W H bpp x0 y0 w h k : Nat}
    (hdst : dst.size = W * bpp * H) (hx : x0 + w ≤ W) (hy : y0 + h ≤ H) (hk : k ≤ bpp)
    (hsrc : ∀ p, k ≤ (src p).size) :
    let out := writePieces src dst (List.range h ×ˢ List.range w) k (fun _ => 0)
      (fun p => (y0 + p.1) * (W * bpp) + (x0 + p.2) * bpp)
    (∀ c < w, ∀ r < h, ∀ j < k,
      out.data[(y0 + r) * (W * bpp) + (x0 + c) * bpp + j]? = (src (r, c)).data[j]?) ∧
    (∀ i, (∀ c < w, ∀ r < h, ∀ j < k, i ≠ (y0 + r) * (W * bpp) + (x0 + c) * bpp + j) →
      out.data[i]? = dst.data[i]?) := by
  intro out
  have hmem : ∀ p, p ∈ List.range h ×ˢ List.range w ↔ p.1 < h ∧ p.2 < w := by
    rintro ⟨r, c⟩
    simp only [List.mem_product, List.mem_range]
  have hd : ∀ p ∈ List.range h ×ˢ List.range w,
      (y0 + p.1) * (W * bpp) + (x0 + p.2) * bpp + k ≤ dst.size :=
    fun _ hp => hdst ▸ block_pixel_end_le hx hy hk hp
  have hs : ∀ p ∈ List.range h ×ˢ List.range w, 0 + k ≤ (src p).size := fun p _ => by
    rw [Nat.zero_add]
    exact hsrc p
  -- pixels a whole pixel apart are further apart than their first bytes
  have hwhole := @PixelBuffer.pixel_pieces_apart W bpp x0 y0 w hx _
    (List.nodup_range.product List.nodup_range) fun p hp => ((hmem p).1 hp).2
  have hapart : PiecesApart (List.range h ×ˢ List.range w) k
      (fun p => (y0 + p.1) * (W * bpp) + (x0 + p.2) * bpp) :=
    List.Pairwise.imp (fun hpq => by dsimp only at hpq ⊢; omega) hwhole
  refine ⟨fun c hc r hr j hj => ?_, fun i hi => ?_⟩
  · have hpiece := getElem?_writePieces_piece _ dst hd hs hapart (r, c) ((hmem _).2 ⟨hr, hc⟩) j hj
    rwa [Nat.zero_add] at hpiece
  · refine getElem?_writePieces_of_outside _ dst hd hs i fun p hp => ?_
    obtain ⟨hr, hc⟩ := (hmem p).1 hp
    by_contra hin
    exact hi p.2 hc p.1 hr (i - ((y0 + p.1) * (W * bpp) + (x0 + p.2) * bpp)) (by omega) (by omega)

/-- **Writing a pixel's first bytes over a block writes exactly them**: each pixel of the block
gets the bytes of `px` as its first bytes; every other byte stays. -/
theorem copyPieces_pixel_block {px dst : ByteArray} {W H bpp x0 y0 w h : Nat}
    (hdst : dst.size = W * bpp * H) (hx : x0 + w ≤ W) (hy : y0 + h ≤ H) (hk : px.size ≤ bpp) :
    let out := copyPieces px dst (List.range h ×ˢ List.range w) px.size (fun _ => 0)
      (fun p => (y0 + p.1) * (W * bpp) + (x0 + p.2) * bpp)
    (∀ c < w, ∀ r < h, ∀ j < px.size,
      out.data[(y0 + r) * (W * bpp) + (x0 + c) * bpp + j]? = px.data[j]?) ∧
    (∀ i, (∀ c < w, ∀ r < h, ∀ j < px.size, i ≠ (y0 + r) * (W * bpp) + (x0 + c) * bpp + j) →
      out.data[i]? = dst.data[i]?) :=
  writePieces_pixel_block hdst hx hy hk fun _ => le_rfl

/-! ## The part of a rectangle inside a buffer -/

section Clamp

variable (R : Rect) (dim : Dimension)

theorem clampTo_corner_nonneg : 0 ≤ (R.clampTo dim).left ∧ 0 ≤ (R.clampTo dim).top := by
  simp only [Rect.clampTo, Rect.inter_left, Rect.inter_top, Dimension.toRect]
  omega

theorem contains_clampTo_iff (x y : Nat) :
    (R.clampTo dim).Contains x y ↔ R.Contains x y ∧ (x : Int) < min (dim.width : Int) Coord.hi ∧
      (y : Int) < min (dim.height : Int) Coord.hi := by
  rw [Rect.contains_clampTo]
  simp only [Rect.Contains, Dimension.toRect]
  omega

theorem clampTo_within (hne : (R.clampTo dim).isEmpty = false) :
    (R.clampTo dim).left.toNat + ((R.clampTo dim).right - (R.clampTo dim).left).toNat ≤ dim.width ∧
      (R.clampTo dim).top.toNat + ((R.clampTo dim).bottom - (R.clampTo dim).top).toNat ≤ dim.height := by
  rw [Rect.isEmpty_eq_false] at hne
  simp only [Rect.clampTo, Rect.inter_left, Rect.inter_top, Rect.inter_right, Rect.inter_bottom,
    Dimension.toRect] at hne ⊢
  omega

theorem forall_clampTo_iff {Q : Nat → Nat → Prop} :
    (∀ x y : Nat, (R.clampTo dim).Contains x y → Q x y) ↔
      ∀ c < ((R.clampTo dim).right - (R.clampTo dim).left).toNat,
        ∀ r < ((R.clampTo dim).bottom - (R.clampTo dim).top).toNat,
          Q ((R.clampTo dim).left.toNat + c) ((R.clampTo dim).top.toNat + r) := by
  obtain ⟨hl, ht⟩ := clampTo_corner_nonneg R dim
  generalize R.clampTo dim = T at hl ht ⊢
  constructor
  · intro h c hc r hr
    exact h _ _ (by simp only [Rect.Contains]; omega)
  · intro h x y hxy
    simp only [Rect.Contains] at hxy
    have hpix := h (x - T.left.toNat) (by omega) (y - T.top.toNat) (by omega)
    rwa [Nat.add_sub_cancel' (by omega), Nat.add_sub_cancel' (by omega)] at hpix

end Clamp

/-! ## Fills -/

namespace PixelBuffer

variable {b : PixelBuffer} {bs : ByteArray}

theorem fillRect_of_nonempty (R : Rect) (c : Nat) (hne : (R.clampTo b.dimension).isEmpty = false)
    (hbpp : b.bytesPerPixel ≠ 0) :
    let T := R.clampTo b.dimension
    b.fillRect R c = b.modifyBytes fun bytes =>
      (List.range (T.bottom - T.top).toNat ×ˢ List.range (T.right - T.left).toNat).foldl
        (fun acc p => putBytes acc ((T.top.toNat + p.1) * b.bytesPerRow + (T.left.toNat + p.2) * b.bytesPerPixel)
          (b.encode c)) bytes := by
  intro T
  simp only [fillRect, hne, hbpp, Bool.false_or, beq_iff_eq, if_false, List.foldl_product]
  rfl

theorem fillRect_of_skip {R : Rect} {c : Nat} (h : (R.clampTo b.dimension).isEmpty = true ∨ b.bytesPerPixel = 0) :
    b.fillRect R c = .ok b := by
  unfold fillRect
  rcases h with h | h <;> simp [h]

/-- **A fill of a buffer with whole memory writes the colour's bytes into the first bytes of each
pixel of the part of the rectangle inside the buffer, and leaves every other byte.** -/
theorem fillRect_writes (hfull : b.Full) (hbs : b.bytes = .ok bs)
    (hfit : b.bytesPerRow * b.dimension.height < wordLimit) (R : Rect) (c : Nat) :
    ∃ b', b.fillRect R c = .ok b' ∧ b.SameLayout b' ∧ ∃ bs', b'.bytes = .ok bs' ∧
      (∀ x y : Nat, (R.clampTo b.dimension).Contains x y → ∀ j < min b.bytesPerPixel 4,
        bs'.data[y * b.bytesPerRow + x * b.bytesPerPixel + j]? = (b.encode c)[j]?) ∧
      (∀ i, (∀ x y : Nat, (R.clampTo b.dimension).Contains x y → ∀ j < min b.bytesPerPixel 4,
        i ≠ y * b.bytesPerRow + x * b.bytesPerPixel + j) → bs'.data[i]? = bs.data[i]?) := by
  by_cases hskip : (R.clampTo b.dimension).isEmpty = true ∨ b.bytesPerPixel = 0
  · -- nothing is written
    refine ⟨b, fillRect_of_skip hskip, .refl b, bs, hbs, fun x y hxy j hj => ?_, fun i _ => rfl⟩
    rcases hskip with hempty | hzero
    · exact absurd ⟨x, y, hxy⟩ ((Rect.isEmpty_iff _).1 hempty)
    · omega
  obtain ⟨hne, hbpp⟩ : (R.clampTo b.dimension).isEmpty = false ∧ b.bytesPerPixel ≠ 0 := by
    simpa only [not_or, Bool.not_eq_true] using hskip
  obtain ⟨hx, hy⟩ := clampTo_within R b.dimension hne
  have hsize : b.bufferSize = .ok (b.bytesPerRow * b.dimension.height) := by
    simp [bufferSize, wordMul, hfit]
  have hbsz : bs.size = b.dimension.width * b.bytesPerPixel * b.dimension.height := hfull bs hbs
  have hpx : (ByteArray.mk (b.encode c).toArray).size = min b.bytesPerPixel 4 := by
    simp [ByteArray.size, length_encode]
  obtain ⟨b', hmod, hbytes⟩ := modifyBytes_of_bytes _ hsize hbs
  have hfill : b.fillRect R c = .ok b' := by
    rw [fillRect_of_nonempty R c hne hbpp]
    exact hmod
  obtain ⟨hwritten, hkept⟩ := copyPieces_pixel_block hbsz hx hy (by rw [hpx]; omega)
  -- the pixels are written one after another, each inside the memory
  rw [foldl_putBytes _ bs fun _ hp => hbsz ▸ block_pixel_end_le hx hy (by rw [length_encode]; omega) hp]
    at hbytes
  refine ⟨b', hfill, fillRect_sameLayout hfill, _, hbytes,
    (forall_clampTo_iff R b.dimension).2 fun col hcol row hrow j hj => ?_,
    fun i hi => hkept i fun col hcol row hrow j hj =>
      (forall_clampTo_iff R b.dimension).1 hi col hcol row hrow j (by rw [hpx] at hj; exact hj)⟩
  exact (hwritten col hcol row hrow j (by rw [hpx]; exact hj)).trans List.getElem?_toArray

theorem extract_filled {bs' : ByteArray} {c off : Nat} (hend : off + min b.bytesPerPixel 4 ≤ bs'.size)
    (hpix : ∀ j < min b.bytesPerPixel 4, bs'.data[off + j]? = (b.encode c)[j]?) :
    (bs'.data.extract off (off + min b.bytesPerPixel 4)).toList = b.encode c := by
  rw [← length_encode b c] at hend hpix ⊢
  exact Array.extract_toList_eq hend hpix

/-- What fills do to a buffer whose memory is `bs`. -/
structure Fills (b : PixelBuffer) (bs : ByteArray) : Prop where
  /-- A fill answers. Each pixel of the part of its rectangle inside the extent, each side capped
  at the greatest coordinate, gets the colour's `k = min bpp 4` low bytes as its first bytes: least
  significant first, or most significant first in a big-endian format. Read back in that order
  the pixel is the colour modulo `2^(8k)`. Every other byte stays. -/
  writes : ∀ (R : Rect) (c : Nat), ∃ b', b.fillRect R c = .ok b' ∧ b.SameLayout b' ∧
    ∃ bs', b'.bytes = .ok bs' ∧
    (∀ x y : Nat, R.Contains x y → (x : Int) < min (b.dimension.width : Int) Coord.hi →
      (y : Int) < min (b.dimension.height : Int) Coord.hi →
      (∀ j < min b.bytesPerPixel 4, bs'.data[y * b.bytesPerRow + x * b.bytesPerPixel + j]? =
        some (UInt8.ofNat (c / 2 ^ (8 * if b.format.bigEndian then min b.bytesPerPixel 4 - 1 - j else j) % 256))) ∧
      b.valueOf (bs'.data.extract (y * b.bytesPerRow + x * b.bytesPerPixel)
        (y * b.bytesPerRow + x * b.bytesPerPixel + min b.bytesPerPixel 4)).toList =
          c % 2 ^ (8 * min b.bytesPerPixel 4)) ∧
    (∀ i, (∀ x y : Nat, R.Contains x y → (x : Int) < min (b.dimension.width : Int) Coord.hi →
      (y : Int) < min (b.dimension.height : Int) Coord.hi → ∀ j < min b.bytesPerPixel 4,
        i ≠ y * b.bytesPerRow + x * b.bytesPerPixel + j) → bs'.data[i]? = bs.data[i]?)
  /-- With no bytes a pixel, every fill changes nothing. -/
  noBytes : b.bytesPerPixel = 0 → ∀ (R : Rect) (c : Nat), b.fillRect R c = .ok b
  /-- Setting a colour fills the whole extent with it, packed for the format. -/
  setColor : ∀ red green blue : Nat,
    b.setColor red green blue = b.fillRect b.dimension.toRect (b.format.packRgb red green blue)

/-- **What a fill does, for every buffer with whole memory, every rectangle and every colour.** -/
theorem fillRect_outcome (b : PixelBuffer) (bs : ByteArray) (hbs : b.bytes = .ok bs) (hfull : b.Full)
    (hfit : bs.size < wordLimit) : b.Fills bs := by
  have hrow : b.bytesPerRow * b.dimension.height < wordLimit := by
    rw [hfull bs hbs] at hfit
    exact hfit
  refine ⟨fun R c => ?_, fun hzero R c => fillRect_of_skip (.inr hzero), fun _ _ _ => rfl⟩
  obtain ⟨b', hfill, hsame, bs', hbs', hpix, hkept⟩ := fillRect_writes hfull hbs hrow R c
  -- the pixels of the part are those of the rectangle inside the capped extent
  have hpart := contains_clampTo_iff R b.dimension
  refine ⟨b', hfill, hsame, bs', hbs', fun x y hR hx hy => ?_, fun i hi => hkept i fun x y hxy =>
    hi x y ((hpart x y).1 hxy).1 ((hpart x y).1 hxy).2.1 ((hpart x y).1 hxy).2.2⟩
  have hxy := (hpart x y).2 ⟨hR, hx, hy⟩
  refine ⟨fun j hj => (hpix x y hxy j hj).trans (getElem?_encode b c hj), ?_⟩
  -- the pixel lies inside the memory, which the fill kept as long
  have hsize : bs'.size = b.dimension.width * b.bytesPerPixel * b.dimension.height := by
    rw [(hsame.full hfull) bs' hbs', hsame.2.1, bytesPerPixel, bytesPerPixel, hsame.1]
  have hend : y * b.bytesPerRow + x * b.bytesPerPixel + min b.bytesPerPixel 4 ≤ bs'.size :=
    hsize ▸ (Nat.add_le_add_left (min_le_left _ _) _).trans (pixel_end_le (by omega) (by omega))
  rw [extract_filled hend (hpix x y hxy), valueOf_encode]

/-- A buffer of two by two pixels of three bytes, stored big-endian, fills as the fill theorem
says. -/
theorem big_endian_rgb_fills :
    let b : PixelBuffer := ⟨⟨24, 24, true, 255, 255, 255, 16, 8, 0⟩, ⟨2, 2⟩, .owned (zeroBytes 12)⟩
    b.bytes = .ok (zeroBytes 12) ∧ b.Full ∧ (zeroBytes 12).size < wordLimit ∧ b.Fills (zeroBytes 12) :=
  have hfull : PixelBuffer.Full ⟨⟨24, 24, true, 255, 255, 255, 16, 8, 0⟩, ⟨2, 2⟩, .owned (zeroBytes 12)⟩ :=
    fun bs h => by
      cases h
      rfl
  ⟨rfl, hfull, by decide, fillRect_outcome _ _ rfl hfull (by decide)⟩

end PixelBuffer

end Presenter
