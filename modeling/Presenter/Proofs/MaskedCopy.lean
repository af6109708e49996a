import Mathlib
import Presenter.Proofs.CompareRegion
/-!
# Masked copy — the pixels an overlay copies

An overlay copies the pixels of a transfer whose bit is set in a mask of one bit per pixel of
`D`, rows padded to whole bytes and addressed from `D`'s corner (`maskBit`). A row cut or read past
its slice stops the program (`copyMasked_stops`); a mask reaching every pixel copies exactly the
pixels whose bit is set (`overlay_copies`), and a mask as long as the check asks does, unless a side
of `D` exceeds a coordinate (`maskReaches_of_fits`). `overlay_outcome` puts these together.
-/

namespace Presenter

/-! ## Folds that may stop -/

section Folds

variable {ε α β : Type} {f : β → α → Except ε β}

theorem foldlM_except_ok (g : β → α → β) : ∀ (l : List α) (init : β),
    (∀ x ∈ l, ∀ acc, f acc x = .ok (g acc x)) → l.foldlM f init = .ok (l.foldl g init)
  | [], _, _ => rfl
  | x :: l, init, h => by
    rw [List.foldlM_cons, h x List.mem_cons_self init, List.foldl_cons]
    exact foldlM_except_ok g l _ fun y hy => h y (List.mem_cons_of_mem x hy)

theorem foldlM_except_error_step : ∀ (l : List α) (init : β) (e : ε),
    l.foldlM f init = .error e → ∃ x ∈ l, ∃ acc, f acc x = .error e
  | [], _, _, h => by cases h
  | x :: l, init, e, h => by
    rw [List.foldlM_cons] at h
    cases hfx : f init x with
    | error e' =>
      rw [hfx] at h
      cases h
      exact ⟨x, List.mem_cons_self, init, hfx⟩
    | ok acc =>
      rw [hfx] at h
      obtain ⟨y, hy, acc', hy'⟩ := foldlM_except_error_step l acc e h
      exact ⟨y, List.mem_cons_of_mem x hy, acc', hy'⟩

theorem foldlM_except_stops : ∀ (l : List α) (init : β), ∀ x ∈ l, (∀ acc, ∃ e, f acc x = .error e) →
    ∃ e, l.foldlM f init = .error e
  | [], _, x, hx, _ => absurd hx List.not_mem_nil
  | y :: l, init, x, hx, hstop => by
    rw [List.foldlM_cons]
    cases hfy : f init y with
    | error e => exact ⟨e, rfl⟩
    | ok acc =>
      rcases List.mem_cons.1 hx with rfl | hx
      · -- the stopping step is the first: it cannot have returned
        obtain ⟨e, he⟩ := hstop init
        rw [hfy] at he
        cases he
      · exact foldlM_except_stops l acc x hx hstop

end Folds

/-! ## Reading the mask -/

/-- The program stopped on a slice cut or read past its end. -/
def Halt.PastSlice : Halt → Prop
  | .sliceStart .. | .sliceEnd .. | .indexOutOfBounds .. => True
  | _ => False

/-- Bytes of one mask row of a rectangle: one bit per pixel of the whole rectangle, rounded up to
whole bytes. -/
def Rect.maskStride (D : Rect) : Nat := (D.width.toNat + 7) / 8

/-- Bit `bit` of row `row` of a mask of `stride` bytes a row, most significant bit first; unset
past the mask's end. -/
def maskBit (mask : ByteArray) (stride row bit : Nat) : Bool :=
  match mask.data[row * stride + bit / 8]? with
  | some byte => byte.toNat.testBit (7 - bit % 8)
  | none => false

/-- The mask reaches pixel `(x, y)` of `D`: its row lies inside the mask and its bit inside its
row. -/
def MaskReaches (mask : ByteArray) (D : Rect) (x y : Int) : Prop :=
  ((y - D.top).toNat + 1) * D.maskStride ≤ mask.size ∧ (x - D.left).toNat / 8 < D.maskStride

theorem maskBit_of_getElem? {mask : ByteArray} {stride row bit : Nat} {byte : UInt8}
    (h : mask.data[row * stride + bit / 8]? = some byte) :
    maskBit mask stride row bit = byte.toNat.testBit (7 - bit % 8) := by
  rw [maskBit, h]

theorem maskBit_eq_zero_iff (byte : UInt8) {j : Nat} (hj : j < 8) :
    byte &&& (0x80 >>> j).toUInt8 = 0 ↔ byte.toNat.testBit (7 - j) = false := by
  -- the mask of bit `j`, counted from the most significant, is the power `2 ^ (7 - j)`
  have hpow : (0x80 >>> j).toUInt8.toNat = 2 ^ (7 - j) := by
    interval_cases j <;> rfl
  rw [← UInt8.toNat_inj, UInt8.toNat_and, hpow, Nat.and_two_pow, UInt8.toNat_zero]
  cases byte.toNat.testBit (7 - j) <;> simp

namespace PixelBuffer

variable {mask : ByteArray} {stride row : Nat}

theorem maskRow_ok (h : (row + 1) * stride ≤ mask.size) :
    maskRow mask stride row = .ok (mask.extract (row * stride) (row * stride + stride)) := by
  rw [add_one_mul] at h
  rw [maskRow, if_neg (by omega), if_neg (by omega)]

theorem maskRow_stops (h : mask.size < (row + 1) * stride) :
    ∃ e, maskRow mask stride row = .error e ∧ e.PastSlice := by
  rw [add_one_mul] at h
  simp only [maskRow]
  split_ifs
  · exact ⟨_, rfl, trivial⟩
  · exact ⟨_, rfl, trivial⟩
  · omega

theorem maskRow_error {e : Halt} (h : maskRow mask stride row = .error e) : e.PastSlice := by
  simp only [maskRow] at h
  split_ifs at h <;> cases h <;> trivial

theorem byteAt_extract {start i : Nat} (hend : start + stride ≤ mask.size) (hi : i < stride) :
    ∃ byte, mask.data[start + i]? = some byte ∧ byteAt (mask.extract start (start + stride)) i = .ok byte := by
  have hsize : (mask.extract start (start + stride)).size = stride := by
    rw [ByteArray.size_extract]
    omega
  refine ⟨_, ?_, dif_pos (by rw [hsize]; exact hi)⟩
  simp only [ByteArray.get, ByteArray.data_extract, Array.getElem_extract]
  exact Array.getElem?_eq_getElem (by simp only [ByteArray.size_data]; omega)

theorem byteAt_error {bytes : ByteArray} {i : Nat} {e : Halt} (h : byteAt bytes i = .error e) : e.PastSlice := by
  unfold byteAt at h
  split at h <;> cases h
  trivial

theorem maskRow_size {rowBits : ByteArray} (h : maskRow mask stride row = .ok rowBits) :
    rowBits.size = stride := by
  simp only [maskRow] at h
  split_ifs at h with h₁ h₂
  cases h
  rw [ByteArray.size_extract]
  omega

theorem byteAt_of_le {bytes : ByteArray} {i : Nat} (h : bytes.size ≤ i) :
    byteAt bytes i = .error (.indexOutOfBounds bytes.size i) := by
  rw [byteAt, dif_neg (by omega)]

/-! ## The masked copy -/

section Masked

variable {src dst : ByteArray} {mx my w h bpp : Nat} {s d : Nat → Nat → Nat}

/-- **A masked copy whose mask reaches every pixel copies the pixels whose bit is set**, one
after another in row order. -/
theorem copyMasked_eq (hrows : ∀ r < h, (my + r + 1) * stride ≤ mask.size)
    (hcols : ∀ c < w, (mx + c) / 8 < stride) :
    copyMasked src dst mask stride mx my w h bpp s d =
      .ok (copyPieces src dst ((List.range h ×ˢ List.range w).filter fun p => maskBit mask stride (my + p.1) (mx + p.2))
        bpp (fun p => s p.1 p.2) (fun p => d p.1 p.2)) := by
  unfold copyMasked
  rw [foldlM_except_ok (fun acc r => (List.range w).foldl (fun acc c =>
    if maskBit mask stride (my + r) (mx + c) then src.copySlice (s r c) acc (d r c) bpp else acc) acc)]
  · -- the rows of pixels, each filtered by its bit, are the filtered pixels of the rectangle
    simp only [copyPieces, List.foldl_filter]
    show _ = Except.ok (List.foldl _ dst ((List.range h).flatMap fun r => (List.range w).map (Prod.mk r)))
    rw [List.foldl_flatMap]
    simp only [List.foldl_map]
  · intro r hr acc
    have hend : (my + r) * stride + stride ≤ mask.size := by
      rw [← add_one_mul]
      exact hrows r (List.mem_range.1 hr)
    rw [maskRow_ok (by rw [add_one_mul]; exact hend)]
    refine foldlM_except_ok _ _ _ fun c hc acc => ?_
    obtain ⟨byte, hbyte, hat⟩ := byteAt_extract hend (hcols c (List.mem_range.1 hc))
    dsimp only
    rw [hat]
    show Except.ok _ = Except.ok _
    rw [maskBit_of_getElem? hbyte]
    by_cases hz : byte &&& (0x80 >>> ((mx + c) % 8)).toUInt8 = 0
    · rw [if_pos hz, (maskBit_eq_zero_iff byte (Nat.mod_lt _ (by norm_num))).1 hz]
      rfl
    · rw [if_neg hz]
      rw [maskBit_eq_zero_iff byte (Nat.mod_lt _ (by norm_num)), Bool.not_eq_false] at hz
      rw [hz]
      rfl

/-- **A masked copy whose mask misses a row or a bit stops the program** on a slice cut or read
past its end, and it stops on nothing else. -/
theorem copyMasked_stops
    (hfault : (∃ r < h, mask.size < (my + r + 1) * stride) ∨ (0 < h ∧ ∃ c < w, stride ≤ (mx + c) / 8)) :
    ∃ e, copyMasked src dst mask stride mx my w h bpp s d = .error e ∧ e.PastSlice := by
  -- every stop is a stop of a row's cut or of a pixel's read
  have hpast : ∀ e, copyMasked src dst mask stride mx my w h bpp s d = .error e → e.PastSlice := by
    intro e he
    obtain ⟨r, -, acc, hrow⟩ := foldlM_except_error_step _ _ _ he
    cases hm : maskRow mask stride (my + r) with
    | error e' =>
      rw [hm] at hrow
      cases hrow
      exact maskRow_error hm
    | ok rowBits =>
      rw [hm] at hrow
      obtain ⟨c, -, acc', hcol⟩ := foldlM_except_error_step _ _ _ hrow
      cases hb : byteAt rowBits ((mx + c) / 8) with
      | error e'' =>
        simp only [hb] at hcol
        cases hcol
        exact byteAt_error hb
      | ok byte =>
        simp only [hb] at hcol
        cases hcol
  suffices hstops : ∃ e, copyMasked src dst mask stride mx my w h bpp s d = .error e by
    obtain ⟨e, he⟩ := hstops
    exact ⟨e, he, hpast e he⟩
  rcases hfault with ⟨r, hr, hshort⟩ | ⟨hh, c, hc, hwide⟩
  · -- the cut of row `r` stops, whatever the rows before it wrote
    refine foldlM_except_stops _ _ r (List.mem_range.2 hr) fun acc => ?_
    obtain ⟨e, he, -⟩ := maskRow_stops hshort
    exact ⟨e, by rw [he]; rfl⟩
  · -- the first row reads bit `mx + c`, past its slice
    refine foldlM_except_stops _ _ 0 (List.mem_range.2 hh) fun acc => ?_
    cases hm : maskRow mask stride (my + 0) with
    | error e => exact ⟨e, rfl⟩
    | ok rowBits =>
      have hsize := maskRow_size hm
      exact foldlM_except_stops (List.range w) acc c (List.mem_range.2 hc) fun acc' =>
        ⟨Halt.indexOutOfBounds rowBits.size ((mx + c) / 8), by
          simp only [byteAt_of_le (show rowBits.size ≤ (mx + c) / 8 by omega)]
          rfl⟩

end Masked

/-! ## Copying the kept pixels of a block -/

theorem pixel_pieces_apart {W bpp x0 y0 w : Nat} (hx : x0 + w ≤ W) {l : List (Nat × Nat)} (hl : l.Nodup)
    (hcol : ∀ p ∈ l, p.2 < w) : PiecesApart l bpp fun p => (y0 + p.1) * (W * bpp) + (x0 + p.2) * bpp := by
  refine hl.pairwise_of_forall_ne fun p hp q hq hne => ?_
  dsimp only
  have hp2 := hcol p hp
  have hq2 := hcol q hq
  rcases lt_trichotomy p.1 q.1 with hlt | heq | hgt
  · have hbefore := @span_before W bpp (x0 + p.2) 1 (y0 + p.1) (y0 + q.1) (x0 + q.2) (by omega) (by omega)
    rw [one_mul] at hbefore
    exact .inl hbefore
  · -- one row: the columns differ
    have hc : p.2 ≠ q.2 := fun h => hne (Prod.ext heq h)
    rw [heq]
    rcases lt_or_gt_of_ne hc with hlt | hgt
    · have hcols : (x0 + p.2) * bpp + bpp ≤ (x0 + q.2) * bpp := by
        rw [← add_one_mul]
        exact Nat.mul_le_mul_right _ (by omega)
      exact .inl (by omega)
    · have hcols : (x0 + q.2) * bpp + bpp ≤ (x0 + p.2) * bpp := by
        rw [← add_one_mul]
        exact Nat.mul_le_mul_right _ (by omega)
      exact .inr (by omega)
  · have hbefore := @span_before W bpp (x0 + q.2) 1 (y0 + q.1) (y0 + p.1) (x0 + p.2) (by omega) (by omega)
    rw [one_mul] at hbefore
    exact .inr hbefore

theorem copyPieces_block {src dst : ByteArray} {W H Ws Hs bpp x0 y0 sx0 sy0 w h : Nat}
    (hdst : dst.size = W * bpp * H) (hsrc : src.size = Ws * bpp * Hs)
    (hx : x0 + w ≤ W) (hy : y0 + h ≤ H) (hsx : sx0 + w ≤ Ws) (hsy : sy0 + h ≤ Hs) (keep : Nat × Nat → Bool) :
    let out := copyPieces src dst ((List.range h ×ˢ List.range w).filter keep) bpp
      (fun p => (sy0 + p.1) * (Ws * bpp) + (sx0 + p.2) * bpp) (fun p => (y0 + p.1) * (W * bpp) + (x0 + p.2) * bpp)
    (∀ c < w, ∀ r < h, keep (r, c) = true → ∀ k < bpp, out.data[(y0 + r) * (W * bpp) + (x0 + c) * bpp + k]? =
      src.data[(sy0 + r) * (Ws * bpp) + (sx0 + c) * bpp + k]?) ∧
    (∀ i, (∀ c < w, ∀ r < h, keep (r, c) = true → ∀ k < bpp, i ≠ (y0 + r) * (W * bpp) + (x0 + c) * bpp + k) →
      out.data[i]? = dst.data[i]?) ∧ out.size = dst.size := by
  intro out
  have hmem : ∀ p, p ∈ (List.range h ×ˢ List.range w).filter keep ↔ p.1 < h ∧ p.2 < w ∧ keep p = true := by
    rintro ⟨r, c⟩
    simp only [List.mem_filter, List.mem_product, List.mem_range, and_assoc]
  have hd : ∀ p ∈ (List.range h ×ˢ List.range w).filter keep, (y0 + p.1) * (W * bpp) + (x0 + p.2) * bpp + bpp ≤ dst.size :=
    fun p hp => by
      have hspan := @span_le W H bpp (x0 + p.2) (y0 + p.1) 1 (by have := (hmem p).1 hp; omega)
        (by have := (hmem p).1 hp; omega)
      rw [one_mul] at hspan
      rw [hdst]
      exact hspan
  have hs : ∀ p ∈ (List.range h ×ˢ List.range w).filter keep, (sy0 + p.1) * (Ws * bpp) + (sx0 + p.2) * bpp + bpp ≤ src.size :=
    fun p hp => by
      have hspan := @span_le Ws Hs bpp (sx0 + p.2) (sy0 + p.1) 1 (by have := (hmem p).1 hp; omega)
        (by have := (hmem p).1 hp; omega)
      rw [one_mul] at hspan
      rw [hsrc]
      exact hspan
  have hapart := @pixel_pieces_apart W bpp x0 y0 w hx _
    ((List.nodup_range.product List.nodup_range).filter keep) fun p hp => ((hmem p).1 hp).2.1
  refine ⟨fun c hc r hr hkeep k hk => ?_, fun i hi => ?_, copyPieces_size hd⟩
  · exact getElem?_copyPieces_piece _ dst hd hs hapart (r, c) ((hmem _).2 ⟨hr, hc, hkeep⟩) k hk
  · -- a byte inside a kept pixel is one of its bytes
    refine getElem?_copyPieces_of_outside _ dst hd hs i fun p hp => ?_
    obtain ⟨hr, hc, hkeep⟩ := (hmem p).1 hp
    by_contra hin
    exact hi p.2 hc p.1 hr hkeep (i - ((y0 + p.1) * (W * bpp) + (x0 + p.2) * bpp)) (by omega) (by omega)

/-! ## The overlay -/

theorem transferRect_inside {D : Rect} {dstExt srcExt : Dimension} {ox oy : Int} :
    D.left ≤ (transferRect D dstExt srcExt ox oy).left ∧ (transferRect D dstExt srcExt ox oy).right ≤ D.right ∧
      D.top ≤ (transferRect D dstExt srcExt ox oy).top ∧ (transferRect D dstExt srcExt ox oy).bottom ≤ D.bottom :=
  ⟨(le_max_left _ _).trans (le_max_left _ _), (min_le_left _ _).trans (min_le_left _ _),
    (le_max_left _ _).trans (le_max_left _ _), (min_le_left _ _).trans (min_le_left _ _)⟩

variable {dst src : PixelBuffer} {D : Rect} {sx sy : Int}

theorem modifyBytesM_ok (f : ByteArray → ByteArray) (b : PixelBuffer) :
    b.modifyBytesM (fun bs => .ok (f bs)) = b.modifyBytes f := by
  unfold modifyBytesM modifyBytes
  split
  · rfl
  · split <;> rfl

theorem overlay_of_nonempty (heq : dst.format = src.format) (hD : D.isEmpty = false)
    (hmask : D.maskStride * D.height.toNat ≤ mask.size) (hox : Coord.lo < sx - D.left)
    (hoy : Coord.lo < sy - D.top)
    (hT : (transferRect D dst.dimension src.dimension (sx - D.left) (sy - D.top)).isEmpty = false)
    (hmx : Coord.Fits ((transferRect D dst.dimension src.dimension (sx - D.left) (sy - D.top)).left - D.left))
    (hmy : Coord.Fits ((transferRect D dst.dimension src.dimension (sx - D.left) (sy - D.top)).top - D.top)) :
    let T := transferRect D dst.dimension src.dimension (sx - D.left) (sy - D.top)
    dst.overlay D src sx sy mask = (liftError src.bytes).bind fun sb => dst.modifyBytesM fun bytes =>
      copyMasked sb bytes mask D.maskStride (T.left - D.left).toNat (T.top - D.top).toNat T.width.toNat
        T.height.toNat dst.bytesPerPixel
        (fun row col => ((T.top + (sy - D.top)).toNat + row) * src.bytesPerRow +
          ((T.left + (sx - D.left)).toNat + col) * dst.bytesPerPixel)
        (fun row col => (T.top.toNat + row) * dst.bytesPerRow + (T.left.toNat + col) * dst.bytesPerPixel) := by
  intro T
  have hmask' : ¬ mask.size < (D.width.toNat + 7) / 8 * D.height.toNat := not_lt.2 hmask
  simp only [overlay, sameFormat, if_pos heq, hD, clip, clipPair_eq, if_neg hmask',
    if_neg (not_or.2 ⟨not_le.2 hox, not_le.2 hoy⟩), hT, Bool.false_eq_true, ↓reduceIte, Except.mapError,
    bind, Except.bind, if_neg (not_or.2 ⟨not_not.2 hmx, not_not.2 hmy⟩)]
  rfl

/-- **An overlay whose mask reaches every pixel of the transfer copies exactly the pixels whose bit
is set.** -/
theorem overlay_copies (hdst : dst.Full) (hsrc : src.Full) (heq : dst.format = src.format)
    (hD : D.isEmpty = false) (hmask : D.maskStride * D.height.toNat ≤ mask.size)
    (hox : Coord.lo < sx - D.left) (hoy : Coord.lo < sy - D.top)
    (hT : (transferRect D dst.dimension src.dimension (sx - D.left) (sy - D.top)).isEmpty = false)
    (hmx : Coord.Fits ((transferRect D dst.dimension src.dimension (sx - D.left) (sy - D.top)).left - D.left))
    (hmy : Coord.Fits ((transferRect D dst.dimension src.dimension (sx - D.left) (sy - D.top)).top - D.top))
    (hreach : ∀ x y : Nat, InTransfer D dst.dimension src.dimension (sx - D.left) (sy - D.top) x y →
      MaskReaches mask D x y)
    {db sb : ByteArray} (hdb : dst.bytes = .ok db) (hsb : src.bytes = .ok sb)
    (hfits : dst.bytesPerRow * dst.dimension.height < wordLimit) :
    ∃ out, dst.overlay D src sx sy mask = .ok out ∧
      dst.CopiedFrom src out (fun x y => InTransfer D dst.dimension src.dimension (sx - D.left) (sy - D.top) x y ∧
        maskBit mask D.maskStride (y - D.top).toNat (x - D.left).toNat = true) (sx - D.left) (sy - D.top) := by
  obtain ⟨hl, hlr, hr, hlo, hro, hw, ht, htb, hb, hto, hbo, hh⟩ := transferRect_bounds hT
  obtain ⟨hx, hy, hsx, hsy⟩ := transferRect_block hT
  obtain ⟨hDl, -, hDt, -⟩ := @transferRect_inside D dst.dimension src.dimension (sx - D.left) (sy - D.top)
  have hbpp : src.bytesPerPixel = dst.bytesPerPixel := by simp only [bytesPerPixel, heq]
  have hrow : src.bytesPerRow = src.dimension.width * dst.bytesPerPixel := by rw [bytesPerRow, hbpp]
  rw [overlay_of_nonempty heq hD hmask hox hoy hT hmx hmy, hsb, liftError_ok]
  simp only [Except.bind, hrow]
  rw [forall_inTransfer_iff hT] at hreach
  set T := transferRect D dst.dimension src.dimension (sx - D.left) (sy - D.top)
  -- the mask reaches every row and every column of the rectangle
  have hrows : ∀ r < T.height.toNat, ((T.top - D.top).toNat + r + 1) * D.maskStride ≤ mask.size := by
    intro r hr
    have hreached := (hreach r hr 0 (by omega)).1
    rwa [toNat_natAdd_sub r ht hDt] at hreached
  have hcols : ∀ c < T.width.toNat, ((T.left - D.left).toNat + c) / 8 < D.maskStride := by
    intro c hc
    have hreached := (hreach 0 (by omega) c hc).2
    rwa [toNat_natAdd_sub c hl hDl] at hreached
  simp only [copyMasked_eq hrows hcols, modifyBytesM_ok]
  have hsize : dst.bufferSize = .ok (dst.bytesPerRow * dst.dimension.height) := by
    simp [bufferSize, wordMul, hfits]
  obtain ⟨out, hmod, hbytes⟩ := modifyBytes_of_bytes _ hsize hdb
  refine ⟨out, hmod, ?_⟩
  -- the kept pixels of the transfer's rectangle, as a block of both memories
  have hsb' : sb.size = src.dimension.width * dst.bytesPerPixel * src.dimension.height := by
    rw [hsrc sb hsb, hbpp]
  obtain ⟨hpix, hrest, hsize'⟩ := copyPieces_block (hdst db hdb) hsb' hx hy hsx hsy
    fun p => maskBit mask D.maskStride ((T.top - D.top).toNat + p.1) ((T.left - D.left).toNat + p.2)
  -- a pixel of the transfer is kept exactly when its bit, read from the corner of `D`, is set
  have hkeep : ∀ r c : Nat, maskBit mask D.maskStride ((((T.top.toNat + r : Nat) : Int) - D.top).toNat)
      ((((T.left.toNat + c : Nat) : Int) - D.left).toNat) =
        maskBit mask D.maskStride ((T.top - D.top).toNat + r) ((T.left - D.left).toNat + c) := by
    intro r c
    rw [toNat_natAdd_sub r ht hDt, toNat_natAdd_sub c hl hDl]
  have hcopied : ∀ x y : Nat, InTransfer D dst.dimension src.dimension (sx - D.left) (sy - D.top) x y →
      maskBit mask D.maskStride (y - D.top).toNat (x - D.left).toNat = true → ∀ k < dst.bytesPerPixel,
        (copyPieces sb db ((List.range T.height.toNat ×ˢ List.range T.width.toNat).filter fun p =>
            maskBit mask D.maskStride ((T.top - D.top).toNat + p.1) ((T.left - D.left).toNat + p.2))
          dst.bytesPerPixel
          (fun p => ((T.top + (sy - D.top)).toNat + p.1) * (src.dimension.width * dst.bytesPerPixel) +
            ((T.left + (sx - D.left)).toNat + p.2) * dst.bytesPerPixel)
          (fun p => (T.top.toNat + p.1) * dst.bytesPerRow + (T.left.toNat + p.2) * dst.bytesPerPixel)).data[
            y * dst.bytesPerRow + x * dst.bytesPerPixel + k]? =
          sb.data[(y + (sy - D.top)).toNat * src.bytesPerRow + (x + (sx - D.left)).toNat * dst.bytesPerPixel + k]? := by
    rw [forall_inTransfer_iff hT]
    intro r hr c hc hbit k hk
    rw [hkeep] at hbit
    rw [toNat_natAdd_add r ht hto, toNat_natAdd_add c hl hlo, hrow]
    exact hpix c hc r hr hbit k hk
  refine ⟨modifyBytes_sameLayout (fun bs hbs => ?_) hmod, db, sb, _, hdb, hsb, hbytes,
    fun x y hxy => hcopied x y hxy.1 hxy.2,
    fun i hi => hrest i fun c hc r hr hbit k hk => hi _ _ ⟨inTransfer_of_lt hT hr hc, ?_⟩ k hk⟩
  · rw [hdb] at hbs
    cases hbs
    exact hsize'
  · rwa [hkeep]

theorem modifyBytesM_error {b : PixelBuffer} {f : ByteArray → Except Halt ByteArray} {bs : ByteArray} {n : Nat}
    {e : Halt} (hn : b.bufferSize = .ok n) (hb : b.bytes = .ok bs) (hf : f bs = .error e) :
    b.modifyBytesM f = .error (.halt e) := by
  unfold modifyBytesM
  rw [hn]
  unfold bytes at hb
  split at hb <;> rename_i hst <;> simp only [Except.ok.injEq, reduceCtorEq] at hb
  all_goals
    subst hb
    simp only [hf]

theorem overlay_stops (heq : dst.format = src.format) (hD : D.isEmpty = false)
    (hmask : D.maskStride * D.height.toNat ≤ mask.size) (hox : Coord.lo < sx - D.left)
    (hoy : Coord.lo < sy - D.top)
    (hT : (transferRect D dst.dimension src.dimension (sx - D.left) (sy - D.top)).isEmpty = false)
    (hmx : Coord.Fits ((transferRect D dst.dimension src.dimension (sx - D.left) (sy - D.top)).left - D.left))
    (hmy : Coord.Fits ((transferRect D dst.dimension src.dimension (sx - D.left) (sy - D.top)).top - D.top))
    (hmiss : ¬ ∀ x y : Nat, InTransfer D dst.dimension src.dimension (sx - D.left) (sy - D.top) x y →
      MaskReaches mask D x y)
    {db sb : ByteArray} (hdb : dst.bytes = .ok db) (hsb : src.bytes = .ok sb)
    (hfits : dst.bytesPerRow * dst.dimension.height < wordLimit) :
    ∃ e, dst.overlay D src sx sy mask = .error (.halt e) ∧ e.PastSlice := by
  obtain ⟨hl, hlr, hr, hlo, hro, hw, ht, htb, hb, hto, hbo, hh⟩ := transferRect_bounds hT
  obtain ⟨hDl, -, hDt, -⟩ := @transferRect_inside D dst.dimension src.dimension (sx - D.left) (sy - D.top)
  rw [overlay_of_nonempty heq hD hmask hox hoy hT hmx hmy, hsb, liftError_ok]
  rw [forall_inTransfer_iff hT] at hmiss
  set T := transferRect D dst.dimension src.dimension (sx - D.left) (sy - D.top)
  -- the pixel the mask misses misses its row, or its bit, which every row reads
  have hfault : (∃ r < T.height.toNat, mask.size < ((T.top - D.top).toNat + r + 1) * D.maskStride) ∨
      (0 < T.height.toNat ∧ ∃ c < T.width.toNat, D.maskStride ≤ ((T.left - D.left).toNat + c) / 8) := by
    simp only [not_forall, MaskReaches, not_and_or, not_le, not_lt] at hmiss
    obtain ⟨r, hr, c, hc, hmissed | hmissed⟩ := hmiss
    · rw [toNat_natAdd_sub r ht hDt] at hmissed
      exact .inl ⟨r, hr, hmissed⟩
    · rw [toNat_natAdd_sub c hl hDl] at hmissed
      exact .inr ⟨by omega, c, hc, hmissed⟩
  have hsize : dst.bufferSize = .ok (dst.bytesPerRow * dst.dimension.height) := by
    simp [bufferSize, wordMul, hfits]
  exact (copyMasked_stops hfault).imp fun e he => ⟨modifyBytesM_error hsize hdb he.1, he.2⟩

/-! ## Rectangles whose sides fit -/

theorem Rect.width_of_fits {D : Rect} (hlr : D.left < D.right) (hw : D.right - D.left ≤ Coord.hi) :
    D.width = D.right - D.left := by
  rw [Rect.width, Coord.sub_of_lo_lt (by unfold Coord.lo; omega)]
  exact min_eq_left hw

theorem Rect.height_of_fits {D : Rect} (htb : D.top < D.bottom) (hh : D.bottom - D.top ≤ Coord.hi) :
    D.height = D.bottom - D.top := by
  rw [Rect.height, Coord.sub_of_lo_lt (by unfold Coord.lo; omega)]
  exact min_eq_left hh

/-- **A mask as long as the check asks reaches every pixel of a rectangle whose sides fit.** -/
theorem maskReaches_of_fits (hw : D.right - D.left ≤ Coord.hi) (hh : D.bottom - D.top ≤ Coord.hi)
    (hmask : D.maskStride * D.height.toNat ≤ mask.size) {x y : Int} (hxy : D.Contains x y) :
    MaskReaches mask D x y := by
  obtain ⟨hx1, hx2, hy1, hy2⟩ := hxy
  have hwidth := Rect.width_of_fits (by omega) hw
  have hheight := Rect.height_of_fits (by omega) hh
  refine ⟨?_, ?_⟩
  · -- the rows up to `y`'s are rows of the rectangle
    calc ((y - D.top).toNat + 1) * D.maskStride ≤ D.height.toNat * D.maskStride :=
          Nat.mul_le_mul_right _ (by rw [hheight]; omega)
      _ = D.maskStride * D.height.toNat := Nat.mul_comm _ _
      _ ≤ mask.size := hmask
  · unfold Rect.maskStride
    rw [hwidth]
    omega

theorem transfer_corner_fits {dstExt srcExt : Dimension} {ox oy : Int} (hw : D.right - D.left ≤ Coord.hi)
    (hh : D.bottom - D.top ≤ Coord.hi) (hT : (transferRect D dstExt srcExt ox oy).isEmpty = false) :
    Coord.Fits ((transferRect D dstExt srcExt ox oy).left - D.left) ∧
      Coord.Fits ((transferRect D dstExt srcExt ox oy).top - D.top) := by
  obtain ⟨-, hlr, -, -, -, -, -, htb, -, -, -, -⟩ := transferRect_bounds hT
  obtain ⟨hDl, hDr, hDt, hDb⟩ := @transferRect_inside D dstExt srcExt ox oy
  unfold Coord.Fits Coord.lo Coord.hi at *
  omega

/-! ## What an overlay does -/

/-- **What an overlay does, from every pair of buffers with whole memory, every rectangle, every
source origin and every mask.** -/
theorem overlay_outcome (dst src : PixelBuffer) (D : Rect) (sx sy : Int) (mask : ByteArray)
    (hdst : dst.Full) (hsrc : src.Full) :
    let T := transferRect D dst.dimension src.dimension (sx - D.left) (sy - D.top)
    (dst.format ≠ src.format → dst.overlay D src sx sy mask = .error (.error .formatMismatch)) ∧
    (dst.format = src.format →
      if D.isEmpty then dst.overlay D src sx sy mask = .ok dst
      else if mask.size < D.maskStride * D.height.toNat then
        dst.overlay D src sx sy mask = .error (.error .bufferOverflow)
      else if sx - D.left ≤ Coord.lo ∨ sy - D.top ≤ Coord.lo then
        dst.overlay D src sx sy mask = .error (.halt .negateOverflow)
      else if ¬ ∃ x y, InTransfer D dst.dimension src.dimension (sx - D.left) (sy - D.top) x y then
        dst.overlay D src sx sy mask = .ok dst
      else if ¬ Coord.Fits (T.left - D.left) ∨ ¬ Coord.Fits (T.top - D.top) then
        dst.overlay D src sx sy mask = .error (.halt .subtractOverflow)
      else if src.hasBuffer = false then dst.overlay D src sx sy mask = .error (.error .notInitialized)
      else if wordLimit ≤ dst.bytesPerRow * dst.dimension.height then
        dst.overlay D src sx sy mask = .error (.halt .multiplyOverflow)
      else if dst.hasBuffer = false then dst.overlay D src sx sy mask = .error (.error .notInitialized)
      else
        ((¬ ∀ x y : Nat, InTransfer D dst.dimension src.dimension (sx - D.left) (sy - D.top) x y →
            MaskReaches mask D x y) →
          ∃ e, dst.overlay D src sx sy mask = .error (.halt e) ∧ e.PastSlice) ∧
        ((∀ x y : Nat, InTransfer D dst.dimension src.dimension (sx - D.left) (sy - D.top) x y →
            MaskReaches mask D x y) →
          ∃ out, dst.overlay D src sx sy mask = .ok out ∧
            dst.CopiedFrom src out (fun x y => InTransfer D dst.dimension src.dimension (sx - D.left) (sy - D.top) x y ∧
              maskBit mask D.maskStride (y - D.top).toNat (x - D.left).toNat = true) (sx - D.left) (sy - D.top))) ∧
    (D.right - D.left ≤ Coord.hi → D.bottom - D.top ≤ Coord.hi → D.maskStride * D.height.toNat ≤ mask.size →
      ((∃ x y, InTransfer D dst.dimension src.dimension (sx - D.left) (sy - D.top) x y) →
        Coord.Fits (T.left - D.left) ∧ Coord.Fits (T.top - D.top)) ∧
      ∀ x y : Nat, InTransfer D dst.dimension src.dimension (sx - D.left) (sy - D.top) x y →
        MaskReaches mask D x y) := by
  dsimp only
  refine ⟨fun hne => ?_, fun heq => ?_, fun hw hh hmask => ⟨fun hsome => ?_,
    fun x y hxy => maskReaches_of_fits hw hh hmask hxy.1⟩⟩
  rotate_right
  · refine transfer_corner_fits hw hh ?_
    rw [← Bool.not_eq_true, transferRect_isEmpty_iff]
    exact not_not.2 hsome
  · simp only [overlay, sameFormat, if_neg hne]
    rfl
  by_cases hD : D.isEmpty
  · rw [if_pos hD]
    simp only [overlay, sameFormat, if_pos heq, hD]
    rfl
  rw [if_neg hD]
  have hD' : D.isEmpty = false := by simpa using hD
  by_cases hshort : mask.size < D.maskStride * D.height.toNat
  · rw [if_pos hshort]
    have hshort' : mask.size < (D.width.toNat + 7) / 8 * D.height.toNat := hshort
    simp only [overlay, sameFormat, if_pos heq, hD', if_pos hshort']
    rfl
  rw [if_neg hshort]
  have hshort' : ¬ mask.size < (D.width.toNat + 7) / 8 * D.height.toNat := hshort
  have hlong := not_lt.1 hshort
  by_cases hhalt : sx - D.left ≤ Coord.lo ∨ sy - D.top ≤ Coord.lo
  · rw [if_pos hhalt]
    simp only [overlay, sameFormat, if_pos heq, hD', if_neg hshort', clip, clipPair_eq, if_pos hhalt]
    rfl
  rw [if_neg hhalt]
  have hox := not_le.1 (not_or.1 hhalt).1
  have hoy := not_le.1 (not_or.1 hhalt).2
  by_cases hempty : ¬ ∃ x y, InTransfer D dst.dimension src.dimension (sx - D.left) (sy - D.top) x y
  · -- no pixel to write: the cut keeps nothing
    rw [if_pos hempty]
    have hT : (transferRect D dst.dimension src.dimension (sx - D.left) (sy - D.top)).isEmpty = true :=
      transferRect_isEmpty_iff.2 hempty
    simp only [overlay, sameFormat, if_pos heq, hD', if_neg hshort', clip, clipPair_eq, if_neg hhalt, hT]
    rfl
  rw [if_neg hempty]
  have hT : (transferRect D dst.dimension src.dimension (sx - D.left) (sy - D.top)).isEmpty = false := by
    rw [← Bool.not_eq_true, transferRect_isEmpty_iff]
    exact hempty
  by_cases hsub : ¬ Coord.Fits ((transferRect D dst.dimension src.dimension (sx - D.left) (sy - D.top)).left - D.left) ∨
      ¬ Coord.Fits ((transferRect D dst.dimension src.dimension (sx - D.left) (sy - D.top)).top - D.top)
  · rw [if_pos hsub]
    simp only [overlay, sameFormat, if_pos heq, hD', if_neg hshort', clip, clipPair_eq, if_neg hhalt, hT,
      Bool.false_eq_true, ↓reduceIte, Except.mapError, bind, Except.bind, if_pos hsub]
    rfl
  rw [if_neg hsub]
  have hmx := not_not.1 (not_or.1 hsub).1
  have hmy := not_not.1 (not_or.1 hsub).2
  rw [overlay_of_nonempty heq hD' hlong hox hoy hT hmx hmy]
  by_cases hnosrc : src.hasBuffer = false
  · rw [if_pos hnosrc, bytes_of_not_hasBuffer hnosrc]
    rfl
  rw [if_neg hnosrc]
  obtain ⟨sb, hsb⟩ := bytes_of_hasBuffer (Bool.not_eq_false _ ▸ hnosrc)
  by_cases hbig : wordLimit ≤ dst.bytesPerRow * dst.dimension.height
  · rw [if_pos hbig, hsb, liftError_ok]
    simp only [Except.bind, modifyBytesM, bufferSize, wordMul, if_neg (not_lt.2 hbig)]
  rw [if_neg hbig]
  by_cases hnodst : dst.hasBuffer = false
  · rw [if_pos hnodst, hsb, liftError_ok]
    simp only [Except.bind, modifyBytesM, bufferSize, wordMul, if_pos (not_le.1 hbig),
      storage_of_not_hasBuffer hnodst]
  rw [if_neg hnodst]
  obtain ⟨db, hdb⟩ := bytes_of_hasBuffer (Bool.not_eq_false _ ▸ hnodst)
  rw [← overlay_of_nonempty heq hD' hlong hox hoy hT hmx hmy]
  exact ⟨fun hmiss => overlay_stops heq hD' hlong hox hoy hT hmx hmy hmiss hdb hsb (not_le.1 hbig),
    fun hreach => overlay_copies hdst hsrc heq hD' hlong hox hoy hT hmx hmy hreach hdb hsb
      (not_le.1 hbig)⟩

/-- An overlay of a 2×2 buffer onto itself through a diagonal mask goes as the overlay theorem
says. -/
theorem overlay_diagonal_mask :
    let b : PixelBuffer := ⟨.bgra32, ⟨2, 2⟩, .owned ⟨Array.replicate 16 0⟩⟩
    let D : Rect := ⟨0, 0, 2, 2⟩
    let mask : ByteArray := ⟨#[0x80, 0x40]⟩
    let T := transferRect D b.dimension b.dimension (0 - D.left) (0 - D.top)
    b.Full ∧
    (b.format ≠ b.format → b.overlay D b 0 0 mask = .error (.error .formatMismatch)) ∧
    (b.format = b.format →
      if D.isEmpty then b.overlay D b 0 0 mask = .ok b
      else if mask.size < D.maskStride * D.height.toNat then
        b.overlay D b 0 0 mask = .error (.error .bufferOverflow)
      else if 0 - D.left ≤ Coord.lo ∨ 0 - D.top ≤ Coord.lo then
        b.overlay D b 0 0 mask = .error (.halt .negateOverflow)
      else if ¬ ∃ x y, InTransfer D b.dimension b.dimension (0 - D.left) (0 - D.top) x y then
        b.overlay D b 0 0 mask = .ok b
      else if ¬ Coord.Fits (T.left - D.left) ∨ ¬ Coord.Fits (T.top - D.top) then
        b.overlay D b 0 0 mask = .error (.halt .subtractOverflow)
      else if b.hasBuffer = false then b.overlay D b 0 0 mask = .error (.error .notInitialized)
      else if wordLimit ≤ b.bytesPerRow * b.dimension.height then
        b.overlay D b 0 0 mask = .error (.halt .multiplyOverflow)
      else if b.hasBuffer = false then b.overlay D b 0 0 mask = .error (.error .notInitialized)
      else
        ((¬ ∀ x y : Nat, InTransfer D b.dimension b.dimension (0 - D.left) (0 - D.top) x y →
            MaskReaches mask D x y) →
          ∃ e, b.overlay D b 0 0 mask = .error (.halt e) ∧ e.PastSlice) ∧
        ((∀ x y : Nat, InTransfer D b.dimension b.dimension (0 - D.left) (0 - D.top) x y →
            MaskReaches mask D x y) →
          ∃ out, b.overlay D b 0 0 mask = .ok out ∧
            b.CopiedFrom b out (fun x y => InTransfer D b.dimension b.dimension (0 - D.left) (0 - D.top) x y ∧
              maskBit mask D.maskStride (y - D.top).toNat (x - D.left).toNat = true) (0 - D.left) (0 - D.top))) ∧
    (D.right - D.left ≤ Coord.hi → D.bottom - D.top ≤ Coord.hi → D.maskStride * D.height.toNat ≤ mask.size →
      ((∃ x y, InTransfer D b.dimension b.dimension (0 - D.left) (0 - D.top) x y) →
        Coord.Fits (T.left - D.left) ∧ Coord.Fits (T.top - D.top)) ∧
      ∀ x y : Nat, InTransfer D b.dimension b.dimension (0 - D.left) (0 - D.top) x y →
        MaskReaches mask D x y) :=
  have hfull : PixelBuffer.Full ⟨.bgra32, ⟨2, 2⟩, .owned ⟨Array.replicate 16 0⟩⟩ := fun bs h => by
    cases h
    rfl
  ⟨hfull, overlay_outcome _ _ ⟨0, 0, 2, 2⟩ 0 0 ⟨#[0x80, 0x40]⟩ hfull hfull⟩

/-- **An overlay from the least source column stops the program, though it writes no pixel**, and
so does one through a rectangle wider than the greatest coordinate. -/
theorem overlay_stops_on_least_offset_or_wide_rectangle :
    let b : PixelBuffer := ⟨.bgra32, ⟨2, 2⟩, .owned ⟨Array.replicate 16 0⟩⟩
    let row : PixelBuffer := ⟨.bgra32, ⟨2, 1⟩, .owned ⟨Array.replicate 8 0⟩⟩
    let wide : Rect := ⟨Coord.lo + 1, 0, 2, 1⟩
    let ones : ByteArray := ⟨Array.replicate (Nat.pow 2 28) 0xff⟩
    (¬ ∃ x y, InTransfer ⟨0, 0, 2, 2⟩ b.dimension b.dimension (Coord.lo - 0) (0 - 0) x y) ∧
      b.overlay ⟨0, 0, 2, 2⟩ b Coord.lo 0 ⟨#[0xff, 0xff]⟩ = .error (.halt .negateOverflow) ∧
      ¬ ones.size < wide.maskStride * wide.height.toNat ∧
      ∃ e, row.overlay wide row (Coord.lo + 1) 0 ones = .error (.halt e) ∧ e.PastSlice := by
  intro b row wide ones
  -- the mask's size, read off its array without building it
  have hsize : ones.size = Nat.pow 2 28 := by
    simp only [ones, ByteArray.size, Array.size_replicate]
  have hstride : wide.maskStride * wide.height.toNat = Nat.pow 2 28 := by decide +kernel
  -- pixel 1 of the row reads bit `2 ^ 31` of a mask row of `2 ^ 28` bytes
  have hmiss : ¬ ∀ x y : Nat, InTransfer wide row.dimension row.dimension (Coord.lo + 1 - wide.left)
      (0 - wide.top) x y → MaskReaches ones wide x y := by
    intro h
    have hpast : ¬ (((1 : Nat) : Int) - wide.left).toNat / 8 < wide.maskStride := by decide +kernel
    exact hpast (h 1 0 (by unfold InTransfer; decide +kernel)).2
  refine ⟨by decide +kernel, rfl, by omega, ?_⟩
  exact overlay_stops rfl (by decide +kernel) (by omega) (by decide +kernel) (by decide +kernel)
    (by decide +kernel) (by decide +kernel) (by decide +kernel) hmiss rfl rfl (by decide +kernel)

end PixelBuffer

end Presenter
