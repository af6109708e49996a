import Mathlib
import Presenter.Proofs.MoveRegion
/-!
# Comparing a region — the pixels a compare reads

`cmpFrom` compares, row by row, the rectangle of pixels a copy with the same arguments would write
(`transferRect`) with the source pixels the copy would read. For buffers whose memory is whole, its
rows agree exactly when every pixel of the transfer holds the bytes of its source pixel
(`rowsEqual_transfer_iff`): the compare covers exactly the pixels the copy writes. So a copy that
finished is seen by the compare as done (`cmpFrom_of_copyFrom`). Like the copy, the compare cuts its
rectangle first, and an offset at or below the least coordinate stops the program, whether or not
any pixel is to be compared (`cmpFrom_outcome`).
-/

namespace Presenter

theorem forall_run_bytes_iff {w bpp a b : Nat} {Q : Nat → Nat → Prop} :
    (∀ j < w * bpp, Q (a + j) (b + j)) ↔ ∀ c < w, ∀ k < bpp, Q (a + c * bpp + k) (b + c * bpp + k) := by
  constructor
  · intro h c hc k hk
    have hj : c * bpp + k < w * bpp :=
      calc c * bpp + k < (c + 1) * bpp := by rw [add_one_mul]; omega
        _ ≤ w * bpp := by gcongr; omega
    simpa only [Nat.add_assoc] using h _ hj
  · intro h j hj
    have hbpp : 0 < bpp := Nat.pos_of_ne_zero fun h0 => by simp [h0] at hj
    have hpix := h (j / bpp) (Nat.div_lt_of_lt_mul (by rwa [mul_comm] at hj)) (j % bpp) (Nat.mod_lt j hbpp)
    rwa [Nat.add_assoc, Nat.add_assoc, Nat.div_add_mod'] at hpix

namespace PixelBuffer

/-! ## What a finished copy did -/

theorem SameLayout.full {b b' : PixelBuffer} (h : b.SameLayout b') (hb : b.Full) : b'.Full := by
  obtain ⟨hf, hd, hs⟩ := h
  intro bs' hbs'
  rcases b with ⟨f, dim, st⟩
  rcases b' with ⟨f', dim', st'⟩
  simp only at hf hd
  subst hf hd
  cases st <;> cases st' <;> simp_all [Storage.SameShape, bytes, Full, bytesPerPixel]

theorem modifyBytes_ok_cases {b b' : PixelBuffer} {f : ByteArray → ByteArray} (h : b.modifyBytes f = .ok b') :
    b.hasBuffer = true ∧ b.bytesPerRow * b.dimension.height < wordLimit := by
  unfold modifyBytes at h
  split at h
  · cases h
  · rename_i n hn
    have hfits : b.bytesPerRow * b.dimension.height < wordLimit := by
      by_contra hbig
      simp only [bufferSize, wordMul, if_neg hbig] at hn
      cases hn
    refine ⟨?_, hfits⟩
    unfold hasBuffer
    split at h <;> simp_all

variable {dst src out : PixelBuffer} {D : Rect} {sx sy : Int}

theorem copyFrom_ok_cases (h : dst.copyFrom D src sx sy = .ok out) :
    dst.format = src.format ∧ Coord.lo < sx - D.left ∧ Coord.lo < sy - D.top ∧
      ((transferRect D dst.dimension src.dimension (sx - D.left) (sy - D.top)).isEmpty = true → out = dst) ∧
      ((transferRect D dst.dimension src.dimension (sx - D.left) (sy - D.top)).isEmpty = false →
        src.hasBuffer = true ∧ dst.hasBuffer = true ∧ dst.bytesPerRow * dst.dimension.height < wordLimit) := by
  have heq : dst.format = src.format := by
    by_contra hne
    simp only [copyFrom, sameFormat, if_neg hne] at h
    cases h
  have hhalt : ¬ (sx - D.left ≤ Coord.lo ∨ sy - D.top ≤ Coord.lo) := by
    intro hhalt
    simp only [copyFrom, sameFormat, if_pos heq, clip, clipPair_eq, if_pos hhalt] at h
    cases h
  have hox := not_le.1 (not_or.1 hhalt).1
  have hoy := not_le.1 (not_or.1 hhalt).2
  refine ⟨heq, hox, hoy, fun hT => ?_, fun hT => ?_⟩
  · simp only [copyFrom, sameFormat, if_pos heq, clip, clipPair_eq, if_neg hhalt, hT] at h
    cases h
    rfl
  · rw [copyFrom_of_nonempty heq hox hoy hT] at h
    cases hsrc : src.hasBuffer
    · rw [bytes_of_not_hasBuffer hsrc] at h
      cases h
    · obtain ⟨sb, hsb⟩ := bytes_of_hasBuffer hsrc
      rw [hsb, liftError_ok] at h
      exact ⟨rfl, modifyBytes_ok_cases h⟩

/-! ## Comparing rows -/

/-- Whether rows `0 .. rows` of `len` bytes agree: row `r` of `a` at `d r` with row `r` of `b` at
`s r`. -/
def rowsEqual (a b : ByteArray) (rows len : Nat) (d s : Nat → Nat) : Bool :=
  (List.range rows).all fun r => decide ((a.extract (d r) (d r + len)).data = (b.extract (s r) (s r + len)).data)

theorem rowsEqual_iff {a b : ByteArray} {rows len : Nat} {d s : Nat → Nat}
    (hd : ∀ r < rows, d r + len ≤ a.size) (hs : ∀ r < rows, s r + len ≤ b.size) :
    rowsEqual a b rows len d s = true ↔ ∀ r < rows, ∀ j < len, a.data[d r + j]? = b.data[s r + j]? := by
  simp only [rowsEqual, List.all_eq_true, List.mem_range, decide_eq_true_eq, ByteArray.data_extract]
  exact forall₂_congr fun r hr => ByteArray.window_eq_iff (hd r hr) (hs r hr)

/-- Every pixel of `P` in `dst` holds the bytes of the pixel of `src` the offset `(ox, oy)` moves it
to. -/
def SamePixels (dst src : PixelBuffer) (P : Int → Int → Prop) (ox oy : Int) : Prop :=
  ∃ db sb, dst.bytes = .ok db ∧ src.bytes = .ok sb ∧
    ∀ x y : Nat, P x y → ∀ k < dst.bytesPerPixel,
      db.data[y * dst.bytesPerRow + x * dst.bytesPerPixel + k]? =
        sb.data[(y + oy).toNat * src.bytesPerRow + (x + ox).toNat * dst.bytesPerPixel + k]?

theorem cmpFrom_of_nonempty (heq : dst.format = src.format) (hox : Coord.lo < sx - D.left)
    (hoy : Coord.lo < sy - D.top)
    (hT : (transferRect D dst.dimension src.dimension (sx - D.left) (sy - D.top)).isEmpty = false) :
    let T := transferRect D dst.dimension src.dimension (sx - D.left) (sy - D.top)
    dst.cmpFrom D src sx sy = (liftError dst.bytes).bind fun db => (liftError src.bytes).bind fun sb =>
      .ok (rowsEqual db sb T.height.toNat (T.width.toNat * dst.bytesPerPixel)
        (fun r => (T.top.toNat + r) * dst.bytesPerRow + T.left.toNat * dst.bytesPerPixel)
        (fun r => ((T.top + (sy - D.top)).toNat + r) * src.bytesPerRow +
          (T.left + (sx - D.left)).toNat * dst.bytesPerPixel)) := by
  intro T
  simp only [cmpFrom, sameFormat, if_pos heq, clip, clipPair_eq,
    if_neg (not_or.2 ⟨not_le.2 hox, not_le.2 hoy⟩), hT]
  rfl

theorem cmpFrom_of_empty (heq : dst.format = src.format) (hox : Coord.lo < sx - D.left)
    (hoy : Coord.lo < sy - D.top)
    (hT : (transferRect D dst.dimension src.dimension (sx - D.left) (sy - D.top)).isEmpty = true) :
    dst.cmpFrom D src sx sy = .ok true := by
  simp only [cmpFrom, sameFormat, if_pos heq, clip, clipPair_eq,
    if_neg (not_or.2 ⟨not_le.2 hox, not_le.2 hoy⟩), hT]
  rfl

/-- **The rows a compare reads agree exactly when the pixels a copy writes match their source**,
for buffers whose memory is whole. -/
theorem rowsEqual_transfer_iff (hdst : dst.Full) (hsrc : src.Full) (heq : dst.format = src.format)
    (hT : (transferRect D dst.dimension src.dimension (sx - D.left) (sy - D.top)).isEmpty = false)
    {db sb : ByteArray} (hdb : dst.bytes = .ok db) (hsb : src.bytes = .ok sb) :
    let T := transferRect D dst.dimension src.dimension (sx - D.left) (sy - D.top)
    rowsEqual db sb T.height.toNat (T.width.toNat * dst.bytesPerPixel)
        (fun r => (T.top.toNat + r) * dst.bytesPerRow + T.left.toNat * dst.bytesPerPixel)
        (fun r => ((T.top + (sy - D.top)).toNat + r) * src.bytesPerRow +
          (T.left + (sx - D.left)).toNat * dst.bytesPerPixel) = true ↔
      dst.SamePixels src (InTransfer D dst.dimension src.dimension (sx - D.left) (sy - D.top))
        (sx - D.left) (sy - D.top) := by
  dsimp only
  obtain ⟨hl, -, -, hlo, -, -, ht, -, -, hto, -, -⟩ := transferRect_bounds hT
  obtain ⟨hx, hy, hsx, hsy⟩ := transferRect_block hT
  set T := transferRect D dst.dimension src.dimension (sx - D.left) (sy - D.top)
  have hbpp : src.bytesPerPixel = dst.bytesPerPixel := by simp only [bytesPerPixel, heq]
  have hsrow : src.bytesPerRow = src.dimension.width * dst.bytesPerPixel := by rw [bytesPerRow, hbpp]
  have hsb' : sb.size = src.dimension.width * dst.bytesPerPixel * src.dimension.height := by
    rw [hsrc sb hsb, hbpp]
  -- the pixels to match are the bytes already in hand
  have hsame : dst.SamePixels src (InTransfer D dst.dimension src.dimension (sx - D.left) (sy - D.top))
        (sx - D.left) (sy - D.top) ↔
      ∀ x y : Nat, InTransfer D dst.dimension src.dimension (sx - D.left) (sy - D.top) x y →
        ∀ k < dst.bytesPerPixel, db.data[y * dst.bytesPerRow + x * dst.bytesPerPixel + k]? =
          sb.data[(y + (sy - D.top)).toNat * src.bytesPerRow + (x + (sx - D.left)).toNat * dst.bytesPerPixel + k]? := by
    constructor
    · rintro ⟨db', sb', hdb', hsb', h⟩
      rw [hdb] at hdb'
      rw [hsb] at hsb'
      cases hdb'
      cases hsb'
      exact h
    · exact fun h => ⟨db, sb, hdb, hsb, h⟩
  have hdrows : ∀ r < T.height.toNat, (T.top.toNat + r) * dst.bytesPerRow + T.left.toNat * dst.bytesPerPixel +
      T.width.toNat * dst.bytesPerPixel ≤ db.size :=
    block_rows_inside (hdst db hdb) hx hy
  have hsrows : ∀ r < T.height.toNat, ((T.top + (sy - D.top)).toNat + r) * src.bytesPerRow +
      (T.left + (sx - D.left)).toNat * dst.bytesPerPixel + T.width.toNat * dst.bytesPerPixel ≤ sb.size := by
    rw [hsrow]
    exact block_rows_inside hsb' hsx hsy
  rw [rowsEqual_iff hdrows hsrows, hsame, forall_inTransfer_iff hT]
  refine forall₂_congr fun r _ => ?_
  refine (@forall_run_bytes_iff _ _ _ _ fun i i' => db.data[i]? = sb.data[i']?).trans ?_
  refine forall₂_congr fun c _ => forall₂_congr fun k _ => ?_
  -- row `r`, column `c` of the rectangle is pixel `(left + c, top + r)`, moved by the offset
  have hd : (T.top.toNat + r) * dst.bytesPerRow + (T.left.toNat + c) * dst.bytesPerPixel + k =
      (T.top.toNat + r) * dst.bytesPerRow + T.left.toNat * dst.bytesPerPixel + c * dst.bytesPerPixel + k := by
    ring
  have hs : ((T.top.toNat + r : Nat) + (sy - D.top)).toNat * src.bytesPerRow +
        ((T.left.toNat + c : Nat) + (sx - D.left)).toNat * dst.bytesPerPixel + k =
      ((T.top + (sy - D.top)).toNat + r) * src.bytesPerRow + (T.left + (sx - D.left)).toNat * dst.bytesPerPixel +
        c * dst.bytesPerPixel + k := by
    rw [toNat_natAdd_add r ht hto, toNat_natAdd_add c hl hlo]
    ring
  rw [hd, hs]

/-- **A finished copy compares equal**: after a copy between buffers whose memory is whole returns,
comparing the same rectangle with the same source finds every pixel in place. -/
theorem cmpFrom_of_copyFrom (hdst : dst.Full) (hsrc : src.Full) (h : dst.copyFrom D src sx sy = .ok out) :
    out.cmpFrom D src sx sy = .ok true := by
  obtain ⟨heq, hox, hoy, hempty, hnonempty⟩ := copyFrom_ok_cases h
  cases hT : (transferRect D dst.dimension src.dimension (sx - D.left) (sy - D.top)).isEmpty
  case true =>
    rw [hempty hT]
    exact cmpFrom_of_empty heq hox hoy hT
  case false =>
    obtain ⟨hsrcmem, hdstmem, hfits⟩ := hnonempty hT
    obtain ⟨db, hdb⟩ := bytes_of_hasBuffer hdstmem
    obtain ⟨sb, hsb⟩ := bytes_of_hasBuffer hsrcmem
    obtain ⟨out', hout', hcopied⟩ := copyFrom_copies hdst hsrc heq hox hoy hT hdb hsb hfits
    rw [h] at hout'
    cases hout'
    obtain ⟨hlayout, db', sb', ob, hdb', hsb', hob, hpix, -⟩ := hcopied
    have hfull := hlayout.full hdst
    obtain ⟨hf, hdim, -⟩ := hlayout
    -- the copy kept the destination's layout, so the compare reads the rectangle it wrote
    have hbpp : out.bytesPerPixel = dst.bytesPerPixel := by simp only [bytesPerPixel, hf]
    have hbpr : out.bytesPerRow = dst.bytesPerRow := by simp only [bytesPerRow, hdim, hbpp]
    rw [← hdim] at hT hpix
    rw [cmpFrom_of_nonempty (hf.trans heq) hox hoy hT, hob, hsb', liftError_ok, liftError_ok]
    refine congrArg Except.ok ((rowsEqual_transfer_iff hfull hsrc (hf.trans heq) hT hob hsb').2 ?_)
    refine ⟨ob, sb', hob, hsb', fun x y hxy k hk => ?_⟩
    rw [hbpr, hbpp] at *
    exact hpix x y hxy k hk

/-- **What a compare answers, from every pair of buffers with whole memory, every rectangle and
every source origin**, and that it answers true after a copy with the same arguments. -/
theorem cmpFrom_outcome (dst src : PixelBuffer) (D : Rect) (sx sy : Int) (hdst : dst.Full)
    (hsrc : src.Full) :
    (dst.format ≠ src.format → dst.cmpFrom D src sx sy = .error (.error .formatMismatch)) ∧
    (dst.format = src.format →
      if sx - D.left ≤ Coord.lo ∨ sy - D.top ≤ Coord.lo then
        dst.cmpFrom D src sx sy = .error (.halt .negateOverflow)
      else if ¬ ∃ x y, InTransfer D dst.dimension src.dimension (sx - D.left) (sy - D.top) x y then
        dst.cmpFrom D src sx sy = .ok true
      else if dst.hasBuffer = false ∨ src.hasBuffer = false then
        dst.cmpFrom D src sx sy = .error (.error .notInitialized)
      else ∃ c, dst.cmpFrom D src sx sy = .ok c ∧
        (c = true ↔ dst.SamePixels src (InTransfer D dst.dimension src.dimension (sx - D.left) (sy - D.top))
          (sx - D.left) (sy - D.top))) ∧
    (∀ out, dst.copyFrom D src sx sy = .ok out → out.cmpFrom D src sx sy = .ok true) := by
  refine ⟨fun hne => ?_, fun heq => ?_, fun out h => cmpFrom_of_copyFrom hdst hsrc h⟩
  · simp only [cmpFrom, sameFormat, if_neg hne]
    rfl
  by_cases hhalt : sx - D.left ≤ Coord.lo ∨ sy - D.top ≤ Coord.lo
  · rw [if_pos hhalt]
    simp only [cmpFrom, sameFormat, if_pos heq, clip, clipPair_eq, if_pos hhalt]
    rfl
  rw [if_neg hhalt]
  have hox := not_le.1 (not_or.1 hhalt).1
  have hoy := not_le.1 (not_or.1 hhalt).2
  by_cases hempty : ¬ ∃ x y, InTransfer D dst.dimension src.dimension (sx - D.left) (sy - D.top) x y
  · rw [if_pos hempty]
    exact cmpFrom_of_empty heq hox hoy (transferRect_isEmpty_iff.2 hempty)
  rw [if_neg hempty]
  have hT : (transferRect D dst.dimension src.dimension (sx - D.left) (sy - D.top)).isEmpty = false := by
    rw [← Bool.not_eq_true, transferRect_isEmpty_iff]
    exact hempty
  rw [cmpFrom_of_nonempty heq hox hoy hT]
  by_cases hnomem : dst.hasBuffer = false ∨ src.hasBuffer = false
  · -- the destination's bytes are read first, then the source's
    rw [if_pos hnomem]
    cases hdmem : dst.hasBuffer
    · rw [bytes_of_not_hasBuffer hdmem]
      rfl
    · obtain ⟨db, hdb⟩ := bytes_of_hasBuffer hdmem
      rw [hdb, liftError_ok, bytes_of_not_hasBuffer (hnomem.resolve_left (by simp [hdmem]))]
      rfl
  rw [if_neg hnomem]
  obtain ⟨db, hdb⟩ := bytes_of_hasBuffer (Bool.not_eq_false _ ▸ (not_or.1 hnomem).1)
  obtain ⟨sb, hsb⟩ := bytes_of_hasBuffer (Bool.not_eq_false _ ▸ (not_or.1 hnomem).2)
  rw [hdb, hsb, liftError_ok, liftError_ok]
  exact ⟨_, rfl, rowsEqual_transfer_iff hdst hsrc heq hT hdb hsb⟩

/-- A 2×2 buffer compared with a copy of itself, one column to the right, goes as the compare
theorem says. -/
theorem compare_one_column_right :
    let b : PixelBuffer := ⟨.bgra32, ⟨2, 2⟩, .owned ⟨Array.replicate 16 0⟩⟩
    b.Full ∧
    (b.format ≠ b.format → b.cmpFrom ⟨1, 0, 2, 2⟩ b 0 0 = .error (.error .formatMismatch)) ∧
    (b.format = b.format →
      if (0 : Int) - 1 ≤ Coord.lo ∨ (0 : Int) - 0 ≤ Coord.lo then
        b.cmpFrom ⟨1, 0, 2, 2⟩ b 0 0 = .error (.halt .negateOverflow)
      else if ¬ ∃ x y, InTransfer ⟨1, 0, 2, 2⟩ b.dimension b.dimension (0 - 1) (0 - 0) x y then
        b.cmpFrom ⟨1, 0, 2, 2⟩ b 0 0 = .ok true
      else if b.hasBuffer = false ∨ b.hasBuffer = false then
        b.cmpFrom ⟨1, 0, 2, 2⟩ b 0 0 = .error (.error .notInitialized)
      else ∃ c, b.cmpFrom ⟨1, 0, 2, 2⟩ b 0 0 = .ok c ∧
        (c = true ↔ b.SamePixels b (InTransfer ⟨1, 0, 2, 2⟩ b.dimension b.dimension (0 - 1) (0 - 0)) (0 - 1)
          (0 - 0))) ∧
    (∀ out, b.copyFrom ⟨1, 0, 2, 2⟩ b 0 0 = .ok out → out.cmpFrom ⟨1, 0, 2, 2⟩ b 0 0 = .ok true) :=
  have hfull : PixelBuffer.Full ⟨.bgra32, ⟨2, 2⟩, .owned ⟨Array.replicate 16 0⟩⟩ := fun bs h => by
    cases h
    rfl
  ⟨hfull, cmpFrom_outcome _ _ ⟨1, 0, 2, 2⟩ 0 0 hfull hfull⟩

/-- **A compare from the least source column stops the program, though it compares no pixel.** -/
theorem compare_stops_on_least_offset :
    let b : PixelBuffer := ⟨.bgra32, ⟨2, 2⟩, .owned ⟨Array.replicate 16 0⟩⟩
    (¬ ∃ x y, InTransfer ⟨0, 0, 2, 2⟩ b.dimension b.dimension (Coord.lo - 0) (0 - 0) x y) ∧
      b.cmpFrom ⟨0, 0, 2, 2⟩ b Coord.lo 0 = .error (.halt .negateOverflow) :=
  ⟨by decide +kernel, rfl⟩

end PixelBuffer

end Presenter
