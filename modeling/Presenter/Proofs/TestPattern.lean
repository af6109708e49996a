import Mathlib
import Presenter.Proofs.ScreenExchange
import Presenter.Proofs.CompositorPresents
import Presenter.Proofs.FrameReach
import Presenter.Proofs.MemorySizes
/-!
# The test pattern — eight bars, painted in place and presented once

Drawing the test pattern fills eight vertical bars, each `max (W / 8) 1` columns wide with the
rest in the last, into the memory the buffer sees, and presents the whole frame. A run of fills
leaves on each pixel the colour of the last rectangle holding it (`lastPaint`); for the bars that
is bar `min (x / max (W / 8) 1) 7` of column `x` (`FrameBuffer.lastPaint_bars`). On a buffer in
step with its coordinator the only device call is one present (`FrameBuffer.ShowsPattern`).
-/

namespace Presenter

/-! ## The last fill holding a point -/

/-- The value of the last pair of `l` whose rectangle holds `(x, y)`, if any. -/
def lastPaint {α : Type} : List (Rect × α) → Int → Int → Option α
  | [], _, _ => none
  | (R, a) :: l, x, y => (lastPaint l x y).or (if R.Contains x y then some a else none)

theorem lastPaint_concat {α : Type} (l : List (Rect × α)) (p : Rect × α) (x y : Int) :
    lastPaint (l ++ [p]) x y = if p.1.Contains x y then some p.2 else lastPaint l x y := by
  obtain ⟨R, a⟩ := p
  induction l with
  | nil => by_cases h : R.Contains x y <;> simp [lastPaint, h]
  | cons q l ih =>
    obtain ⟨R', a'⟩ := q
    by_cases h : R.Contains x y <;> simp [lastPaint, ih, h]

theorem lastPaint_range {α : Type} (g : Nat → Rect × α) (x y : Int) {k n : Nat} (hkn : k < n)
    (hk : (g k).1.Contains x y) (hlater : ∀ i, k < i → i < n → ¬ (g i).1.Contains x y) :
    lastPaint ((List.range n).map g) x y = some (g k).2 := by
  induction n with
  | zero => omega
  | succ n ih =>
    rw [List.range_succ, List.map_append, List.map_singleton, lastPaint_concat]
    rcases Nat.lt_succ_iff_lt_or_eq.1 hkn with hlt | rfl
    · rw [if_neg (hlater n hlt (Nat.lt_succ_self n)), ih hlt fun i hi hin => hlater i hi (by omega)]
    · rw [if_pos hk]

theorem PixelFormat.packRgb_lt (f : PixelFormat) (red green blue : Nat) :
    f.packRgb red green blue < 2 ^ 32 := by
  have hc : ∀ value max shift, PixelFormat.channel value max shift < 2 ^ 32 := fun value max shift => by
    simpa only [Nat.pow_eq] using PixelFormat.channel_lt value max shift
  exact Nat.or_lt_two_pow (Nat.or_lt_two_pow (hc _ _ _) (hc _ _ _)) (hc _ _ _)

/-! ## Runs of fills -/

namespace PixelBuffer

section Layout

variable {b b' : PixelBuffer} (h : b.SameLayout b')
include h

theorem SameLayout.bytesPerPixel_eq : b'.bytesPerPixel = b.bytesPerPixel := by
  rw [bytesPerPixel, bytesPerPixel, h.1]

theorem SameLayout.bytesPerRow_eq : b'.bytesPerRow = b.bytesPerRow := by
  rw [bytesPerRow, bytesPerRow, h.bytesPerPixel_eq, h.2.1]

theorem SameLayout.encode_eq (c : Nat) : b'.encode c = b.encode c := by
  simp only [encode, h.bytesPerPixel_eq, h.1]

theorem SameLayout.valueOf_eq (bytes : List UInt8) : b'.valueOf bytes = b.valueOf bytes := by
  simp only [valueOf, h.1]

end Layout

theorem byte_outside_part {b : PixelBuffer} {R : Rect} {x y j : Nat} (hx : x < b.dimension.width)
    (hR : ¬ R.Contains x y) (hj : j < min b.bytesPerPixel 4) :
    ∀ x' y' : Nat, (R.clampTo b.dimension).Contains x' y' → ∀ j' < min b.bytesPerPixel 4,
      y * b.bytesPerRow + x * b.bytesPerPixel + j ≠ y' * b.bytesPerRow + x' * b.bytesPerPixel + j' := by
  intro x' y' hxy' j' hj'
  obtain ⟨hR', hx', -⟩ := (contains_clampTo_iff R b.dimension x' y').1 hxy'
  have hne : (y, x) ≠ (y', x') := by
    intro heq
    simp only [Prod.mk.injEq] at heq
    obtain ⟨rfl, rfl⟩ := heq
    exact hR hR'
  have happart := @pixels_apart b.dimension.width b.bytesPerPixel x y x' y' hx (by omega) hne
  rw [bytesPerRow]
  omega

/-- **A run of fills paints each pixel with the colour of the last rectangle holding it**, and
leaves the bytes of the pixels no rectangle holds. -/
theorem foldlM_fillRect_paints {α : Type} (paint : PixelFormat → α → Nat)
    (step : PixelBuffer → Rect × α → Except Stop PixelBuffer)
    (hstep : ∀ pb p, step pb p = pb.fillRect p.1 (paint pb.format p.2)) :
    ∀ (l : List (Rect × α)) (b : PixelBuffer) (bs : ByteArray), b.Full → b.bytes = .ok bs →
      b.bytesPerRow * b.dimension.height < wordLimit →
      ∃ b', l.foldlM step b = .ok b' ∧ b.SameLayout b' ∧ ∃ bs', b'.bytes = .ok bs' ∧
        ∀ x y : Nat, (x : Int) < min (b.dimension.width : Int) Coord.hi →
          (y : Int) < min (b.dimension.height : Int) Coord.hi → ∀ j < min b.bytesPerPixel 4,
            bs'.data[y * b.bytesPerRow + x * b.bytesPerPixel + j]? =
              match lastPaint l x y with
              | some a => (b.encode (paint b.format a))[j]?
              | none => bs.data[y * b.bytesPerRow + x * b.bytesPerPixel + j]?
  | [], b, bs, _, hbs, _ => ⟨b, rfl, .refl b, bs, hbs, fun _ _ _ _ _ _ => rfl⟩
  | (R, a) :: l, b, bs, hfull, hbs, hfit => by
    obtain ⟨b₁, hfill, hsame₁, bs₁, hbs₁, hwritten, hkept⟩ :=
      fillRect_writes hfull hbs hfit R (paint b.format a)
    have hfit₁ : b₁.bytesPerRow * b₁.dimension.height < wordLimit := by
      rw [hsame₁.bytesPerRow_eq, hsame₁.2.1]
      exact hfit
    obtain ⟨b', hfold, hsame', bs', hbs', hpix⟩ :=
      foldlM_fillRect_paints paint step hstep l b₁ bs₁ (hsame₁.full hfull) hbs₁ hfit₁
    refine ⟨b', ?_, hsame₁.trans hsame', bs', hbs', fun x y hx hy j hj => ?_⟩
    · rw [List.foldlM_cons, hstep, hfill]
      exact hfold
    -- the later fills see the layout this one kept
    have hlater := hpix x y (by rwa [hsame₁.2.1]) (by rwa [hsame₁.2.1]) j (by rwa [hsame₁.bytesPerPixel_eq])
    simp only [hsame₁.bytesPerRow_eq, hsame₁.bytesPerPixel_eq, hsame₁.encode_eq, hsame₁.1] at hlater
    rw [hlater]
    have hpart := contains_clampTo_iff R b.dimension
    cases hl : lastPaint l x y with
    | some a' => simp only [lastPaint, hl, Option.some_or]
    | none =>
      simp only [lastPaint, hl, Option.none_or]
      split_ifs with hR
      · exact hwritten x y ((hpart x y).2 ⟨hR, hx, hy⟩) j hj
      · exact hkept _ (byte_outside_part (by omega) hR hj)

end PixelBuffer

/-! ## The bars -/

namespace FrameBuffer

/-- **The bars' edges are coordinates** for a frame of every size. -/
theorem barRects_fit (dim : Dimension) :
    ∀ r ∈ barRects dim.toRect, Coord.Fits r.left ∧ Coord.Fits r.right := by
  have hwidth : dim.toRect.width = min (dim.width : Int) Coord.hi := by
    simp only [Rect.width, Coord.sub, Coord.sat, Dimension.toRect, Coord.lo, Coord.hi]
    omega
  intro r hr
  simp only [barRects, List.mem_map, List.mem_range, hwidth] at hr
  obtain ⟨i, hi, rfl⟩ := hr
  set w := max (min (dim.width : Int) Coord.hi / 8) 1 with hw
  have hw8 : 1 ≤ w ∧ 8 * w ≤ max (min (dim.width : Int) Coord.hi) 8 := by
    rw [hw]
    omega
  -- the bar numbered `i < 8` starts at `i·w` and ends by `8·w`
  have hleft : 0 ≤ (i : Int) * w ∧ (i : Int) * w ≤ 7 * w :=
    ⟨Int.mul_nonneg (by omega) (by omega), Int.mul_le_mul_of_nonneg_right (by omega) (by omega)⟩
  have hright : i ≠ 7 → (i : Int) * w + w ≤ 7 * w := fun h7 => by
    have := Int.mul_le_mul_of_nonneg_right (show (i : Int) + 1 ≤ 7 by omega) (show 0 ≤ w by omega)
    linarith
  refine ⟨?_, ?_⟩
  · simp only [Coord.Fits, Coord.lo, Coord.hi] at hleft hw8 ⊢
    omega
  · split_ifs with h7
    · simp only [Dimension.toRect, Coord.Fits, Coord.lo, Coord.hi]
      omega
    · have := hright h7
      simp only [Coord.Fits, Coord.lo, Coord.hi] at hleft hw8 this ⊢
      omega

/-- **Column `x` shows bar `min (x / max (W / 8) 1) 7`**: the bars before it end at or before the
column, and the ones after it start past it. -/
theorem lastPaint_bars {W H : Nat} (hW : (W : Int) ≤ Coord.hi) {x y : Nat} (hx : x < W) (hy : y < H) :
    lastPaint ((barRects ⟨0, 0, W, H⟩).zip testPatternBars) x y =
      some (testPatternBars.getD (min (x / max (W / 8) 1) 7) (0, 0, 0)) := by
  set bw := max (W / 8) 1 with hbw
  have hw : max ((⟨0, 0, W, H⟩ : Rect).width / 8) 1 = (bw : Int) := by
    simp only [Rect.width, Coord.sub, Coord.sat, Coord.lo, Coord.hi] at hW ⊢
    omega
  have hbars : (barRects ⟨0, 0, W, H⟩).zip testPatternBars = (List.range 8).map fun (i : Nat) =>
      ((⟨(i : Int) * bw, 0, if i = 7 then (W : Int) else (i : Int) * bw + bw, H⟩ : Rect),
        testPatternBars.getD i (0, 0, 0)) := by
    simp only [barRects, hw]
    rfl
  rw [hbars]
  -- the bar of column `x` starts at or before it, and ends past it
  have hbw0 : 0 < bw := by omega
  set k := min (x / bw) 7 with hk
  have hstart : k * bw ≤ x := (Nat.mul_le_mul_right bw (min_le_left _ _)).trans (Nat.div_mul_le_self x bw)
  have hend : k < 7 → x < k * bw + bw := fun h7 => by
    rw [hk, min_eq_left (by omega)]
    exact Nat.lt_div_mul_add hbw0
  have hlater : ∀ i, k < i → i < 8 → x < i * bw := fun i hki hi8 =>
    calc x < k * bw + bw := hend (by omega)
      _ = (k + 1) * bw := (Nat.succ_mul k bw).symm
      _ ≤ i * bw := Nat.mul_le_mul_right bw hki
  refine lastPaint_range _ x y (by omega) ?_ fun i hki hi8 => ?_
  · simp only [Rect.Contains]
    refine ⟨by exact_mod_cast hstart, ?_, by omega, by exact_mod_cast hy⟩
    split_ifs with h7
    · exact_mod_cast hx
    · exact_mod_cast hend (by omega)
  · simp only [Rect.Contains, not_and]
    intro hle
    exact absurd hle (not_le.2 (by exact_mod_cast hlater i hki hi8))

/-! ## Painting the bars -/

end FrameBuffer

namespace PixelBuffer

theorem SameLayout.eq_bound {b b' : PixelBuffer} {i : Nat} {a bs' : ByteArray} (h : b.SameLayout b')
    (hst : b.storage = .bound i a) (hbs' : b'.bytes = .ok bs') :
    b' = ⟨b.format, b.dimension, .bound i bs'⟩ := by
  obtain ⟨hf, hd, hshape⟩ := h
  rcases b' with ⟨f', dim', st'⟩
  rw [hst] at hshape
  cases st' with
  | bound j c =>
    obtain ⟨rfl, -⟩ := hshape
    simp only [PixelBuffer.bytes, Except.ok.injEq] at hbs'
    simp only at hf hd
    rw [hf, hd, hbs']
  | unbound => exact hshape.elim
  | owned c => exact hshape.elim

theorem foldlM_bars_paints {b : PixelBuffer} {bs : ByteArray} (hfull : b.Full) (hbs : b.bytes = .ok bs)
    (hbpp : b.bytesPerPixel = 4) (hW : (b.dimension.width : Int) ≤ Coord.hi)
    (hH : (b.dimension.height : Int) ≤ Coord.hi)
    (hfit : b.dimension.width * 4 * b.dimension.height < wordLimit) :
    ∃ b', ((FrameBuffer.barRects b.dimension.toRect).zip testPatternBars).foldlM
        (fun pb p => pb.fillRect p.1 (pb.format.packRgb p.2.1 p.2.2.1 p.2.2.2)) b = .ok b' ∧
      b.SameLayout b' ∧ ∃ bs', b'.bytes = .ok bs' ∧
        bs'.size = b.dimension.width * 4 * b.dimension.height ∧
        ∀ x < b.dimension.width, ∀ y < b.dimension.height,
          let c := testPatternBars.getD (min (x / max (b.dimension.width / 8) 1) 7) (0, 0, 0)
          b'.valueOf (bs'.data.extract (y * (b.dimension.width * 4) + x * 4)
            (y * (b.dimension.width * 4) + x * 4 + 4)).toList = b.format.packRgb c.1 c.2.1 c.2.2 := by
  have hrect : b.dimension.toRect = ⟨0, 0, b.dimension.width, b.dimension.height⟩ := by
    simp only [Dimension.toRect, Rect.mk.injEq, true_and]
    omega
  obtain ⟨b', hfold, hsame, bs', hbs', hpaint⟩ :=
    foldlM_fillRect_paints (fun f (c : Nat × Nat × Nat) => f.packRgb c.1 c.2.1 c.2.2) _ (fun _ _ => rfl) _ b bs hfull hbs
      (by rw [bytesPerRow, hbpp]; exact hfit)
  have hsize : bs'.size = b.dimension.width * 4 * b.dimension.height := by
    rw [(hsame.full hfull) bs' hbs', hsame.2.1, hsame.bytesPerPixel_eq, hbpp]
  refine ⟨b', hfold, hsame, bs', hbs', hsize, fun x hx y hy => ?_⟩
  intro c
  -- the last bar holding the pixel is its column's
  have hlast := FrameBuffer.lastPaint_bars (H := b.dimension.height) hW hx hy
  rw [← hrect] at hlast
  have hbytes : ∀ j < min b.bytesPerPixel 4, bs'.data[y * (b.dimension.width * 4) + x * 4 + j]? =
      (b.encode (b.format.packRgb c.1 c.2.1 c.2.2))[j]? := by
    intro j hj
    have hj' := hpaint x y (by omega) (by omega) j hj
    rw [hlast, bytesPerRow, hbpp] at hj'
    exact hj'
  have hend : y * (b.dimension.width * 4) + x * 4 + min b.bytesPerPixel 4 ≤ bs'.size := by
    rw [hsize, hbpp]
    exact pixel_end_le hx hy
  have hwindow := extract_filled hend hbytes
  simp only [hbpp, Nat.min_self] at hwindow
  rw [hsame.valueOf_eq, hwindow, valueOf_encode, hbpp, Nat.min_self]
  exact Nat.mod_eq_of_lt (PixelFormat.packRgb_lt _ _ _ _)

end PixelBuffer

/-! ## Presenting -/

namespace Backend

theorem replaceBits_memoryId (b : Backend) (bits : ByteArray) :
    (b.replaceBits bits).memoryId = b.memoryId := by
  unfold replaceBits
  split <;> cases b <;> rfl

theorem replaceBits_extract (b : Backend) {bits : ByteArray} (h : bits.size ≤ b.bits.size) :
    (b.replaceBits bits).bits.extract 0 bits.size = bits := by
  unfold replaceBits
  split
  · cases b <;> exact ByteArray.extract_zero_size
  · -- the bytes are written over the first ones of the memory
    have hover : (b.overwrite 0 bits).bits = bits.copySlice 0 b.bits 0 bits.size := by
      cases b <;> rfl
    have hsz : (bits.copySlice 0 b.bits 0 bits.size).size = b.bits.size :=
      ByteArray.size_copySlice_of_le (by omega)
    rw [hover]
    refine ByteArray.ext (Array.ext_getElem? fun i => ?_)
    rw [ByteArray.data_extract, Array.getElem?_extract, ByteArray.size_data, hsz,
      ByteArray.copySlice_getElem? (by omega) (by omega)]
    by_cases hi : i < bits.size
    · rw [if_pos (by omega), if_pos (by omega)]
      simp only [Nat.sub_zero, Nat.zero_add]
    · rw [if_neg (by omega)]
      exact (Array.getElem?_eq_none (by rw [ByteArray.size_data]; omega)).symm

theorem present_keeps (b : Backend) (rect : Rect) (d : Devices) :
    ∃ b' d', runAct (b.present rect) d = (.ok b', d') ∧ b'.bits = b.bits ∧ b.Alike b' := by
  cases b with
  | raster r =>
    obtain ⟨d', hrun, -⟩ := r.present_presented rect d
    refine ⟨.raster r, d', ?_, rfl, rfl, rfl, rfl, rfl, rfl⟩
    simp only [Backend.present, runAct_bind, hrun, runAct_pure]
  | compositor c =>
    obtain ⟨c', d', hrun, -, hc'⟩ := c.present_run rect d
    refine ⟨.compositor c', d', ?_, ?_, ?_⟩
    · simp only [Backend.present, runAct_map, hrun]
    · rw [hc']
      rfl
    · rw [hc']
      exact ⟨rfl, rfl, rfl, rfl, rfl⟩

end Backend

theorem Coordinator.present_of_backend {c : Coordinator} {b b' : Backend} {rect : Rect} {d d' : Devices}
    (hb : c.backend = some b) (h : runAct (b.present rect) d = (.ok b', d')) :
    runAct (c.present rect) d = (.ok ({ c with backend := some b' }, .ok ()), d') := by
  simp only [Coordinator.present, Coordinator.onBackend, hb, runAct_bind, runAct_attempt, h, runAct_pure]

namespace FrameBuffer

variable {fb : FrameBuffer}

theorem pixels_of_replaced {b b' : Backend} {bits : ByteArray} (hs : fb.Synced)
    (hb : fb.coordinator.backend = some b) (hsize : bits.size = fb.bufferSize)
    (hle : fb.bufferSize ≤ b.bits.size) (hbits : b'.bits = (b.replaceBits bits).bits)
    (hid : b'.memoryId = b.memoryId) :
    { fb with coordinator := { fb.coordinator with backend := some b' } }.pixels =
      ⟨fb.format, fb.dimension, .bound b.memoryId bits⟩ := by
  rw [pixels_of_backend (b := b') (by rw [hid, ← Option.map_some, ← hb, ← hs.binding]) rfl, hid]
  show (⟨fb.format, fb.dimension, .bound b.memoryId (b'.bits.extract 0 fb.bufferSize)⟩ : PixelBuffer) = _
  rw [hbits, ← hsize, b.replaceBits_extract (hsize ▸ hle)]

theorem store_of_bound {b : Backend} {pb : PixelBuffer} {id : Nat} {bits : ByteArray}
    (hbind : fb.binding = some b.memoryId) (hb : fb.coordinator.backend = some b)
    (hst : pb.storage = .bound id bits) :
    fb.store pb = { fb with coordinator := { fb.coordinator with backend := some (b.replaceBits bits) } } := by
  simp only [store, hst, boundBackend_of_bound hbind hb]

theorem paintTestPattern_of_init (h : fb.isInitialized = true) :
    fb.paintTestPattern = (do
      let pb ← Act.ofStop (((barRects fb.dimension.toRect).zip testPatternBars).foldlM
        (fun pb p => pb.fillRect p.1 (pb.format.packRgb p.2.1 p.2.2.1 p.2.2.2)) fb.pixels)
      (fb.store pb).onCoordinator fun c => c.present fb.dimension.toRect) := by
  simp only [paintTestPattern, h, Bool.not_true, Bool.false_eq_true, if_false]

theorem paintTestPattern_run {b b' : Backend} {pb pb' : PixelBuffer} {id : Nat} {bits : ByteArray}
    {d d' : Devices} (hbind : fb.binding = some b.memoryId) (hb : fb.coordinator.backend = some b)
    (hpix : fb.pixels = pb) (hfold : ((barRects fb.dimension.toRect).zip testPatternBars).foldlM
        (fun pb p => pb.fillRect p.1 (pb.format.packRgb p.2.1 p.2.2.1 p.2.2.2)) pb = .ok pb')
    (hst : pb'.storage = .bound id bits)
    (hpresent : runAct ((b.replaceBits bits).present fb.dimension.toRect) d = (.ok b', d')) :
    runAct fb.paintTestPattern d =
      (.ok ({ fb with coordinator := { fb.coordinator with backend := some b' } }, .ok ()), d') := by
  have hinit : fb.isInitialized = true := by
    simp [isInitialized, Coordinator.isInitialized, hb]
  rw [paintTestPattern_of_init hinit, runAct_bind, hpix]
  simp only [Act.ofStop, hfold, runAct_pure]
  have hshow := Coordinator.present_of_backend
    (c := { fb.coordinator with backend := some (b.replaceBits bits) }) rfl hpresent
  simp only [store_of_bound hbind hb hst, onCoordinator, runAct_bind, hshow, runAct_pure]

theorem drawTestPattern_of_painted {fb' : FrameBuffer} {d d' : Devices}
    (h : runAct fb.paintTestPattern d = (.ok (fb', .ok ()), d')) :
    runAct fb.drawTestPattern d = (.ok fb', d') := by
  simp only [drawTestPattern, runAct_bind, runAct_attempt, h, runAct_pure]

theorem drawTestPattern_of_none (h : fb.coordinator.backend = none) (d : Devices) :
    runAct fb.drawTestPattern d = (.ok fb, { d with log := d.log.push ⟨.warn, .frameBuffer,
      "test pattern failed", [⟨"error", .text Error.notInitialized.message⟩, ⟨"mode", .str fb.mode.name⟩]⟩ }) := by
  have hinit : fb.isInitialized = false := by
    simp [isInitialized, Coordinator.isInitialized, h]
  simp [drawTestPattern, paintTestPattern, hinit, runAct_bind, runAct_attempt, runAct_map, Act.warn]

/-! ## Drawing the pattern -/

/-- What drawing the test pattern on `fb` over the devices `d` does to a frame of `W × H` pixels:
the bars are painted into the live backend's memory (the coordinator becomes `c₁`), the whole
frame `[0, 0, W, H]` is presented once from it, and no other device call is made. The buffer sees
the painted pixels before and after the present: each pixel of column `x` holds the colour of bar
`min (x / max (W / 8) 1) 7`, packed for the buffer's format. -/
def ShowsPattern (fb : FrameBuffer) (d : Devices) : Prop :=
  let W := fb.dimension.width
  let H := fb.dimension.height
  ∃ c₁ c₂ d' pb bs, runAct fb.drawTestPattern d = (.ok { fb with coordinator := c₂ }, d') ∧
    fb.coordinator.Repainted c₁ ∧ runAct (c₁.present ⟨0, 0, W, H⟩) d = (.ok (c₂, .ok ()), d') ∧
    { fb with coordinator := c₁ }.pixels = pb ∧ { fb with coordinator := c₂ }.pixels = pb ∧
    pb.bytes = .ok bs ∧ bs.size = W * 4 * H ∧
    ∀ x < W, ∀ y < H, let c := testPatternBars.getD (min (x / max (W / 8) 1) 7) (0, 0, 0)
      pb.valueOf (bs.data.extract (y * (W * 4) + x * 4) (y * (W * 4) + x * 4 + 4)).toList =
        fb.format.packRgb c.1 c.2.1 c.2.2

theorem sides_le_of_area {W H n : Nat} (hW : 1 ≤ W) (hH : 1 ≤ H) (h : W * H * 4 ≤ n) :
    W ≤ n ∧ H ≤ n := by
  constructor <;> nlinarith

theorem bounds_of_laid {b : Backend} (hc : fb.coordinator.Sound True) (hl : fb.Laid)
    (hb : fb.coordinator.backend = some b) :
    fb.format.bytesPerPixel = 4 ∧ (fb.dimension.width : Int) ≤ Coord.hi ∧
      (fb.dimension.height : Int) ≤ Coord.hi ∧ fb.dimension.width * 4 * fb.dimension.height < wordLimit := by
  obtain ⟨cfg, hcfg, hformat, hdim⟩ := hl b hb
  obtain ⟨hvalid, hclamped⟩ := hc.config cfg hcfg
  have hW : max cfg.dimension.width 1 = fb.dimension.width := by
    rw [hdim, ← Dimension.clamped_width, hclamped]
  have hH : max cfg.dimension.height 1 = fb.dimension.height := by
    rw [hdim, ← Dimension.clamped_height, hclamped]
  have harea := ((BackendConfig.validate_ok_iff cfg).1 hvalid).2
  rw [hW, hH] at harea
  have hsec : sectionLimit = 2 ^ 31 - 1 := rfl
  have hword : wordLimit = 2 ^ 64 := rfl
  obtain ⟨hWhi, hHhi⟩ := sides_le_of_area (by omega) (by omega) harea
  refine ⟨hformat ▸ BackendConfig.bytesPerPixel_of_validate hvalid, ?_, ?_, ?_⟩
  · simp only [Coord.hi]
    omega
  · simp only [Coord.hi]
    omega
  · rw [hword, Nat.mul_right_comm]
    omega

theorem showsPattern_of_sound {b : Backend} (hc : fb.coordinator.Sound True) (hs : fb.Synced)
    (hb : fb.coordinator.backend = some b) (hmem : fb.bufferSize ≤ b.bits.size) (d : Devices) :
    fb.ShowsPattern d := by
  obtain ⟨hbpp, hWc, hHc, hfit⟩ := bounds_of_laid hc hs.laid hb
  have hbuf : fb.bufferSize = fb.dimension.width * 4 * fb.dimension.height := by
    rw [bufferSize, hbpp]
  have hrect : fb.dimension.toRect = ⟨0, 0, fb.dimension.width, fb.dimension.height⟩ := by
    simp only [Dimension.toRect, Rect.mk.injEq, true_and]
    omega
  -- the buffer sees a whole frame of the backend's memory
  have hbind : fb.binding = some b.memoryId := by rw [hs.binding, hb]; rfl
  have hpix := pixels_of_backend hbind hb
  have hfull : PixelBuffer.Full ⟨fb.format, fb.dimension,
      .bound b.memoryId (b.bits.extract 0 fb.bufferSize)⟩ := by
    intro bs hbs
    cases hbs
    simp only [ByteArray.size_extract]
    exact (Nat.sub_zero _).trans (min_eq_left hmem)
  obtain ⟨pb, hfold, hsame, bs, hbs, hsize, hbars⟩ :=
    PixelBuffer.foldlM_bars_paints hfull rfl hbpp hWc hHc hfit
  obtain rfl := hsame.eq_bound rfl hbs
  -- written back over the memory, and presented
  obtain ⟨b₂, d', hpresent, hbits, hlike⟩ := (b.replaceBits bs).present_keeps fb.dimension.toRect d
  have hsize' : bs.size = fb.bufferSize := hsize.trans hbuf.symm
  refine ⟨{ fb.coordinator with backend := some (b.replaceBits bs) },
    { fb.coordinator with backend := some b₂ }, d', _, bs, ?_, ?_, ?_, ?_, ?_, rfl, hsize, hbars⟩
  · exact drawTestPattern_of_painted (paintTestPattern_run hbind hb hpix hfold rfl hpresent)
  · -- a compositor's staging memory keeps its length
    refine .inr ⟨b, _, hb, rfl, b.alike_replaceBits bs fun hm => ?_⟩
    rw [hsize', (pixels_of_compositor hc hs hb hm).2]
  · rw [← hrect]
    exact Coordinator.present_of_backend rfl hpresent
  · exact pixels_of_replaced hs hb hsize' hmem rfl (b.replaceBits_memoryId bs)
  · exact pixels_of_replaced hs hb hsize' hmem hbits (hlike.2.2.2.1.trans (b.replaceBits_memoryId bs))

/-- **Drawing the test pattern** logs a refusal without a backend, and otherwise paints the bars
and presents the whole frame once. -/
theorem drawTestPattern_outcome (fb : FrameBuffer) (d : Devices) :
    (fb.coordinator.backend = none → runAct fb.drawTestPattern d = (.ok fb, { d with
      log := d.log.push ⟨.warn, .frameBuffer, "test pattern failed",
        [⟨"error", .text Error.notInitialized.message⟩, ⟨"mode", .str fb.mode.name⟩]⟩ })) ∧
    (∀ b, fb.coordinator.Sound True → fb.Synced → fb.coordinator.backend = some b →
      fb.bufferSize ≤ b.bits.size → fb.ShowsPattern d) ∧
    ∀ dim : Dimension, ∀ r ∈ barRects dim.toRect, Coord.Fits r.left ∧ Coord.Fits r.right :=
  ⟨fun h => drawTestPattern_of_none h d, fun _ hc hs hb hmem => showsPattern_of_sound hc hs hb hmem d,
    barRects_fit⟩

/-- A frame buffer of `2 × 1` pixels bound to the section of a live raster backend. -/
def twoPixelFrame : FrameBuffer where
  coordinator :=
    { platform := .devices
      config := some ⟨.bgra32, ⟨2, 1⟩, some .desktop⟩
      backend := some (.raster ⟨⟨0, zeroBytes 8, 2, 8⟩, ⟨2, 1⟩, (0, 0), .desktop⟩) }
  dimension := ⟨2, 1⟩
  binding := some 0

theorem two_pixel_frame_shows_pattern :
    twoPixelFrame.coordinator.Sound True ∧ twoPixelFrame.Synced ∧ twoPixelFrame.bufferSize ≤ 8 ∧
      twoPixelFrame.ShowsPattern {} := by
  have hc : twoPixelFrame.coordinator.Sound True := by
    refine ⟨fun cfg h => ?_, fun b h => ?_, fun b h _ => ?_⟩
    · cases h
      exact ⟨by decide, rfl⟩
    · cases h
      exact ⟨rfl, _, rfl, rfl, rfl⟩
    · cases h
      rfl
  have hs : twoPixelFrame.Synced := ⟨rfl, fun b h => by cases h; exact ⟨_, rfl, rfl, rfl⟩⟩
  have hmem : twoPixelFrame.bufferSize ≤ 8 := by decide
  exact ⟨hc, hs, hmem, (drawTestPattern_outcome twoPixelFrame {}).2.1 _ hc hs rfl hmem⟩

end FrameBuffer

end Presenter
