import Mathlib
import Presenter.Proofs.FillRegion
import Presenter.Proofs.Refusal
/-!
# Exchanging pixels with the screen — presents and captures of a raster backend

Both directions work on the part of a rectangle inside the frame. A present puts each pixel of
the part on the screen at its own point (`present_presented`); a failed one is only logged. A
capture fills each pixel from the screen at the point moved by the desktop origin
(`capture_captured`), but the device adds with 32-bit arithmetic and stops the program when the
last column or row read lies past the greatest coordinate (`capture_stops_past_range`). At origin
zero a present then a capture of one rectangle give the backend back (`present_capture_exchange`).
-/

namespace Presenter

open Std.Do

set_option mvcgen.warning false

/-! ## Points of the screen -/

namespace Point

theorem compare_eq_iff {a b : Point} : compare a b = .eq ↔ a = b := by
  show (compare a.x b.x).then (compare a.y b.y) = .eq ↔ a = b
  rw [Ordering.then_eq_eq, compare_eq_iff_eq, compare_eq_iff_eq]
  constructor
  · rintro ⟨hx, hy⟩
    cases a
    cases b
    simp_all
  · rintro rfl
    exact ⟨rfl, rfl⟩

/-- The order of points is the order of `x`, then of `y`. -/
instance : Std.TransCmp (compare : Point → Point → Ordering) :=
  inferInstanceAs (Std.TransCmp (compareLex (compareOn Point.x) (compareOn Point.y)))

end Point

namespace Screen

theorem pixelAt_eq (s : Screen) (p : Point) : s.pixelAt p = s[p]?.getD (ByteArray.mk #[0, 0, 0, 0]) := by
  rw [pixelAt, Std.TreeMap.get?_eq_getElem?]

theorem getElem?_insert (s : Screen) (p q : Point) (px : ByteArray) :
    (s.insert p px)[q]? = if p = q then some px else s[q]? := by
  rw [Std.TreeMap.getElem?_insert]
  simp only [Point.compare_eq_iff]

theorem getElem?_foldl_insert {ι : Type} (key : ι → Point) (val : ι → ByteArray) (F : Point → ByteArray) :
    ∀ l : List ι, (∀ i ∈ l, val i = F (key i)) → ∀ (s : Screen) (q : Point),
      (l.foldl (fun m i => m.insert (key i) (val i)) s)[q]? =
        if ∃ i ∈ l, key i = q then some (F q) else s[q]?
  | [], _, s, q => by simp
  | i :: l, hval, s, q => by
    rw [List.foldl_cons, getElem?_foldl_insert key val F l fun j hj => hval j (List.mem_cons_of_mem i hj),
      getElem?_insert, hval i List.mem_cons_self]
    -- the point is put by a later pixel, by this one, or by none
    by_cases hl : ∃ j ∈ l, key j = q
    · have hl' : ∃ j ∈ i :: l, key j = q := by
        obtain ⟨j, hj, hjq⟩ := hl
        exact ⟨j, List.mem_cons_of_mem i hj, hjq⟩
      rw [if_pos hl, if_pos hl']
    · by_cases hi : key i = q
      · rw [if_neg hl, if_pos hi, if_pos ⟨i, List.mem_cons_self, hi⟩, hi]
      · have hnone : ¬ ∃ j ∈ i :: l, key j = q := by
          rintro ⟨j, hj, hjq⟩
          rcases List.mem_cons.1 hj with rfl | hj
          · exact hi hjq
          · exact hl ⟨j, hj, hjq⟩
        rw [if_neg hl, if_neg hi, if_neg hnone]

end Screen

/-! ## The part of a rectangle in the frame -/

section Part

variable (R : Rect) (dim : Dimension)

theorem clampTo_width : (R.clampTo dim).width = (R.clampTo dim).right - (R.clampTo dim).left := by
  unfold Rect.width
  apply Coord.sat_of_fits
  simp only [Coord.Fits, Coord.lo, Coord.hi, Rect.clampTo, Rect.inter_left, Rect.inter_right,
    Dimension.toRect]
  omega

theorem clampTo_height : (R.clampTo dim).height = (R.clampTo dim).bottom - (R.clampTo dim).top := by
  unfold Rect.height
  apply Coord.sat_of_fits
  simp only [Coord.Fits, Coord.lo, Coord.hi, Rect.clampTo, Rect.inter_top, Rect.inter_bottom,
    Dimension.toRect]
  omega

theorem mem_clampTo_block {q : Point} :
    (∃ p ∈ List.range ((R.clampTo dim).bottom - (R.clampTo dim).top).toNat ×ˢ
        List.range ((R.clampTo dim).right - (R.clampTo dim).left).toNat,
      (⟨(R.clampTo dim).left + (p.2 : Int), (R.clampTo dim).top + (p.1 : Int)⟩ : Point) = q) ↔
      (R.clampTo dim).Contains q.x q.y := by
  obtain ⟨hl, ht⟩ := clampTo_corner_nonneg R dim
  generalize R.clampTo dim = T at hl ht ⊢
  have hmem : ∀ p : Nat × Nat, p ∈ List.range (T.bottom - T.top).toNat ×ˢ List.range (T.right - T.left).toNat ↔
      p.1 < (T.bottom - T.top).toNat ∧ p.2 < (T.right - T.left).toNat := by
    rintro ⟨r, c⟩
    simp only [List.mem_product, List.mem_range]
  constructor
  · rintro ⟨p, hp, rfl⟩
    obtain ⟨hr, hc⟩ := (hmem p).1 hp
    simp only [Rect.Contains]
    omega
  · intro hq
    simp only [Rect.Contains] at hq
    refine ⟨((q.y - T.top).toNat, (q.x - T.left).toNat), (hmem _).2 ⟨by omega, by omega⟩, ?_⟩
    cases q
    simp only [Point.mk.injEq] at hq ⊢
    omega

theorem clampTo_corner_add_zero (h : (R.clampTo dim).isEmpty = false) :
    Coord.add (R.clampTo dim).left 0 = (R.clampTo dim).left ∧
      Coord.add (R.clampTo dim).top 0 = (R.clampTo dim).top ∧
      (R.clampTo dim).right ≤ Coord.hi ∧ (R.clampTo dim).bottom ≤ Coord.hi := by
  obtain ⟨hl, ht⟩ := clampTo_corner_nonneg R dim
  rw [Rect.isEmpty_eq_false] at h
  have hfar : (R.clampTo dim).right ≤ Coord.hi ∧ (R.clampTo dim).bottom ≤ Coord.hi := by
    simp only [Rect.clampTo, Rect.inter_right, Rect.inter_bottom, Rect.inter_left, Rect.inter_top,
      Dimension.toRect] at h ⊢
    omega
  simp only [Coord.add, add_zero]
  exact ⟨Coord.sat_of_fits ⟨by unfold Coord.lo; omega, by omega⟩,
    Coord.sat_of_fits ⟨by unfold Coord.lo; omega, by omega⟩, hfar⟩

end Part

/-! ## The raster device -/

theorem pixels_apart {W bpp x y x' y' : Nat} (hx : x < W) (hx' : x' < W) (hne : (y, x) ≠ (y', x')) :
    y * (W * bpp) + x * bpp + bpp ≤ y' * (W * bpp) + x' * bpp ∨
      y' * (W * bpp) + x' * bpp + bpp ≤ y * (W * bpp) + x * bpp := by
  have h := @PixelBuffer.pixel_pieces_apart W bpp 0 0 W (by omega) [(y, x), (y', x')]
    (by simp [hne]) (by simp [hx, hx'])
  simpa [PiecesApart] using h

theorem ByteArray.copySlice_extract_self {a : ByteArray} {o n : Nat} (h : o + n ≤ a.size) :
    (a.extract o (o + n)).copySlice 0 a o n = a := by
  have hsrc : 0 + n ≤ (a.extract o (o + n)).size := by
    simp only [ByteArray.size_extract]
    omega
  refine ByteArray.ext (Array.ext_getElem? fun i => ?_)
  rw [ByteArray.copySlice_getElem? h hsrc]
  split_ifs with hi
  · simp only [ByteArray.data_extract, Array.getElem?_extract, ByteArray.size_data]
    rw [if_pos (by omega)]
    congr 1
    omega
  · rfl

namespace Section

theorem offset_eq (s : Section) (x y : Nat) : s.offset x y = y * (s.width * 4) + x * 4 := by
  unfold offset
  ring

end Section

namespace RasterDevice

theorem getElem?_showOnScreen (screen : Screen) (s : Section) (R : Rect) (dim : Dimension) (q : Point) :
    (showOnScreen screen s (R.clampTo dim))[q]? =
      if (R.clampTo dim).Contains q.x q.y then some (s.pixel q.x.toNat q.y.toNat) else screen[q]? := by
  obtain ⟨hl, ht⟩ := clampTo_corner_nonneg R dim
  have hfold : showOnScreen screen s (R.clampTo dim) =
      (List.range ((R.clampTo dim).bottom - (R.clampTo dim).top).toNat ×ˢ
          List.range ((R.clampTo dim).right - (R.clampTo dim).left).toNat).foldl
        (fun m p => m.insert ⟨(R.clampTo dim).left + (p.2 : Int), (R.clampTo dim).top + (p.1 : Int)⟩
          (s.pixel ((R.clampTo dim).left.toNat + p.2) ((R.clampTo dim).top.toNat + p.1))) screen := by
    rw [List.foldl_product]
    rfl
  -- each pixel put is the section's pixel at the point it is put at
  rw [hfold, Screen.getElem?_foldl_insert _ _ (fun q => s.pixel q.x.toNat q.y.toNat) _
    (fun p _ => by dsimp only; congr 1 <;> omega)]
  by_cases hq : (R.clampTo dim).Contains q.x q.y
  · rw [if_pos ((mem_clampTo_block R dim).2 hq), if_pos hq]
  · rw [if_neg (mt (mem_clampTo_block R dim).1 hq), if_neg hq]

theorem fillFromScreen_eq_writePieces (screen : Screen) (s : Section) (T : Rect) (sx sy : Int) (w h : Nat) :
    fillFromScreen screen s T sx sy w h =
      writePieces (fun p => screen.pixelAt ⟨sx + (p.2 : Int), sy + (p.1 : Int)⟩) s.bits
        (List.range h ×ˢ List.range w) 4 (fun _ => 0)
        (fun p => (T.top.toNat + p.1) * (s.width * 4) + (T.left.toNat + p.2) * 4) := by
  simp only [fillFromScreen, writePieces, writePixel, Section.offset_eq, List.foldl_product]

theorem fillFromScreen_pixels {screen : Screen} {s : Section} {T : Rect} {sx sy : Int} {w h H : Nat}
    (hsize : s.bits.size = s.width * 4 * H) (hx : T.left.toNat + w ≤ s.width) (hy : T.top.toNat + h ≤ H)
    (h4 : ∀ q, (screen.pixelAt q).size = 4) :
    let s' := { s with bits := fillFromScreen screen s T sx sy w h }
    s'.bits.size = s.bits.size ∧
    (∀ c < w, ∀ r < h,
      s'.pixel (T.left.toNat + c) (T.top.toNat + r) = screen.pixelAt ⟨sx + (c : Int), sy + (r : Int)⟩) ∧
    (∀ x y, x < s.width → y < H →
      ¬ (T.left.toNat ≤ x ∧ x < T.left.toNat + w ∧ T.top.toNat ≤ y ∧ y < T.top.toNat + h) →
      s'.pixel x y = s.pixel x y) := by
  intro s'
  obtain ⟨hin, hout⟩ := @writePieces_pixel_block _ s.bits s.width H 4 T.left.toNat T.top.toNat w h 4 hsize
    hx hy le_rfl fun p => (h4 _).ge
  have hwid : s'.width = s.width := rfl
  have hfill : s'.bits = _ := fillFromScreen_eq_writePieces screen s T sx sy w h
  have hsize' : s'.bits.size = s.bits.size := by
    rw [hfill, writePieces_size fun p hp => hsize ▸ block_pixel_end_le hx hy le_rfl hp]
  refine ⟨hsize', fun c hc r hr => ?_, fun x y hxw hyH hxy => ?_⟩
  · -- the four bytes of the pixel are those of the screen pixel
    have hend : (T.top.toNat + r) * (s.width * 4) + (T.left.toNat + c) * 4 + 4 ≤ s.bits.size := by
      rw [hsize]
      exact pixel_end_le (by omega) (by omega)
    refine ByteArray.ext (Array.ext_getElem? fun j => ?_)
    simp only [Section.pixel, Section.offset_eq, hwid, ByteArray.data_extract, Array.getElem?_extract,
      ByteArray.size_data, hsize', Nat.min_eq_left hend, Nat.add_sub_cancel_left]
    by_cases hj : j < 4
    · rw [if_pos hj, hfill, hin c hc r hr j hj]
    · rw [if_neg hj, Array.getElem?_eq_none (by rw [ByteArray.size_data, h4]; omega)]
  · -- every byte of a pixel outside the part is a byte no piece writes
    refine ByteArray.ext (Array.ext_getElem? fun j => ?_)
    simp only [Section.pixel, Section.offset_eq, hwid, ByteArray.data_extract, Array.getElem?_extract,
      ByteArray.size_data, hsize']
    split_ifs with hj
    · rw [hfill]
      refine hout _ fun c hc r hr k hk heq => hxy ?_
      have hapart := @pixels_apart s.width 4 x y (T.left.toNat + c) (T.top.toNat + r) hxw (by omega)
      by_contra hne
      rcases hapart (fun he => hne (by simp only [Prod.mk.injEq] at he; omega)) with h | h <;> omega
    · rfl

theorem fillFromScreen_of_shown {screen : Screen} {s : Section} {R : Rect} {dim : Dimension}
    (hsize : s.bits.size = dim.width * 4 * dim.height) (hwidth : s.width = dim.width)
    (hne : (R.clampTo dim).isEmpty = false)
    (hshown : ∀ q : Point, (R.clampTo dim).Contains q.x q.y → screen[q]? = some (s.pixel q.x.toNat q.y.toNat)) :
    fillFromScreen screen s (R.clampTo dim) (R.clampTo dim).left (R.clampTo dim).top
      ((R.clampTo dim).right - (R.clampTo dim).left).toNat ((R.clampTo dim).bottom - (R.clampTo dim).top).toNat =
      s.bits := by
  obtain ⟨hl, ht⟩ := clampTo_corner_nonneg R dim
  obtain ⟨hx, hy⟩ := clampTo_within R dim hne
  rw [fillFromScreen_eq_writePieces]
  refine writePieces_of_fixed _ fun p hp => ?_
  obtain ⟨hr, hc⟩ := List.mem_product.1 hp
  rw [List.mem_range] at hr hc
  -- the pixel read is the section's own, and it sits inside the section
  have hpix : screen.pixelAt ⟨(R.clampTo dim).left + (p.2 : Int), (R.clampTo dim).top + (p.1 : Int)⟩ =
      s.pixel ((R.clampTo dim).left.toNat + p.2) ((R.clampTo dim).top.toNat + p.1) := by
    rw [Screen.pixelAt_eq, hshown _ (by simp only [Rect.Contains]; omega), Option.getD_some]
    congr 1 <;> dsimp only <;> omega
  have hend : ((R.clampTo dim).top.toNat + p.1) * (s.width * 4) + ((R.clampTo dim).left.toNat + p.2) * 4 + 4 ≤
      s.bits.size := by
    rw [hsize, ← hwidth]
    exact pixel_end_le (by omega) (by omega)
  rw [hpix, Section.pixel, Section.offset_eq]
  exact ByteArray.copySlice_extract_self hend

end RasterDevice

/-! ## Presents -/

namespace RasterBackend

variable (b : RasterBackend) (rect : Rect) (d : Devices)

theorem present_of_empty (h : (rect.clampTo b.dimension).isEmpty = true) :
    runAct (b.present rect) d = (.ok (), d) := by
  simp [present, h]

theorem present_of_fail (h : (rect.clampTo b.dimension).isEmpty = false) (hf : d.raster.failPresent = true) :
    runAct (b.present rect) d = (.ok (), { d with log := d.log.push ⟨.warn, .raster,
      "raster present failed, frame skipped", [⟨"error", .text (Error.platform "stub present failed").message⟩,
        ⟨"rect", .text (rect.clampTo b.dimension).describe⟩]⟩ }) := by
  simp [present, h, runAct_bind, RasterDevice.blitToSurface, hf, Act.warn]

theorem present_of_shown (h : (rect.clampTo b.dimension).isEmpty = false) (hf : d.raster.failPresent = false) :
    runAct (b.present rect) d = (.ok (), { d with raster := { d.raster with
      surfaceBlits := d.raster.surfaceBlits ++ [rect.clampTo b.dimension],
      screen := RasterDevice.showOnScreen d.raster.screen b.memory (rect.clampTo b.dimension) } }) := by
  simp [present, h, runAct_bind, RasterDevice.blitToSurface, hf]

/-! ## Captures -/

/-- The screen point a capture of the part `T` reads for the section pixel `(x, y)`: the part's
corner moved by the origin `o`, each coordinate saturated, then the pixel's place in the part. -/
def readPoint (T : Rect) (o : Int × Int) (x y : Nat) : Point :=
  ⟨Coord.add T.left o.1 + ((x : Int) - T.left), Coord.add T.top o.2 + ((y : Int) - T.top)⟩

theorem readPoint_of_fits {T : Rect} {o : Int × Int} (hx : Coord.Fits (T.left + o.1))
    (hy : Coord.Fits (T.top + o.2)) (x y : Nat) : readPoint T o x y = ⟨x + o.1, y + o.2⟩ := by
  simp only [readPoint, Coord.add, Coord.sat_of_fits hx, Coord.sat_of_fits hy, Point.mk.injEq]
  omega

/-- A capture of the part `T` whose last column or last row of screen points, read from the moved
corner, lies past the greatest coordinate. -/
def ReadsPast (T : Rect) (o : Int × Int) : Prop :=
  Coord.hi < Coord.add T.left o.1 + (T.right - T.left - 1) ∨
    Coord.hi < Coord.add T.top o.2 + (T.bottom - T.top - 1)

instance (T : Rect) (o : Int × Int) : Decidable (ReadsPast T o) := inferInstanceAs (Decidable (_ ∨ _))

theorem blit_stops_iff (R : Rect) (dim : Dimension) (o : Int × Int) (h : (R.clampTo dim).isEmpty = false) :
    (0 < (R.clampTo dim).width.toNat ∧ 0 < (R.clampTo dim).height.toNat ∧
      (Coord.hi < Coord.add (R.clampTo dim).left o.1 + (((R.clampTo dim).width.toNat : Int) - 1) ∨
        Coord.hi < Coord.add (R.clampTo dim).top o.2 + (((R.clampTo dim).height.toNat : Int) - 1))) ↔
      ReadsPast (R.clampTo dim) o := by
  rw [Rect.isEmpty_eq_false] at h
  rw [clampTo_width, clampTo_height]
  unfold ReadsPast
  omega

theorem not_readsPast_zero (R : Rect) (dim : Dimension) (h : (R.clampTo dim).isEmpty = false) :
    ¬ ReadsPast (R.clampTo dim) (0, 0) := by
  obtain ⟨hsx, hsy, hright, hbottom⟩ := clampTo_corner_add_zero R dim h
  unfold ReadsPast
  rw [hsx, hsy]
  omega

variable (mode : CaptureMode)

theorem capture_of_empty (h : (rect.clampTo b.dimension).isEmpty = true) :
    runAct (b.capture rect mode) d = (.ok b, { d with log := d.log.push ⟨.debug, .raster,
      "capture rect is outside the pixel section", [⟨"rect", .text rect.describe⟩]⟩ }) := by
  simp [capture, h, runAct_map, Act.debug]

theorem capture_of_fail (h : (rect.clampTo b.dimension).isEmpty = false) (hf : d.raster.failCapture = true) :
    runAct (b.capture rect mode) d =
      (.error (.error (Error.transient "screen capture failed" (.platform "stub blit failed"))), d) := by
  simp [capture, h, runAct_bind, RasterDevice.blitFromScreen, hf]

theorem capture_of_past (h : (rect.clampTo b.dimension).isEmpty = false) (hf : d.raster.failCapture = false)
    (hp : ReadsPast (rect.clampTo b.dimension) b.origin) :
    runAct (b.capture rect mode) d = (.error (.halt .addOverflow), { d with poisoned := true }) := by
  have hblit : d.raster.blitFromScreen b.memory (rect.clampTo b.dimension)
      (Coord.add (rect.clampTo b.dimension).left b.origin.1) (Coord.add (rect.clampTo b.dimension).top b.origin.2)
      mode = .error (.halt .addOverflow) := by
    simp only [RasterDevice.blitFromScreen, hf, Bool.false_eq_true, if_false]
    rw [if_pos ((blit_stops_iff rect b.dimension b.origin h).2 hp)]
  simp [capture, h, runAct_bind, hblit]

theorem capture_of_within (h : (rect.clampTo b.dimension).isEmpty = false) (hf : d.raster.failCapture = false)
    (hp : ¬ ReadsPast (rect.clampTo b.dimension) b.origin) :
    runAct (b.capture rect mode) d =
      (.ok { b with memory := { b.memory with
          bits := (RasterDevice.fillFromScreen d.raster.screen b.memory (rect.clampTo b.dimension)
            (Coord.add (rect.clampTo b.dimension).left b.origin.1) (Coord.add (rect.clampTo b.dimension).top b.origin.2)
            ((rect.clampTo b.dimension).right - (rect.clampTo b.dimension).left).toNat
            ((rect.clampTo b.dimension).bottom - (rect.clampTo b.dimension).top).toNat) } },
        { d with raster := { d.raster with
          screenBlits := d.raster.screenBlits ++ [⟨rect.clampTo b.dimension,
            Coord.add (rect.clampTo b.dimension).left b.origin.1,
            Coord.add (rect.clampTo b.dimension).top b.origin.2, mode⟩] } }) := by
  have hblit : d.raster.blitFromScreen b.memory (rect.clampTo b.dimension)
      (Coord.add (rect.clampTo b.dimension).left b.origin.1) (Coord.add (rect.clampTo b.dimension).top b.origin.2)
      mode = .ok ({ b.memory with
          bits := (RasterDevice.fillFromScreen d.raster.screen b.memory (rect.clampTo b.dimension)
            (Coord.add (rect.clampTo b.dimension).left b.origin.1) (Coord.add (rect.clampTo b.dimension).top b.origin.2)
            ((rect.clampTo b.dimension).right - (rect.clampTo b.dimension).left).toNat
            ((rect.clampTo b.dimension).bottom - (rect.clampTo b.dimension).top).toNat) },
        { d.raster with
          screenBlits := d.raster.screenBlits ++ [⟨rect.clampTo b.dimension,
            Coord.add (rect.clampTo b.dimension).left b.origin.1,
            Coord.add (rect.clampTo b.dimension).top b.origin.2, mode⟩] }) := by
    simp only [RasterDevice.blitFromScreen, hf, Bool.false_eq_true, if_false]
    rw [if_neg (mt (blit_stops_iff rect b.dimension b.origin h).1 hp), clampTo_width, clampTo_height]
  simp [capture, h, runAct_bind, runAct_map, hblit]

/-! ## What a present and a capture do -/

/-- A raster backend whose section is as building makes it: rows as wide as the frame, and four
bytes for each pixel of the frame. -/
structure Whole (b : RasterBackend) : Prop where
  width : b.memory.width = b.dimension.width
  size : b.memory.bits.size = b.dimension.width * 4 * b.dimension.height

theorem new_whole (c : BackendConfig) :
    ⦃fun _ => ⌜True⌝⦄ RasterBackend.new c ⦃post⟨fun b _ => ⌜b.Whole⌝, fun _ _ => ⌜True⌝⟩⦄ := by
  mvcgen [RasterBackend.new, -RasterBackend.new_spec, -resolveSurface_spec, resolveSurface, isLiveWindow,
    Act.allocate, Act.ofExcept, Act.fail, Act.onRaster, Act.debug, Act.emit]
  all_goals simp_all
  -- what is left is the section made: zeroed memory of the clamped size, four bytes a pixel
  all_goals
    refine ⟨rfl, ?_⟩
    simp only [zeroBytes_size, BackendConfig.bytesPerPixel_of_validate ‹_›]
    ring

/-- What a present of `rect` from the backend `b` does to the devices `d`, leaving `d'`. -/
structure Presented (b : RasterBackend) (rect : Rect) (d d' : Devices) : Prop where
  /-- Only the screen, the record of copies to the surface and the log may change. -/
  keeps : d' = { d with
    raster := { d.raster with screen := d'.raster.screen, surfaceBlits := d'.raster.surfaceBlits },
    log := d'.log }
  /-- Unless the copy is made to fail, each point of the part of `rect` in the frame shows the
  section's pixel there, and every other point keeps its pixel. -/
  shown : d.raster.failPresent = false → ∀ q : Point, d'.raster.screen[q]? =
    if (rect.clampTo b.dimension).Contains q.x q.y then some (b.memory.pixel q.x.toNat q.y.toNat)
    else d.raster.screen[q]?
  /-- A failed copy skips the frame: the raster device stays as it was. -/
  skipped : d.raster.failPresent = true → d'.raster = d.raster

/-- **A present answers, and does what `Presented` says**, from every backend on every devices. -/
theorem present_presented : ∃ d', runAct (b.present rect) d = (.ok (), d') ∧ b.Presented rect d d' := by
  by_cases hT : (rect.clampTo b.dimension).isEmpty = true
  · -- a part with no pixel: nothing changes
    refine ⟨d, present_of_empty b rect d hT, rfl, fun _ q => ?_, fun _ => rfl⟩
    rw [if_neg fun hq => (Rect.isEmpty_iff _).1 hT ⟨_, _, hq⟩]
  · rw [Bool.not_eq_true] at hT
    cases hf : d.raster.failPresent
    · exact ⟨_, present_of_shown b rect d hT hf, rfl,
        fun _ q => RasterDevice.getElem?_showOnScreen _ _ _ _ q, fun h => by simp [hf] at h⟩
    · exact ⟨_, present_of_fail b rect d hT hf, rfl, fun h => by simp [hf] at h, fun _ => rfl⟩

/-- What a capture of `rect` from the backend `b` on the devices `d` does: the result `r`, and the
devices `d'` it leaves. -/
structure Captured (b : RasterBackend) (rect : Rect) (d : Devices) (r : Except Stop RasterBackend)
    (d' : Devices) : Prop where
  /-- A part with no pixel makes no copy: the backend is given back and only the log changes. -/
  none : (rect.clampTo b.dimension).isEmpty = true → r = .ok b ∧ d' = { d with log := d'.log }
  /-- A copy made to fail is refused as worth a retry, and changes nothing. -/
  failed : (rect.clampTo b.dimension).isEmpty = false → d.raster.failCapture = true →
    ∃ e, r = .error (.error e) ∧ e.retryable = true ∧ d' = d
  /-- A copy that reads past the greatest coordinate stops the program and leaves the devices
  stuck. -/
  stopped : (rect.clampTo b.dimension).isEmpty = false → d.raster.failCapture = false →
    ReadsPast (rect.clampTo b.dimension) b.origin → r = .error (.halt .addOverflow) ∧ d' = { d with poisoned := true }
  /-- Any other copy fills each pixel of the part with the screen's pixel at the point it reads,
  keeps every other pixel of the frame and all else of the backend, and only records the copy. -/
  copied : (rect.clampTo b.dimension).isEmpty = false → d.raster.failCapture = false →
    ¬ ReadsPast (rect.clampTo b.dimension) b.origin →
    ∃ b', r = .ok b' ∧ b' = { b with memory := { b.memory with bits := b'.memory.bits } } ∧
      b'.memory.bits.size = b.memory.bits.size ∧
      (∀ x y : Nat, (rect.clampTo b.dimension).Contains x y →
        b'.memory.pixel x y = d.raster.screen.pixelAt (readPoint (rect.clampTo b.dimension) b.origin x y)) ∧
      (∀ x y : Nat, x < b.dimension.width → y < b.dimension.height → ¬ (rect.clampTo b.dimension).Contains x y →
        b'.memory.pixel x y = b.memory.pixel x y) ∧
      d' = { d with raster := { d.raster with screenBlits := d'.raster.screenBlits } }

/-- **A capture does what `Captured` says**, from every whole backend on devices whose screen holds
four bytes at every point. -/
theorem capture_captured (hb : b.Whole) (h4 : ∀ q, (d.raster.screen.pixelAt q).size = 4) :
    b.Captured rect d (runAct (b.capture rect mode) d).1 (runAct (b.capture rect mode) d).2 := by
  refine ⟨fun hT => ?_, fun hT hf => ?_, fun hT hf hp => ?_, fun hT hf hp => ?_⟩
  · rw [capture_of_empty b rect d mode hT]
    exact ⟨rfl, rfl⟩
  · rw [capture_of_fail b rect d mode hT hf]
    exact ⟨_, rfl, rfl, rfl⟩
  · rw [capture_of_past b rect d mode hT hf hp]
    exact ⟨rfl, rfl⟩
  · rw [capture_of_within b rect d mode hT hf hp]
    obtain ⟨hl, ht⟩ := clampTo_corner_nonneg rect b.dimension
    obtain ⟨hx, hy⟩ := clampTo_within rect b.dimension hT
    have hne := (Rect.isEmpty_eq_false _).1 hT
    have hsize : b.memory.bits.size = b.memory.width * 4 * b.dimension.height := by
      rw [hb.size, hb.width]
    obtain ⟨hsize', hin, hout⟩ := @RasterDevice.fillFromScreen_pixels d.raster.screen b.memory
      (rect.clampTo b.dimension) (Coord.add (rect.clampTo b.dimension).left b.origin.1)
      (Coord.add (rect.clampTo b.dimension).top b.origin.2) _ _ _ hsize (hb.width ▸ hx) hy h4
    refine ⟨_, rfl, rfl, hsize', (forall_clampTo_iff rect b.dimension).2 fun c hc r hr => ?_,
      fun x y hxW hyH hxy => hout x y (hb.width ▸ hxW) hyH fun hin' => hxy ?_, rfl⟩
    · -- the point read for the pixel is the moved corner plus its place in the part
      rw [hin c hc r hr]
      congr 1
      simp only [readPoint, Point.mk.injEq]
      omega
    · simp only [Rect.Contains]
      omega

/-- **A present then a capture of one rectangle give the backend back as it was**, memory and
contents, from a whole backend at origin zero with neither copy made to fail. -/
theorem present_capture_exchange (hb : b.Whole) (ho : b.origin = (0, 0)) (hp : d.raster.failPresent = false)
    (hc : d.raster.failCapture = false) :
    ∃ d₁ d₂, runAct (b.present rect) d = (.ok (), d₁) ∧ runAct (b.capture rect mode) d₁ = (.ok b, d₂) := by
  obtain ⟨d₁, hrun, hpres⟩ := present_presented b rect d
  have hc₁ : d₁.raster.failCapture = false := by
    rw [hpres.keeps]
    exact hc
  by_cases hT : (rect.clampTo b.dimension).isEmpty = true
  · exact ⟨d₁, _, hrun, capture_of_empty b rect d₁ mode hT⟩
  rw [Bool.not_eq_true] at hT
  -- at origin zero the capture reads the points of the part, which show the section's own pixels
  obtain ⟨hsx, hsy, -⟩ := clampTo_corner_add_zero rect b.dimension hT
  have hfill := RasterDevice.fillFromScreen_of_shown hb.size hb.width hT fun q hq => by
    rw [hpres.shown hp, if_pos hq]
  have hcapture := capture_of_within b rect d₁ mode hT hc₁ (ho ▸ not_readsPast_zero rect b.dimension hT)
  rw [show b.origin.1 = 0 by rw [ho], show b.origin.2 = 0 by rw [ho], hsx, hsy, hfill] at hcapture
  exact ⟨d₁, _, hrun, hcapture⟩

/-- **What presents and captures of a raster backend do**, and a present then a capture at origin
zero gives the backend back. -/
theorem screen_exchange_outcome (b : RasterBackend) (rect : Rect) (mode : CaptureMode) (d : Devices) :
    (∃ d', runAct (b.present rect) d = (.ok (), d') ∧ b.Presented rect d d') ∧
    (b.Whole → (∀ q, (d.raster.screen.pixelAt q).size = 4) →
      b.Captured rect d (runAct (b.capture rect mode) d).1 (runAct (b.capture rect mode) d).2) ∧
    (∀ x y : Nat, Coord.Fits ((rect.clampTo b.dimension).left + b.origin.1) →
      Coord.Fits ((rect.clampTo b.dimension).top + b.origin.2) →
      readPoint (rect.clampTo b.dimension) b.origin x y = ⟨x + b.origin.1, y + b.origin.2⟩) ∧
    (b.Whole → b.origin = (0, 0) → d.raster.failPresent = false → d.raster.failCapture = false →
      ∃ d₁ d₂, runAct (b.present rect) d = (.ok (), d₁) ∧ runAct (b.capture rect mode) d₁ = (.ok b, d₂)) :=
  ⟨present_presented b rect d, fun hb h4 => capture_captured b rect d mode hb h4,
    fun x y hx hy => readPoint_of_fits hx hy x y,
    fun hb ho hp hc => present_capture_exchange b rect d mode hb ho hp hc⟩

/-- A 2×2 section of sixteen distinct bytes at origin zero goes to the screen and comes back
unchanged. -/
theorem two_by_two_exchange :
    let b : RasterBackend := ⟨⟨0, ⟨#[1, 2, 3, 4, 5, 6, 7, 8, 9, 10, 11, 12, 13, 14, 15, 16]⟩, 2, 16⟩, ⟨2, 2⟩,
      (0, 0), SurfaceHandle.desktop⟩
    b.Whole ∧ ∃ d₁ d₂, runAct (b.present ⟨0, 0, 2, 2⟩) {} = (.ok (), d₁) ∧
      runAct (b.capture ⟨0, 0, 2, 2⟩ .withLayered) d₁ = (.ok b, d₂) :=
  have hb : Whole ⟨⟨0, ⟨#[1, 2, 3, 4, 5, 6, 7, 8, 9, 10, 11, 12, 13, 14, 15, 16]⟩, 2, 16⟩, ⟨2, 2⟩, (0, 0),
      SurfaceHandle.desktop⟩ := ⟨rfl, rfl⟩
  ⟨hb, (screen_exchange_outcome _ _ .withLayered {}).2.2.2 hb rfl rfl rfl⟩

/-- **At an origin of `2^31 - 1` a capture stops the program**: the second column it reads lies
past the greatest coordinate. -/
theorem capture_stops_past_range :
    let b : RasterBackend := ⟨⟨0, zeroBytes 16, 2, 16⟩, ⟨2, 2⟩, (Coord.hi, 0), SurfaceHandle.desktop⟩
    runAct (b.capture ⟨0, 0, 2, 2⟩ .solidOnly) {} = (.error (.halt .addOverflow), { poisoned := true }) :=
  capture_of_past _ _ _ _ (by decide) rfl (by decide)

end RasterBackend

end Presenter
