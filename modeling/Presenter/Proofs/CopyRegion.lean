import Mathlib
import Presenter.Proofs.PixelExtent
/-!
# Copy region — the pixels a copy between two buffers writes

A transfer writes the pixels of `D` inside the destination that the offset
`(sx - D.left, sy - D.top)` moves inside the source (`InTransfer`). The cut `clipPair` saturates
every step and still lands on exactly that rectangle (`clipPair_eq`), except that an offset at or
below the least coordinate stops the program (`clipPair_outcome`). A block of rows is copied
exactly (`copyRows_block`), and `copyFrom_outcome` says what a copy does.
-/

namespace Presenter

namespace Coord

theorem sub_of_lo_lt {x y : Int} (h : lo < x - y) : sub x y = min (x - y) hi := by
  unfold sub sat lo hi at *
  omega

theorem add_of_lo_lt {x o : Int} (h : lo < x + o) : add x o = min (x + o) hi := by
  unfold add sat lo hi at *
  omega

theorem sub_eq_lo_iff (x y : Int) : sub x y = lo ↔ x - y ≤ lo := by
  unfold sub sat lo hi
  omega

theorem sub_pos_iff (x y : Int) : 0 < sub x y ↔ y < x := by
  unfold sub sat lo hi
  omega

theorem sub_self (x : Int) : sub x x = 0 := by
  simp [sub, sat, lo, hi]

theorem add_add_neg {L o : Int} (hL : Fits L) : add (L + o) (-o) = L := by
  rw [add, show L + o + -o = L by omega]
  exact sat_of_fits hL

-- One axis of `clipPair`, as in `cut_axis`: the span `[a, b)` cut to the destination, `[l, r)`,
-- moved by the offset `o` and cut to the source, `[p, q)`. Here the offset is exact, not
-- saturated, and above the least coordinate. `B` is the destination's end, `Sc` the source's.

theorem cut_nonempty {B Sc o l r p q : Int} (ho : lo < o) (hl0 : 0 ≤ l) (hr : r = max B l)
    (hp : p = max (add l o) 0) (hq : q = max (min (add r o) Sc) p) (hSc : Sc ≤ hi)
    (hLR : max l (-o) < min B (Sc - o)) :
    p = max l (-o) + o ∧ q = min B (Sc - o) + o := by
  have hB : r = B := by omega
  subst hB
  rw [add_of_lo_lt (by unfold lo at *; omega)] at hp hq
  omega

theorem cut_empty {B Sc o l r p q : Int} (ho : lo < o) (hl0 : 0 ≤ l) (hr : r = max B l)
    (hp : p = max (add l o) 0) (hq : q = max (min (add r o) Sc) p) (hSc : Sc ≤ hi)
    (hRL : min B (Sc - o) ≤ max l (-o)) : q = p := by
  rw [add_of_lo_lt (by unfold lo at *; omega)] at hp
  rw [add_of_lo_lt (by unfold lo at *; omega)] at hq
  omega

theorem cut_far {Sc l r p q : Int} (hl0 : 0 ≤ l) (hlr : l ≤ r) (hp : p = max (add l hi) 0)
    (hq : q = max (min (add r hi) Sc) p) (hSc : Sc ≤ hi) : p = hi ∧ q = hi := by
  unfold add sat lo hi at *
  omega

/-- **One axis of a transfer's cut is exact** when the offset `s - a` lies above the least
coordinate. -/
theorem cut_axis_exact {a b s W S l r p q u v : Int} (ho : lo < s - a)
    (hl : l = max a 0) (hr : r = max (min b (min W hi)) l)
    (hp : p = max (add l (sub s a)) 0) (hq : q = max (min (add r (sub s a)) (min S hi)) p)
    (hu : u = add p (-sub s a)) (hv : v = add q (-sub s a)) :
    (max l (-(s - a)) < min (min b (min W hi)) (min S hi - (s - a)) →
      u = max l (-(s - a)) ∧ v = min (min b (min W hi)) (min S hi - (s - a)) ∧ p = u + (s - a)) ∧
    (min (min b (min W hi)) (min S hi - (s - a)) ≤ max l (-(s - a)) → sub v u ≤ 0) := by
  have hl0 : 0 ≤ l := by rw [hl]; exact le_max_right a 0
  have hlr : l ≤ r := by rw [hr]; exact le_max_right _ l
  have hSc : min S hi ≤ hi := min_le_right S hi
  rw [sub_of_lo_lt ho] at hp hq hu hv
  rcases le_or_gt (s - a) hi with hfit | hbig
  · rw [min_eq_left hfit] at hp hq hu hv
    refine ⟨fun hLR => ?_, fun hRL => ?_⟩
    · obtain ⟨hp', hq'⟩ := cut_nonempty ho hl0 hr hp hq hSc hLR
      -- both ends of a nonempty cut are coordinates, so moving back is exact
      have hLfit : Fits (max l (-(s - a))) := by
        unfold Fits lo hi at *
        omega
      have hRfit : Fits (min (min b (min W hi)) (min S hi - (s - a))) := by
        unfold Fits lo hi at *
        omega
      have hu' : u = max l (-(s - a)) := by rw [hu, hp', add_add_neg hLfit]
      exact ⟨hu', by rw [hv, hq', add_add_neg hRfit], by rw [hp', hu']⟩
    · rw [hv, hu, cut_empty ho hl0 hr hp hq hSc hRL, sub_self]
  · -- an offset past the greatest coordinate reaches nothing of the source
    rw [min_eq_right hbig.le] at hp hq hu hv
    obtain ⟨hp', hq'⟩ := cut_far hl0 hlr hp hq hSc
    refine ⟨fun hLR => ?_, fun _ => ?_⟩
    · unfold hi at hbig hSc hLR
      omega
    · rw [hv, hu, hp', hq', sub_self]

end Coord

/-! ## The pixels a transfer writes -/

/-- Whether a point lies in a rectangle; `right` and `bottom` are exclusive. -/
def Rect.Contains (r : Rect) (x y : Int) : Prop :=
  r.left ≤ x ∧ x < r.right ∧ r.top ≤ y ∧ y < r.bottom

instance (r : Rect) (x y : Int) : Decidable (r.Contains x y) := inferInstanceAs (Decidable (_ ∧ _))

theorem Rect.isEmpty_eq_true (r : Rect) : r.isEmpty = true ↔ r.right ≤ r.left ∨ r.bottom ≤ r.top := by
  have hw : r.width ≤ 0 ↔ r.right ≤ r.left := by rw [← not_lt, Rect.width, Coord.sub_pos_iff, not_lt]
  have hh : r.height ≤ 0 ↔ r.bottom ≤ r.top := by rw [← not_lt, Rect.height, Coord.sub_pos_iff, not_lt]
  simp only [Rect.isEmpty, Bool.or_eq_true, decide_eq_true_eq, hw, hh]

theorem Rect.isEmpty_eq_false (r : Rect) : r.isEmpty = false ↔ r.left < r.right ∧ r.top < r.bottom := by
  rw [← Bool.not_eq_true, Rect.isEmpty_eq_true, not_or, not_le, not_le]

theorem Rect.isEmpty_iff (r : Rect) : r.isEmpty = true ↔ ¬ ∃ x y, r.Contains x y := by
  rw [Rect.isEmpty_eq_true]
  constructor
  · rintro h ⟨x, y, hx1, hx2, hy1, hy2⟩
    omega
  · intro h
    by_contra hne
    exact h ⟨r.left, r.top, le_rfl, by omega, le_rfl, by omega⟩

/-- Pixel `(x, y)` is one that a transfer into `D` writes, for a source at offset `(ox, oy)`: it lies
in `D` and in the destination's extent, and moved by the offset it lies in the source's extent.
Each extent is capped at the greatest coordinate. -/
def InTransfer (D : Rect) (dstExt srcExt : Dimension) (ox oy x y : Int) : Prop :=
  D.Contains x y ∧ dstExt.toRect.Contains x y ∧ srcExt.toRect.Contains (x + ox) (y + oy)

/-- The pixels a transfer writes, as one rectangle computed exactly. -/
def transferRect (D : Rect) (dstExt srcExt : Dimension) (ox oy : Int) : Rect :=
  ⟨max (max D.left 0) (-ox), max (max D.top 0) (-oy),
    min (min D.right (min (dstExt.width : Int) Coord.hi)) (min (srcExt.width : Int) Coord.hi - ox),
    min (min D.bottom (min (dstExt.height : Int) Coord.hi)) (min (srcExt.height : Int) Coord.hi - oy)⟩

section Transfer

variable {D : Rect} {dstExt srcExt : Dimension} {ox oy : Int}

theorem transferRect_contains {x y : Int} :
    (transferRect D dstExt srcExt ox oy).Contains x y ↔ InTransfer D dstExt srcExt ox oy x y := by
  simp only [Rect.Contains, InTransfer, transferRect, Dimension.toRect, max_le_iff, lt_min_iff]
  omega

theorem transferRect_isEmpty_iff :
    (transferRect D dstExt srcExt ox oy).isEmpty = true ↔ ¬ ∃ x y, InTransfer D dstExt srcExt ox oy x y := by
  simp only [Rect.isEmpty_iff, transferRect_contains]

instance : Decidable (∃ x y, InTransfer D dstExt srcExt ox oy x y) :=
  decidable_of_iff (¬ (transferRect D dstExt srcExt ox oy).isEmpty = true) <| by
    rw [transferRect_isEmpty_iff, not_not]

end Transfer

theorem transfer_cut {D : Rect} {dstExt srcExt : Dimension} {sx sy : Int}
    (hox : Coord.lo < sx - D.left) (hoy : Coord.lo < sy - D.top) :
    let src := ((D.clampTo dstExt).translate (Coord.sub sx D.left) (Coord.sub sy D.top)).clampTo srcExt
    let T := transferRect D dstExt srcExt (sx - D.left) (sy - D.top)
    (T.isEmpty = true → (src.translate (-Coord.sub sx D.left) (-Coord.sub sy D.top)).isEmpty = true) ∧
    (T.isEmpty = false → src.translate (-Coord.sub sx D.left) (-Coord.sub sy D.top) = T ∧
      src.left = T.left + (sx - D.left) ∧ src.top = T.top + (sy - D.top)) := by
  intro src T
  obtain ⟨hnx, hex⟩ := @Coord.cut_axis_exact D.left D.right sx dstExt.width srcExt.width _ _ _ _ _ _
    hox rfl rfl rfl rfl rfl rfl
  obtain ⟨hny, hey⟩ := @Coord.cut_axis_exact D.top D.bottom sy dstExt.height srcExt.height _ _ _ _ _ _
    hoy rfl rfl rfl rfl rfl rfl
  constructor
  · -- no pixels to write: one axis of the cut has no width
    intro hT
    rw [Rect.isEmpty_eq_true] at hT
    simp only [T, transferRect] at hT
    simp only [src, Rect.isEmpty, Rect.width, Rect.height, Rect.translate, Rect.clampTo, Rect.inter,
      Dimension.toRect, Bool.or_eq_true, decide_eq_true_eq]
    rcases hT with hT | hT
    · exact .inl (hex hT)
    · exact .inr (hey hT)
  · intro hT
    rw [Rect.isEmpty_eq_false] at hT
    simp only [T, transferRect] at hT
    obtain ⟨hux, hvx, hpx⟩ := hnx hT.1
    obtain ⟨huy, hvy, hpy⟩ := hny hT.2
    simp only [src, T, Rect.translate, Rect.clampTo, Rect.inter, Dimension.toRect, transferRect]
    -- the moved-back corners first: the source corners occur inside them
    rw [hux, huy, hvx, hvy, hpx, hpy, hux, huy]
    exact ⟨rfl, rfl, rfl⟩

/-- **The cut of a transfer is exact**: it keeps exactly the pixels the transfer writes, or stops
the program on a least offset. -/
theorem clipPair_eq (D : Rect) (dstExt : Dimension) (sx sy : Int) (srcExt : Dimension) :
    clipPair D dstExt sx sy srcExt =
      if sx - D.left ≤ Coord.lo ∨ sy - D.top ≤ Coord.lo then .error .negateOverflow
      else if (transferRect D dstExt srcExt (sx - D.left) (sy - D.top)).isEmpty then .ok none
      else .ok (some (transferRect D dstExt srcExt (sx - D.left) (sy - D.top),
        (transferRect D dstExt srcExt (sx - D.left) (sy - D.top)).left + (sx - D.left),
        (transferRect D dstExt srcExt (sx - D.left) (sy - D.top)).top + (sy - D.top))) := by
  unfold clipPair
  simp only [Coord.sub_eq_lo_iff]
  by_cases hhalt : sx - D.left ≤ Coord.lo ∨ sy - D.top ≤ Coord.lo
  · rw [if_pos hhalt, if_pos hhalt]
  rw [if_neg hhalt, if_neg hhalt]
  simp only [not_or, not_le] at hhalt
  obtain ⟨hempty, hcut⟩ := @transfer_cut D dstExt srcExt sx sy hhalt.1 hhalt.2
  cases hT : (transferRect D dstExt srcExt (sx - D.left) (sy - D.top)).isEmpty
  · obtain ⟨hM, hl, ht⟩ := hcut hT
    rw [hM, hl, ht, hT]
  · rw [if_pos (hempty hT)]
    rfl

/-- **What the cut of a transfer answers, for every rectangle, both extents and every source
origin.** -/
theorem clipPair_outcome (D : Rect) (dstExt srcExt : Dimension) (sx sy : Int) :
    (∀ h, clipPair D dstExt sx sy srcExt = .error h ↔
      h = .negateOverflow ∧ (sx - D.left ≤ Coord.lo ∨ sy - D.top ≤ Coord.lo)) ∧
    (Coord.lo < sx - D.left → Coord.lo < sy - D.top →
      ((∃ r sx' sy', clipPair D dstExt sx sy srcExt = .ok (some (r, sx', sy'))) ↔
        ∃ x y, InTransfer D dstExt srcExt (sx - D.left) (sy - D.top) x y)) ∧
    (∀ r sx' sy', clipPair D dstExt sx sy srcExt = .ok (some (r, sx', sy')) →
      (∀ x y, r.Contains x y ↔ InTransfer D dstExt srcExt (sx - D.left) (sy - D.top) x y) ∧
      sx' = r.left + (sx - D.left) ∧ sy' = r.top + (sy - D.top)) := by
  refine ⟨fun h => ?_, fun hox hoy => ?_, fun r sx' sy' hcut => ?_⟩
  · rw [clipPair_eq]
    split_ifs with hhalt
    · exact ⟨fun he => ⟨(Except.error.inj he).symm, hhalt⟩, fun he => he.1 ▸ rfl⟩
    all_goals exact ⟨fun he => (nomatch he), fun he => absurd he.2 hhalt⟩
  · rw [clipPair_eq, if_neg (not_or.2 ⟨not_le.2 hox, not_le.2 hoy⟩)]
    have hiff := @transferRect_isEmpty_iff D dstExt srcExt (sx - D.left) (sy - D.top)
    cases hT : (transferRect D dstExt srcExt (sx - D.left) (sy - D.top)).isEmpty
    · -- a rectangle with a pixel is kept, with its corner moved
      have hpix : ∃ x y, InTransfer D dstExt srcExt (sx - D.left) (sy - D.top) x y :=
        not_not.1 fun hne => absurd (hiff.2 hne) (by rw [hT]; decide)
      simp only [Bool.false_eq_true, if_false]
      exact ⟨fun _ => hpix, fun _ => ⟨_, _, _, rfl⟩⟩
    · have hnone := hiff.1 hT
      simp only [if_true]
      exact ⟨fun ⟨_, _, _, he⟩ => (nomatch he), fun hpix => absurd hpix hnone⟩
  · rw [clipPair_eq] at hcut
    split_ifs at hcut
    · cases hcut
    · -- only the cut that keeps the transfer's rectangle answers a rectangle
      simp only [Except.ok.injEq, Option.some.injEq, Prod.mk.injEq] at hcut
      obtain ⟨rfl, rfl, rfl⟩ := hcut
      exact ⟨fun x y => transferRect_contains, rfl, rfl⟩

/-- **A move from the least source column stops the program, though it writes no pixel**: the
cut negates the offset before it sees that nothing survives. -/
theorem move_stops_on_least_offset :
    let b : PixelBuffer := ⟨.bgra32, ⟨2, 2⟩, .owned ⟨Array.replicate 16 0⟩⟩
    (¬ ∃ x y, InTransfer ⟨0, 0, 2, 2⟩ b.dimension b.dimension (Coord.lo - 0) (0 - 0) x y) ∧
      clipPair ⟨0, 0, 2, 2⟩ b.dimension Coord.lo 0 b.dimension = .error .negateOverflow ∧
      b.moveRect ⟨0, 0, 2, 2⟩ Coord.lo 0 = .error (.halt .negateOverflow) :=
  ⟨by decide +kernel, rfl, rfl⟩

/-! ## Copying rows -/

theorem ByteArray.copySlice_getElem? {src dest : ByteArray} {srcOff destOff len : Nat}
    (hd : destOff + len ≤ dest.size) (hs : srcOff + len ≤ src.size) (i : Nat) :
    (src.copySlice srcOff dest destOff len).data[i]? =
      if destOff ≤ i ∧ i < destOff + len then src.data[srcOff + (i - destOff)]? else dest.data[i]? := by
  have hpre : (dest.data.extract 0 destOff).size = destOff := by simp; omega
  have hmid : (src.data.extract srcOff (srcOff + len)).size = len := by simp; omega
  simp only [ByteArray.copySlice]
  rw [Nat.min_eq_left (by simp; omega : len ≤ src.data.size - srcOff), Array.getElem?_append,
    Array.size_append, hpre, hmid]
  rcases lt_or_ge i destOff with hbefore | hafter
  · -- before the slice
    rw [if_pos (by omega), Array.getElem?_append_left (by omega), Array.getElem?_extract]
    simp [hbefore, show ¬ destOff ≤ i by omega]
  rcases lt_or_ge i (destOff + len) with hin | hpast
  · -- inside the slice
    rw [if_pos hin, if_pos ⟨hafter, hin⟩, Array.getElem?_append_right (by omega), Array.getElem?_extract]
    simp only [hpre, ByteArray.size_data]
    rw [Nat.min_eq_left hs, if_pos (by omega)]
  · -- past the slice
    rw [if_neg (by omega), if_neg (by omega), Array.getElem?_extract]
    simp only [ByteArray.size_data, Nat.min_self]
    rcases lt_or_ge i dest.size with hin | hend
    · rw [if_pos (by omega), Nat.add_sub_cancel' hpast]
    · rw [if_neg (by omega), Array.getElem?_eq_none (by simp; omega)]

namespace PixelBuffer

theorem copyRows_succ (src dst : ByteArray) (rows len : Nat) (s d : Nat → Nat) :
    copyRows src dst (rows + 1) len s d = src.copySlice (s rows) (copyRows src dst rows len s d) (d rows) len := by
  simp only [copyRows, List.range_succ, List.foldl_append, List.foldl_cons, List.foldl_nil]

theorem copyRows_getElem? {src dst : ByteArray} {len : Nat} {s d : Nat → Nat} :
    ∀ rows, (∀ r < rows, d r + len ≤ dst.size) → (∀ r < rows, s r + len ≤ src.size) →
      (∀ r r', r < r' → r' < rows → d r + len ≤ d r') →
      (∀ r < rows, ∀ j < len, (copyRows src dst rows len s d).data[d r + j]? = src.data[s r + j]?) ∧
      (∀ i, (∀ r < rows, i < d r ∨ d r + len ≤ i) → (copyRows src dst rows len s d).data[i]? = dst.data[i]?)
  | 0, _, _, _ => ⟨fun r hr => absurd hr (Nat.not_lt_zero r), fun _ _ => rfl⟩
  | n + 1, hd, hs, hord => by
    obtain ⟨ih₁, ih₂⟩ := copyRows_getElem? n (fun r hr => hd r (by omega)) (fun r hr => hs r (by omega))
      (fun r r' h h' => hord r r' h (by omega))
    -- the rows before the last leave the memory's size alone
    have hsize : (copyRows src dst n len s d).size = dst.size := copyRows_size fun r hr => hd r (by omega)
    have hlast := ByteArray.copySlice_getElem? (hsize.symm ▸ hd n (by omega)) (hs n (by omega))
    rw [copyRows_succ]
    refine ⟨fun r hr j hj => ?_, fun i hi => ?_⟩
    · rw [hlast]
      rcases Nat.lt_succ_iff_lt_or_eq.1 hr with hlt | rfl
      · -- an earlier row ends before the last one begins
        have hbefore := hord r n hlt (by omega)
        rw [if_neg (by omega)]
        exact ih₁ r hlt j hj
      · rw [if_pos (by omega), Nat.add_sub_cancel_left]
    · have hout := hi n (by omega)
      rw [hlast, if_neg (by omega)]
      exact ih₂ i fun r hr => hi r (by omega)

/-- **Copying a block of rows writes exactly the block**, and every byte outside it stays. -/
theorem copyRows_block {src dst : ByteArray} {W H Ws Hs bpp x0 y0 sx0 sy0 w h : Nat}
    (hdst : dst.size = W * bpp * H) (hsrc : src.size = Ws * bpp * Hs)
    (hx : x0 + w ≤ W) (hy : y0 + h ≤ H) (hsx : sx0 + w ≤ Ws) (hsy : sy0 + h ≤ Hs) :
    let out := copyRows src dst h (w * bpp) (fun r => (sy0 + r) * (Ws * bpp) + sx0 * bpp)
      (fun r => (y0 + r) * (W * bpp) + x0 * bpp)
    (∀ c < w, ∀ r < h, ∀ k < bpp, out.data[(y0 + r) * (W * bpp) + (x0 + c) * bpp + k]? =
      src.data[(sy0 + r) * (Ws * bpp) + (sx0 + c) * bpp + k]?) ∧
    (∀ i, (∀ c < w, ∀ r < h, ∀ k < bpp, i ≠ (y0 + r) * (W * bpp) + (x0 + c) * bpp + k) →
      out.data[i]? = dst.data[i]?) ∧ out.size = dst.size := by
  intro out
  have hdst_rows : ∀ r < h, (y0 + r) * (W * bpp) + x0 * bpp + w * bpp ≤ dst.size :=
    fun r hr => hdst ▸ @span_le W H bpp x0 (y0 + r) w (by omega) hx
  -- a row of the block ends no later than the next row of the memory begins
  have hord : ∀ r r', r < r' → r' < h →
      (y0 + r) * (W * bpp) + x0 * bpp + w * bpp ≤ (y0 + r') * (W * bpp) + x0 * bpp := by
    intro r r' hr _
    calc (y0 + r) * (W * bpp) + x0 * bpp + w * bpp
        = (y0 + r) * (W * bpp) + (x0 + w) * bpp := by ring
      _ ≤ (y0 + r) * (W * bpp) + W * bpp := by gcongr
      _ = (y0 + r + 1) * (W * bpp) := by ring
      _ ≤ (y0 + r') * (W * bpp) := Nat.mul_le_mul_right _ (by omega)
      _ ≤ (y0 + r') * (W * bpp) + x0 * bpp := Nat.le_add_right _ _
  obtain ⟨hrows, hrest⟩ := copyRows_getElem? h hdst_rows
    (fun r hr => hsrc ▸ @span_le Ws Hs bpp sx0 (sy0 + r) w (by omega) hsx) hord
  refine ⟨fun c hc r hr k hk => ?_, fun i hi => hrest i fun r hr => ?_, copyRows_size hdst_rows⟩
  · have hj : c * bpp + k < w * bpp :=
      calc c * bpp + k < (c + 1) * bpp := by rw [add_one_mul]; omega
        _ ≤ w * bpp := by gcongr; omega
    have hd : (y0 + r) * (W * bpp) + (x0 + c) * bpp + k = (y0 + r) * (W * bpp) + x0 * bpp + (c * bpp + k) := by
      ring
    have hs : (sy0 + r) * (Ws * bpp) + (sx0 + c) * bpp + k =
        (sy0 + r) * (Ws * bpp) + sx0 * bpp + (c * bpp + k) := by
      ring
    rw [hd, hs]
    exact hrows r hr _ hj
  · -- a byte inside a row of the block is a byte of one of its pixels
    by_contra hin
    simp only [not_or, not_lt] at hin
    obtain ⟨hlo, hhi⟩ := hin
    have hbpp : 0 < bpp := Nat.pos_of_ne_zero fun h0 => by simp [h0] at hhi
    set j := i - ((y0 + r) * (W * bpp) + x0 * bpp) with hj
    have hjw : j < w * bpp := by omega
    refine hi (j / bpp) (Nat.div_lt_of_lt_mul (by rwa [mul_comm] at hjw)) r hr (j % bpp) (Nat.mod_lt j hbpp) ?_
    calc i = (y0 + r) * (W * bpp) + x0 * bpp + (j / bpp * bpp + j % bpp) := by
          rw [Nat.div_add_mod']; omega
      _ = (y0 + r) * (W * bpp) + (x0 + j / bpp) * bpp + j % bpp := by ring

end PixelBuffer

/-! ## Copying between buffers -/

theorem Coord.span_bounds {a b W S o : Int}
    (h : max (max a 0) (-o) < min (min b (min W hi)) (min S hi - o)) :
    0 ≤ max (max a 0) (-o) ∧ 0 ≤ max (max a 0) (-o) + o ∧ min (min b (min W hi)) (min S hi - o) ≤ W ∧
      min (min b (min W hi)) (min S hi - o) + o ≤ S ∧
      sub (min (min b (min W hi)) (min S hi - o)) (max (max a 0) (-o)) =
        min (min b (min W hi)) (min S hi - o) - max (max a 0) (-o) := by
  unfold sub sat lo hi at *
  omega

theorem transferRect_bounds {D : Rect} {dstExt srcExt : Dimension} {ox oy : Int}
    (hT : (transferRect D dstExt srcExt ox oy).isEmpty = false) :
    let T := transferRect D dstExt srcExt ox oy
    0 ≤ T.left ∧ T.left < T.right ∧ T.right ≤ dstExt.width ∧ 0 ≤ T.left + ox ∧ T.right + ox ≤ srcExt.width ∧
      T.width = T.right - T.left ∧
      0 ≤ T.top ∧ T.top < T.bottom ∧ T.bottom ≤ dstExt.height ∧ 0 ≤ T.top + oy ∧ T.bottom + oy ≤ srcExt.height ∧
      T.height = T.bottom - T.top := by
  obtain ⟨hx, hy⟩ := (Rect.isEmpty_eq_false _).1 hT
  obtain ⟨hl, hlo, hr, hro, hw⟩ := Coord.span_bounds hx
  obtain ⟨ht, hto, hb, hbo, hh⟩ := Coord.span_bounds hy
  exact ⟨hl, hx, hr, hlo, hro, hw, ht, hy, hb, hto, hbo, hh⟩

theorem transferRect_block {D : Rect} {dstExt srcExt : Dimension} {ox oy : Int}
    (hT : (transferRect D dstExt srcExt ox oy).isEmpty = false) :
    let T := transferRect D dstExt srcExt ox oy
    T.left.toNat + T.width.toNat ≤ dstExt.width ∧ T.top.toNat + T.height.toNat ≤ dstExt.height ∧
      (T.left + ox).toNat + T.width.toNat ≤ srcExt.width ∧ (T.top + oy).toNat + T.height.toNat ≤ srcExt.height := by
  obtain ⟨hl, hlr, hr, hlo, hro, hw, ht, htb, hb, hto, hbo, hh⟩ := transferRect_bounds hT
  dsimp only
  omega

theorem toNat_natAdd_sub {a b : Int} (r : Nat) (ha : 0 ≤ a) (hb : b ≤ a) :
    (((a.toNat + r : Nat) : Int) - b).toNat = (a - b).toNat + r := by
  omega

theorem toNat_natAdd_add {a o : Int} (r : Nat) (ha : 0 ≤ a) (hao : 0 ≤ a + o) :
    (((a.toNat + r : Nat) : Int) + o).toNat = (a + o).toNat + r := by
  omega

section Grid

variable {D : Rect} {dstExt srcExt : Dimension} {ox oy : Int}

theorem inTransfer_of_lt (hT : (transferRect D dstExt srcExt ox oy).isEmpty = false) {r c : Nat}
    (hr : r < (transferRect D dstExt srcExt ox oy).height.toNat)
    (hc : c < (transferRect D dstExt srcExt ox oy).width.toNat) :
    InTransfer D dstExt srcExt ox oy ((transferRect D dstExt srcExt ox oy).left.toNat + c : Nat)
      ((transferRect D dstExt srcExt ox oy).top.toNat + r : Nat) := by
  obtain ⟨hl, hlr, -, -, -, hw, ht, htb, -, -, -, hh⟩ := transferRect_bounds hT
  refine transferRect_contains.1 ?_
  simp only [Rect.Contains]
  omega

theorem inTransfer_index (hT : (transferRect D dstExt srcExt ox oy).isEmpty = false) {x y : Nat}
    (hxy : InTransfer D dstExt srcExt ox oy x y) :
    (transferRect D dstExt srcExt ox oy).left.toNat ≤ x ∧
      x - (transferRect D dstExt srcExt ox oy).left.toNat < (transferRect D dstExt srcExt ox oy).width.toNat ∧
      (transferRect D dstExt srcExt ox oy).top.toNat ≤ y ∧
      y - (transferRect D dstExt srcExt ox oy).top.toNat < (transferRect D dstExt srcExt ox oy).height.toNat := by
  obtain ⟨hl, -, -, -, -, hw, ht, -, -, -, -, hh⟩ := transferRect_bounds hT
  obtain ⟨hx1, hx2, hy1, hy2⟩ := transferRect_contains.2 hxy
  omega

theorem forall_inTransfer_iff {Q : Nat → Nat → Prop} (hT : (transferRect D dstExt srcExt ox oy).isEmpty = false) :
    (∀ x y : Nat, InTransfer D dstExt srcExt ox oy x y → Q x y) ↔
      ∀ r < (transferRect D dstExt srcExt ox oy).height.toNat,
        ∀ c < (transferRect D dstExt srcExt ox oy).width.toNat,
          Q ((transferRect D dstExt srcExt ox oy).left.toNat + c)
            ((transferRect D dstExt srcExt ox oy).top.toNat + r) := by
  constructor
  · intro h r hr c hc
    exact h _ _ (inTransfer_of_lt hT hr hc)
  · intro h x y hxy
    obtain ⟨hx0, hxw, hy0, hyh⟩ := inTransfer_index hT hxy
    have hpix := h _ hyh _ hxw
    rwa [Nat.add_sub_cancel' hx0, Nat.add_sub_cancel' hy0] at hpix

end Grid

namespace PixelBuffer

/-- `out` is `dst` after the pixels `P` were copied from `src` at offset `(ox, oy)`: it has `dst`'s
layout, each byte of a pixel of `P` is the byte of the source pixel it is moved to, and every other
byte is `dst`'s. -/
def CopiedFrom (dst src out : PixelBuffer) (P : Int → Int → Prop) (ox oy : Int) : Prop :=
  dst.SameLayout out ∧ ∃ db sb ob, dst.bytes = .ok db ∧ src.bytes = .ok sb ∧ out.bytes = .ok ob ∧
    (∀ x y : Nat, P x y → ∀ k < dst.bytesPerPixel,
      ob.data[y * dst.bytesPerRow + x * dst.bytesPerPixel + k]? =
        sb.data[(y + oy).toNat * src.bytesPerRow + (x + ox).toNat * dst.bytesPerPixel + k]?) ∧
    (∀ i, (∀ x y : Nat, P x y → ∀ k < dst.bytesPerPixel,
      i ≠ y * dst.bytesPerRow + x * dst.bytesPerPixel + k) → ob.data[i]? = db.data[i]?)

variable {dst src : PixelBuffer} {D : Rect} {sx sy : Int}

theorem copyFrom_of_nonempty (heq : dst.format = src.format) (hox : Coord.lo < sx - D.left)
    (hoy : Coord.lo < sy - D.top)
    (hT : (transferRect D dst.dimension src.dimension (sx - D.left) (sy - D.top)).isEmpty = false) :
    let T := transferRect D dst.dimension src.dimension (sx - D.left) (sy - D.top)
    dst.copyFrom D src sx sy = (liftError src.bytes).bind fun sb => dst.modifyBytes fun bytes =>
      copyRows sb bytes T.height.toNat (T.width.toNat * dst.bytesPerPixel)
        (fun r => ((T.top + (sy - D.top)).toNat + r) * src.bytesPerRow +
          (T.left + (sx - D.left)).toNat * dst.bytesPerPixel)
        (fun r => (T.top.toNat + r) * dst.bytesPerRow + T.left.toNat * dst.bytesPerPixel) := by
  intro T
  simp only [copyFrom, sameFormat, if_pos heq, clip, clipPair_eq,
    if_neg (not_or.2 ⟨not_le.2 hox, not_le.2 hoy⟩), hT]
  rfl

theorem modifyBytes_of_bytes {b : PixelBuffer} (f : ByteArray → ByteArray) {bs : ByteArray} {n : Nat}
    (hn : b.bufferSize = .ok n) (hb : b.bytes = .ok bs) :
    ∃ b', b.modifyBytes f = .ok b' ∧ b'.bytes = .ok (f bs) := by
  unfold modifyBytes
  rw [hn]
  unfold bytes at hb
  split at hb <;> rename_i hst <;> simp only [Except.ok.injEq, reduceCtorEq] at hb
  all_goals
    subst hb
    simp [bytes]

theorem copyFrom_copies (hdst : dst.Full) (hsrc : src.Full) (heq : dst.format = src.format)
    (hox : Coord.lo < sx - D.left) (hoy : Coord.lo < sy - D.top)
    (hT : (transferRect D dst.dimension src.dimension (sx - D.left) (sy - D.top)).isEmpty = false)
    {db sb : ByteArray} (hdb : dst.bytes = .ok db) (hsb : src.bytes = .ok sb)
    (hfits : dst.bytesPerRow * dst.dimension.height < wordLimit) :
    ∃ out, dst.copyFrom D src sx sy = .ok out ∧
      dst.CopiedFrom src out (InTransfer D dst.dimension src.dimension (sx - D.left) (sy - D.top))
        (sx - D.left) (sy - D.top) := by
  obtain ⟨hl, -, -, hlo, -, -, ht, -, -, hto, -, -⟩ := transferRect_bounds hT
  obtain ⟨hx, hy, hsx, hsy⟩ := transferRect_block hT
  have hbpp : src.bytesPerPixel = dst.bytesPerPixel := by simp only [bytesPerPixel, heq]
  have hrow : src.bytesPerRow = src.dimension.width * dst.bytesPerPixel := by rw [bytesPerRow, hbpp]
  rw [copyFrom_of_nonempty heq hox hoy hT, hsb, liftError_ok]
  simp only [Except.bind, hrow]
  have hsize : dst.bufferSize = .ok (dst.bytesPerRow * dst.dimension.height) := by
    simp [bufferSize, wordMul, hfits]
  refine (modifyBytes_of_bytes _ hsize hdb).imp fun out hout => ⟨hout.1, ?_⟩
  obtain ⟨hmod, hbytes⟩ := hout
  -- the transfer as a block of whole pixels of both memories
  have hsb' : sb.size = src.dimension.width * dst.bytesPerPixel * src.dimension.height := by
    rw [hsrc sb hsb, hbpp]
  obtain ⟨hpix, hrest, hsize'⟩ := copyRows_block (hdst db hdb) hsb' hx hy hsx hsy
  refine ⟨modifyBytes_sameLayout (fun bs hbs => ?_) hmod, db, sb, _, hdb, hsb, hbytes, fun x y hxy k hk => ?_,
    fun i hi => hrest i fun c hc r hr k hk => hi _ _ (inTransfer_of_lt hT hr hc) k hk⟩
  · rw [hdb] at hbs
    cases hbs
    exact hsize'
  · -- pixel (x, y) is column x - left, row y - top of the block
    obtain ⟨hx0, hxw, hy0, hyh⟩ := inTransfer_index hT hxy
    have hcopied := hpix (x - _) hxw (y - _) hyh k hk
    rw [← toNat_natAdd_add _ ht hto, ← toNat_natAdd_add _ hl hlo, Nat.add_sub_cancel' hy0,
      Nat.add_sub_cancel' hx0] at hcopied
    rw [hrow]
    exact hcopied

theorem bytes_of_hasBuffer {b : PixelBuffer} (h : b.hasBuffer = true) : ∃ bs, b.bytes = .ok bs := by
  unfold hasBuffer at h
  unfold bytes
  split at h
  · cases h
  all_goals split <;> simp_all

theorem storage_of_not_hasBuffer {b : PixelBuffer} (h : b.hasBuffer = false) : b.storage = .unbound := by
  unfold hasBuffer at h
  split at h <;> simp_all

theorem bytes_of_not_hasBuffer {b : PixelBuffer} (h : b.hasBuffer = false) :
    b.bytes = .error .notInitialized := by
  rw [bytes, storage_of_not_hasBuffer h]

/-- **What a copy does, from every pair of buffers with whole memory, every rectangle and every
source origin.** -/
theorem copyFrom_outcome (dst src : PixelBuffer) (D : Rect) (sx sy : Int) (hdst : dst.Full)
    (hsrc : src.Full) :
    (dst.format ≠ src.format → dst.copyFrom D src sx sy = .error (.error .formatMismatch)) ∧
    (dst.format = src.format →
      if sx - D.left ≤ Coord.lo ∨ sy - D.top ≤ Coord.lo then
        dst.copyFrom D src sx sy = .error (.halt .negateOverflow)
      else if ¬ ∃ x y, InTransfer D dst.dimension src.dimension (sx - D.left) (sy - D.top) x y then
        dst.copyFrom D src sx sy = .ok dst
      else if src.hasBuffer = false then dst.copyFrom D src sx sy = .error (.error .notInitialized)
      else if wordLimit ≤ dst.bytesPerRow * dst.dimension.height then
        dst.copyFrom D src sx sy = .error (.halt .multiplyOverflow)
      else if dst.hasBuffer = false then dst.copyFrom D src sx sy = .error (.error .notInitialized)
      else ∃ out, dst.copyFrom D src sx sy = .ok out ∧
        dst.CopiedFrom src out (InTransfer D dst.dimension src.dimension (sx - D.left) (sy - D.top))
          (sx - D.left) (sy - D.top)) := by
  refine ⟨fun hne => ?_, fun heq => ?_⟩
  · simp only [copyFrom, sameFormat, if_neg hne]
    rfl
  by_cases hhalt : sx - D.left ≤ Coord.lo ∨ sy - D.top ≤ Coord.lo
  · rw [if_pos hhalt]
    simp only [copyFrom, sameFormat, if_pos heq, clip, clipPair_eq, if_pos hhalt]
    rfl
  rw [if_neg hhalt]
  by_cases hempty : ¬ ∃ x y, InTransfer D dst.dimension src.dimension (sx - D.left) (sy - D.top) x y
  · -- no pixel to write: the cut keeps nothing
    rw [if_pos hempty]
    have hT : (transferRect D dst.dimension src.dimension (sx - D.left) (sy - D.top)).isEmpty = true :=
      transferRect_isEmpty_iff.2 hempty
    simp only [copyFrom, sameFormat, if_pos heq, clip, clipPair_eq, if_neg hhalt, hT]
    rfl
  rw [if_neg hempty]
  simp only [not_or, not_le] at hhalt
  have hT : (transferRect D dst.dimension src.dimension (sx - D.left) (sy - D.top)).isEmpty = false := by
    rw [← Bool.not_eq_true, transferRect_isEmpty_iff]
    exact hempty
  by_cases hnosrc : src.hasBuffer = false
  · rw [if_pos hnosrc, copyFrom_of_nonempty heq hhalt.1 hhalt.2 hT, bytes_of_not_hasBuffer hnosrc]
    rfl
  rw [if_neg hnosrc]
  obtain ⟨sb, hsb⟩ := bytes_of_hasBuffer (Bool.not_eq_false _ ▸ hnosrc)
  by_cases hbig : wordLimit ≤ dst.bytesPerRow * dst.dimension.height
  · rw [if_pos hbig, copyFrom_of_nonempty heq hhalt.1 hhalt.2 hT, hsb, liftError_ok]
    simp only [Except.bind, modifyBytes, bufferSize, wordMul, if_neg (not_lt.2 hbig)]
  rw [if_neg hbig]
  by_cases hnodst : dst.hasBuffer = false
  · rw [if_pos hnodst, copyFrom_of_nonempty heq hhalt.1 hhalt.2 hT, hsb, liftError_ok]
    simp only [Except.bind, modifyBytes, bufferSize, wordMul, if_pos (not_le.1 hbig),
      storage_of_not_hasBuffer hnodst]
  rw [if_neg hnodst]
  obtain ⟨db, hdb⟩ := bytes_of_hasBuffer (Bool.not_eq_false _ ▸ hnodst)
  exact copyFrom_copies hdst hsrc heq hhalt.1 hhalt.2 hT hdb hsb (not_le.1 hbig)

/-- A copy of a 2×2 buffer into another, one column to the right, goes as the copy theorem says. -/
theorem copy_one_column_right :
    let b : PixelBuffer := ⟨.bgra32, ⟨2, 2⟩, .owned ⟨Array.replicate 16 0⟩⟩
    b.Full ∧
    (b.format ≠ b.format → b.copyFrom ⟨1, 0, 2, 2⟩ b 0 0 = .error (.error .formatMismatch)) ∧
    (b.format = b.format →
      if (0 : Int) - 1 ≤ Coord.lo ∨ (0 : Int) - 0 ≤ Coord.lo then
        b.copyFrom ⟨1, 0, 2, 2⟩ b 0 0 = .error (.halt .negateOverflow)
      else if ¬ ∃ x y, InTransfer ⟨1, 0, 2, 2⟩ b.dimension b.dimension (0 - 1) (0 - 0) x y then
        b.copyFrom ⟨1, 0, 2, 2⟩ b 0 0 = .ok b
      else if b.hasBuffer = false then b.copyFrom ⟨1, 0, 2, 2⟩ b 0 0 = .error (.error .notInitialized)
      else if wordLimit ≤ b.bytesPerRow * b.dimension.height then
        b.copyFrom ⟨1, 0, 2, 2⟩ b 0 0 = .error (.halt .multiplyOverflow)
      else if b.hasBuffer = false then b.copyFrom ⟨1, 0, 2, 2⟩ b 0 0 = .error (.error .notInitialized)
      else ∃ out, b.copyFrom ⟨1, 0, 2, 2⟩ b 0 0 = .ok out ∧
        b.CopiedFrom b out (InTransfer ⟨1, 0, 2, 2⟩ b.dimension b.dimension (0 - 1) (0 - 0)) (0 - 1) (0 - 0)) :=
  have hfull : PixelBuffer.Full ⟨.bgra32, ⟨2, 2⟩, .owned ⟨Array.replicate 16 0⟩⟩ := fun bs h => by
    cases h
    rfl
  ⟨hfull, copyFrom_outcome _ _ ⟨1, 0, 2, 2⟩ 0 0 hfull hfull⟩

/-- **A copy from the least source column stops the program, though it writes no pixel**, and so
does one into a huge destination without memory. -/
theorem copy_stops_on_least_offset_or_huge_destination :
    let b : PixelBuffer := ⟨.bgra32, ⟨2, 2⟩, .owned ⟨Array.replicate 16 0⟩⟩
    let huge : PixelBuffer := ⟨.bgra32, ⟨4294967295, 4294967295⟩, .unbound⟩
    (¬ ∃ x y, InTransfer ⟨0, 0, 2, 2⟩ b.dimension b.dimension (Coord.lo - 0) (0 - 0) x y) ∧
      b.copyFrom ⟨0, 0, 2, 2⟩ b Coord.lo 0 = .error (.halt .negateOverflow) ∧
      (∃ x y, InTransfer ⟨0, 0, 2, 2⟩ huge.dimension b.dimension (0 - 0) (0 - 0) x y) ∧
      huge.copyFrom ⟨0, 0, 2, 2⟩ b 0 0 = .error (.halt .multiplyOverflow) := by
  intro b huge
  refine ⟨by decide +kernel, rfl, by decide +kernel, ?_⟩
  -- the destination's size is computed by the kernel: the elaborator's evaluation runs too deep
  have hsize : huge.bufferSize = .error .multiplyOverflow := by decide +kernel
  rw [@copyFrom_of_nonempty huge b ⟨0, 0, 2, 2⟩ 0 0 rfl (by decide +kernel) (by decide +kernel)
    (by decide +kernel)]
  simp only [b, bytes, liftError_ok, Except.bind, modifyBytes, hsize]

end PixelBuffer

end Presenter
