import Mathlib
import Presenter.Session.Buffers
/-!
# Pixel extent — operations write inside the memory they hold

A pixel operation never changes how many bytes a buffer's memory has. A fill sets bytes in
place, a write is checked against the memory's end, and a transfer writes rows of the rectangle
that survives `clipPair`, which lies inside the destination (`clipPair_within`). So every
operation keeps the buffer's format, size, kind of storage, memory number and byte count
(`runPixelOp_sameLayout`); the transfers need the memory to be whole, `width · bpp · height`
bytes (`PixelBuffer.Full`), since their rows are placed by that layout.
-/

namespace Presenter

/-! ## The cut of a transfer lies inside the destination -/

namespace Coord

-- One axis of a transfer, cut in three steps: to the destination, moved to the source and cut
-- there, moved back. Each step is its own small arithmetic fact.

theorem cut_dest {a b W l r : Int} (hl : l = max a 0) (hr : r = max (min b (min W hi)) l) :
    0 ≤ l ∧ l ≤ r ∧ (l < r → r ≤ W) := by
  omega

theorem add_mono {x y d : Int} (h : x ≤ y) : add x d ≤ add y d := by
  unfold add sat
  omega

theorem cut_src {l r d S p q : Int} (hlr : l ≤ r) (hp : p = max (add l d) 0)
    (hq : q = max (min (add r d) (min S hi)) p) : p ≤ q ∧ (p < q → l < r ∧ q ≤ add r d) := by
  rcases hlr.lt_or_eq with hlt | rfl
  · have hmono := add_mono (d := d) hlt.le
    omega
  · omega

theorem cut_back_start {l d p u : Int} (hd : Fits d) (hl : 0 ≤ l) (hp : p = max (add l d) 0)
    (hu : u = add p (-d)) : 0 ≤ u := by
  simp only [Fits, add, sat, lo, hi] at hd hp hu
  omega

theorem cut_back_end {r d q v : Int} (hd : Fits d) (hr : 0 ≤ r) (hq : q ≤ add r d)
    (hv : v = add q (-d)) : v ≤ r := by
  simp only [Fits, add, sat, lo, hi] at hd hq hv
  omega

theorem add_sub_le {u v : Int} (h : 0 < sub v u) : u + sub v u ≤ v := by
  simp only [sub, sat, lo, hi] at h ⊢
  omega

theorem cut_axis {a b W S d l r p q u v : Int} (hd : Fits d)
    (hu : u = add p (-d)) (hv : v = add q (-d))
    (hp : p = max (add l d) 0) (hq : q = max (min (add r d) (min S hi)) p)
    (hl : l = max a 0) (hr : r = max (min b (min W hi)) l) (hpos : 0 < sub v u) :
    0 ≤ u ∧ u + sub v u ≤ W := by
  obtain ⟨hl0, hlr, hrW⟩ := cut_dest hl hr
  obtain ⟨hpq, hcut⟩ := cut_src hlr hp hq
  -- a cut that comes back empty has no width
  have hlt : p < q := by
    refine hpq.lt_of_ne fun hpq => ?_
    subst hpq hu hv
    simp [sub, sat, lo, hi] at hpos
  obtain ⟨hlr', hqr⟩ := hcut hlt
  refine ⟨cut_back_start hd hl0 hp hu, ?_⟩
  calc u + sub v u ≤ v := add_sub_le hpos
    _ ≤ r := cut_back_end hd (hl0.trans hlr) hqr hv
    _ ≤ W := hrW hlr'

end Coord

/-- **The rectangle a transfer keeps lies inside the destination**: its columns, and its rows,
end within the destination's width and height. -/
theorem clipPair_within {dstRect : Rect} {dstExt srcExt : Dimension} {sx sy : Int} {dst : Rect}
    {sx' sy' : Int} (h : clipPair dstRect dstExt sx sy srcExt = .ok (some (dst, sx', sy'))) :
    dst.left.toNat + dst.width.toNat ≤ dstExt.width ∧
      dst.top.toNat + dst.height.toNat ≤ dstExt.height := by
  unfold clipPair at h
  simp only at h
  split at h
  · cases h
  · split at h
    · cases h
    · simp only [Except.ok.injEq, Option.some.injEq, Prod.mk.injEq] at h
      obtain ⟨hdst, -, -⟩ := h
      rename_i hne
      simp only [Rect.isEmpty, Bool.or_eq_true, decide_eq_true_eq, not_or, not_le] at hne
      obtain ⟨hw, hh⟩ := hne
      rw [hdst] at hw hh
      -- each axis: cut to the destination, moved, cut to the source, moved back
      have hx : 0 ≤ dst.left ∧ dst.left + dst.width ≤ dstExt.width := by
        subst hdst
        exact Coord.cut_axis (Coord.sat_fits (sx - dstRect.left)) rfl rfl rfl rfl rfl rfl hw
      have hy : 0 ≤ dst.top ∧ dst.top + dst.height ≤ dstExt.height := by
        subst hdst
        exact Coord.cut_axis (Coord.sat_fits (sy - dstRect.top)) rfl rfl rfl rfl rfl rfl hh
      omega

/-! ## Writes inside the memory keep its size -/

theorem span_le {W H k x y n : Nat} (hy : y < H) (hx : x + n ≤ W) :
    y * (W * k) + x * k + n * k ≤ W * k * H :=
  calc y * (W * k) + x * k + n * k = y * (W * k) + (x + n) * k := by ring
    _ ≤ y * (W * k) + W * k := by gcongr
    _ = (y + 1) * (W * k) := by ring
    _ ≤ H * (W * k) := Nat.mul_le_mul_right _ hy
    _ = W * k * H := by ring

theorem ByteArray.size_copySlice_of_le {src dest : ByteArray} {srcOff destOff len : Nat}
    (h : destOff + len ≤ dest.size) : (src.copySlice srcOff dest destOff len).size = dest.size := by
  simp only [ByteArray.size, ByteArray.copySlice, Array.size_append, Array.size_extract] at h ⊢
  omega

@[simp] theorem putBytes_size : ∀ (bs : ByteArray) (off : Nat) (px : List UInt8),
    (putBytes bs off px).size = bs.size
  | _, _, [] => rfl
  | bs, off, b :: rest => by rw [putBytes, putBytes_size, ByteArray.size_set!]

theorem ByteArray.size_foldl {α : Type} {l : List α} {f : ByteArray → α → ByteArray}
    {acc : ByteArray} (h : ∀ x a, a ∈ l → x.size = acc.size → (f x a).size = acc.size) :
    (l.foldl f acc).size = acc.size :=
  List.foldlRecOn (motive := fun x => x.size = acc.size) l f rfl fun x hx a ha => h x a ha hx

theorem moveRows_size {bytes : ByteArray} {rows : List Nat} {len : Nat} {s d : Nat → Nat}
    (h : ∀ r ∈ rows, d r + len ≤ bytes.size) :
    (PixelBuffer.moveRows bytes rows len s d).size = bytes.size := by
  unfold PixelBuffer.moveRows
  refine ByteArray.size_foldl fun x r hr hx => ?_
  rw [ByteArray.size_copySlice_of_le (hx ▸ h r hr), hx]

theorem copyRows_size {src dst : ByteArray} {rows len : Nat} {s d : Nat → Nat}
    (h : ∀ r < rows, d r + len ≤ dst.size) :
    (PixelBuffer.copyRows src dst rows len s d).size = dst.size := by
  unfold PixelBuffer.copyRows
  refine ByteArray.size_foldl fun x r hr hx => ?_
  rw [ByteArray.size_copySlice_of_le (hx ▸ h r (List.mem_range.1 hr)), hx]

/-! ## Operations keep the layout -/

/-- Storage of the same kind and memory number, with as many bytes. -/
def Storage.SameShape : Storage → Storage → Prop
  | .unbound, .unbound => True
  | .owned a, .owned b => b.size = a.size
  | .bound i a, .bound j b => j = i ∧ b.size = a.size
  | _, _ => False

theorem Storage.SameShape.trans {s t u : Storage} (h : s.SameShape t) (h' : t.SameShape u) :
    s.SameShape u := by
  cases s <;> cases t <;> cases u <;> simp_all [Storage.SameShape]

namespace PixelBuffer

/-- `b'` is `b` with maybe other bytes: its format, size, kind of storage, memory number and
byte count are `b`'s. -/
def SameLayout (b b' : PixelBuffer) : Prop :=
  b'.format = b.format ∧ b'.dimension = b.dimension ∧ b.storage.SameShape b'.storage

/-- A buffer whose memory, if it has any, holds `width · bpp · height` bytes. -/
def Full (b : PixelBuffer) : Prop :=
  ∀ bs, b.bytes = .ok bs → bs.size = b.dimension.width * b.bytesPerPixel * b.dimension.height

variable {b b' src : PixelBuffer} {rect : Rect} {sx sy : Int}

theorem SameLayout.refl (b : PixelBuffer) : b.SameLayout b := by
  refine ⟨rfl, rfl, ?_⟩
  cases b.storage <;> simp [Storage.SameShape]

theorem SameLayout.trans {b'' : PixelBuffer} (h : b.SameLayout b') (h' : b'.SameLayout b'') :
    b.SameLayout b'' :=
  ⟨h'.1.trans h.1, h'.2.1.trans h.2.1, h.2.2.trans h'.2.2⟩

theorem sameLayout_foldlM {α : Type} {f : PixelBuffer → α → Except Stop PixelBuffer}
    (hf : ∀ b a b', f b a = .ok b' → b.SameLayout b') :
    ∀ (l : List α) (b b' : PixelBuffer), l.foldlM f b = .ok b' → b.SameLayout b'
  | [], b, b', h => by
    cases h
    exact .refl b
  | a :: l, b, b', h => by
    rw [List.foldlM_cons] at h
    cases hfa : f b a with
    | error e =>
      rw [hfa] at h
      cases h
    | ok b₁ =>
      rw [hfa] at h
      exact (hf b a b₁ hfa).trans (sameLayout_foldlM hf l b₁ b' h)

theorem foldlM_except_inv {ε α β : Type} {f : β → α → Except ε β} (I : β → Prop) :
    ∀ (l : List α) (init r : β), (∀ x ∈ l, ∀ acc acc', I acc → f acc x = .ok acc' → I acc') → I init →
      l.foldlM f init = .ok r → I r
  | [], init, r, _, hi, h => by
    cases h
    exact hi
  | x :: l, init, r, hstep, hi, h => by
    rw [List.foldlM_cons] at h
    cases hfx : f init x with
    | error e =>
      rw [hfx] at h
      cases h
    | ok acc =>
      rw [hfx] at h
      exact foldlM_except_inv I l acc r (fun y hy => hstep y (List.mem_cons_of_mem x hy))
        (hstep x List.mem_cons_self init acc hi hfx) h

theorem modifyBytes_sameLayout {f : ByteArray → ByteArray}
    (hf : ∀ bs, b.bytes = .ok bs → (f bs).size = bs.size) (h : b.modifyBytes f = .ok b') :
    b.SameLayout b' := by
  unfold modifyBytes at h
  split at h
  · cases h
  · split at h <;> rename_i hstorage <;> simp only [Except.ok.injEq, reduceCtorEq] at h <;> subst h
    · refine ⟨rfl, rfl, ?_⟩
      rw [hstorage]
      exact hf _ (by simp [bytes, hstorage])
    · refine ⟨rfl, rfl, ?_⟩
      rw [hstorage]
      exact ⟨rfl, hf _ (by simp [bytes, hstorage])⟩

theorem modifyBytesM_sameLayout {f : ByteArray → Except Halt ByteArray}
    (hf : ∀ bs bs', b.bytes = .ok bs → f bs = .ok bs' → bs'.size = bs.size) (h : b.modifyBytesM f = .ok b') :
    b.SameLayout b' := by
  unfold modifyBytesM at h
  split at h
  · cases h
  · split at h <;> rename_i hstorage
    · cases h
    · split at h <;> rename_i hfb
      · cases h
        refine ⟨rfl, rfl, ?_⟩
        rw [hstorage]
        exact hf _ _ (by simp [bytes, hstorage]) hfb
      · cases h
    · split at h <;> rename_i hfb
      · cases h
        refine ⟨rfl, rfl, ?_⟩
        rw [hstorage]
        exact ⟨rfl, hf _ _ (by simp [bytes, hstorage]) hfb⟩
      · cases h

theorem fillRect_sameLayout {color : Nat} (h : b.fillRect rect color = .ok b') :
    b.SameLayout b' := by
  unfold fillRect at h
  dsimp only at h
  split at h
  · cases h
    exact .refl b
  · refine modifyBytes_sameLayout (fun bs _ => ?_) h
    exact ByteArray.size_foldl fun x _ _ hx =>
      (ByteArray.size_foldl fun y _ _ hy => by rw [putBytes_size, hy]).trans hx

theorem clip_eq_ok {dstRect : Rect} {dstExt srcExt : Dimension} {v : Option (Rect × Int × Int)}
    (h : clip dstRect dstExt sx sy srcExt = .ok v) : clipPair dstRect dstExt sx sy srcExt = .ok v := by
  unfold clip at h
  cases hc : clipPair dstRect dstExt sx sy srcExt <;> simp_all [Except.mapError]

theorem row_end_le {bs : ByteArray} {srcExt : Dimension} {dst : Rect} {sx' sy' : Int} {r : Nat}
    (hb : b.Full) (hbs : b.bytes = .ok bs)
    (hclip : clipPair rect b.dimension sx sy srcExt = .ok (some (dst, sx', sy')))
    (hr : r < dst.height.toNat) :
    (dst.top.toNat + r) * b.bytesPerRow + dst.left.toNat * b.bytesPerPixel +
      dst.width.toNat * b.bytesPerPixel ≤ bs.size := by
  obtain ⟨hx, hy⟩ := clipPair_within hclip
  rw [hb bs hbs]
  exact span_le (by omega) hx

theorem copyRows_within {bs bytes : ByteArray} {srcExt : Dimension} {dst : Rect} {sx' sy' : Int}
    {s : Nat → Nat} (hb : b.Full) (hbs : b.bytes = .ok bs)
    (hclip : clipPair rect b.dimension sx sy srcExt = .ok (some (dst, sx', sy'))) :
    (copyRows bytes bs dst.height.toNat (dst.width.toNat * b.bytesPerPixel) s
      fun r => (dst.top.toNat + r) * b.bytesPerRow + dst.left.toNat * b.bytesPerPixel).size =
      bs.size :=
  copyRows_size fun _ hr => row_end_le hb hbs hclip hr

theorem moveRows_within {bs : ByteArray} {srcExt : Dimension} {dst : Rect} {sx' sy' : Int}
    {rows : List Nat} {s : Nat → Nat} (hb : b.Full) (hbs : b.bytes = .ok bs)
    (hclip : clipPair rect b.dimension sx sy srcExt = .ok (some (dst, sx', sy')))
    (hrows : ∀ r ∈ rows, r < dst.height.toNat) :
    (moveRows bs rows (dst.width.toNat * b.bytesPerPixel) s
      fun r => (dst.top.toNat + r) * b.bytesPerRow + dst.left.toNat * b.bytesPerPixel).size =
      bs.size :=
  moveRows_size fun r hr => row_end_le hb hbs hclip (hrows r hr)

theorem copyFrom_sameLayout (hb : b.Full) (h : b.copyFrom rect src sx sy = .ok b') :
    b.SameLayout b' := by
  unfold copyFrom at h
  simp only [bind, Except.bind] at h
  split at h
  · cases h
  · split at h
    · cases h
    · rename_i hclip
      split at h
      · cases h
        exact .refl b
      · split at h
        · cases h
        · exact modifyBytes_sameLayout (fun bs hbs => copyRows_within hb hbs (clip_eq_ok hclip)) h

theorem copyFromAll_sameLayout (hb : b.Full) (h : b.copyFromAll src = .ok b') : b.SameLayout b' :=
  copyFrom_sameLayout hb h

theorem moveRect_sameLayout (hb : b.Full) (h : b.moveRect rect sx sy = .ok b') : b.SameLayout b' := by
  unfold moveRect at h
  simp only [bind, Except.bind] at h
  split at h
  · cases h
  · rename_i hclip
    split at h
    · cases h
      exact .refl b
    · refine modifyBytes_sameLayout (fun bs hbs => moveRows_within hb hbs (clip_eq_ok hclip) ?_) h
      -- either order walks the rows of the kept rectangle
      intro r hr
      split at hr <;> simpa using hr

theorem overlay_pixel_within {bs : ByteArray} {srcExt : Dimension} {dst : Rect} {sx' sy' : Int}
    {row col : Nat} (hb : b.Full) (hbs : b.bytes = .ok bs)
    (hclip : clipPair rect b.dimension sx sy srcExt = .ok (some (dst, sx', sy')))
    (hrow : row < dst.height.toNat) (hcol : col < dst.width.toNat) :
    (dst.top.toNat + row) * b.bytesPerRow + (dst.left.toNat + col) * b.bytesPerPixel +
      b.bytesPerPixel ≤ bs.size := by
  obtain ⟨hx, hy⟩ := clipPair_within hclip
  have hspan := span_le (W := b.dimension.width) (H := b.dimension.height) (k := b.bytesPerPixel)
    (x := dst.left.toNat + col) (y := dst.top.toNat + row) (n := 1) (by omega) (by omega)
  rw [one_mul] at hspan
  rw [hb bs hbs]
  exact hspan

theorem copyMasked_size {src dst mask out : ByteArray} {stride mx my w h bpp : Nat} {s d : Nat → Nat → Nat}
    (hd : ∀ r < h, ∀ c < w, d r c + bpp ≤ dst.size)
    (hout : copyMasked src dst mask stride mx my w h bpp s d = .ok out) : out.size = dst.size := by
  -- the size is an invariant of every row, and within a row of every pixel
  refine foldlM_except_inv (fun acc => acc.size = dst.size) _ dst out
    (fun row hrow acc acc' hacc hrowstep => ?_) rfl hout
  simp only [bind, Except.bind] at hrowstep
  split at hrowstep
  · cases hrowstep
  · refine foldlM_except_inv (fun acc => acc.size = dst.size) _ acc acc'
      (fun col hcol acc₁ acc₂ hacc₁ hcolstep => ?_) hacc hrowstep
    split at hcolstep
    · cases hcolstep
    · cases hcolstep
      split
      · exact hacc₁
      · rw [ByteArray.size_copySlice_of_le (hacc₁ ▸ hd row (List.mem_range.1 hrow) col (List.mem_range.1 hcol)),
          hacc₁]

theorem overlay_sameLayout {mask : ByteArray} (hb : b.Full)
    (h : b.overlay rect src sx sy mask = .ok b') : b.SameLayout b' := by
  unfold overlay at h
  simp only [bind, Except.bind] at h
  split at h
  · cases h
  · split at h
    · cases h
      exact .refl b
    · split at h
      · cases h
      · split at h
        · cases h
        · rename_i hclip
          split at h
          · cases h
            exact .refl b
          · split at h
            · cases h
            · split at h
              · cases h
              · exact modifyBytesM_sameLayout (fun bs bs' hbs hloop => copyMasked_size
                  (fun r hr c hc => overlay_pixel_within hb hbs (clip_eq_ok hclip) hr hc) hloop) h

theorem writeAt_sameLayout (args : Except Misuse (Nat × ByteArray)) :
    b.SameLayout (b.writeAt args).2 := by
  unfold writeAt
  split
  · exact .refl b
  · split
    · exact .refl b
    · exact .refl b
    · rename_i bytes offset data hbytes
      split
      · exact .refl b
      · rename_i hfits
        split
        · rename_i b' hmod
          refine modifyBytes_sameLayout (fun bs hbs => ?_) hmod
          rw [hbytes] at hbs
          cases hbs
          exact ByteArray.size_copySlice_of_le (by omega)
        · exact .refl b

theorem editOutcome_sameLayout {x : Except Stop PixelBuffer}
    (h : ∀ b', x = .ok b' → b.SameLayout b') : b.SameLayout (editOutcome b x).2 := by
  unfold editOutcome
  split
  · exact h _ rfl
  · exact .refl b
  · exact .refl b

end PixelBuffer

/-- **No pixel operation changes a whole buffer's layout**: its format, size, kind of storage,
memory number and byte count stay, whatever the operation and whatever it reads. -/
theorem runPixelOp_sameLayout {b : PixelBuffer} (hb : b.Full) (op : PixelOp) (src : PixelBuffer) :
    b.SameLayout (runPixelOp b op src).2 := by
  cases op with
  | write args => exact b.writeAt_sameLayout args
  | fill rect color => exact PixelBuffer.editOutcome_sameLayout fun _ => PixelBuffer.fillRect_sameLayout
  | setColor r g bl => exact PixelBuffer.editOutcome_sameLayout fun _ => PixelBuffer.fillRect_sameLayout
  | copy rect sx sy =>
    exact PixelBuffer.editOutcome_sameLayout fun _ => PixelBuffer.copyFrom_sameLayout hb
  | copyAll => exact PixelBuffer.editOutcome_sameLayout fun _ => PixelBuffer.copyFromAll_sameLayout hb
  | overlay rect sx sy mask =>
    exact PixelBuffer.editOutcome_sameLayout fun _ => PixelBuffer.overlay_sameLayout hb
  | move rect sx sy =>
    exact PixelBuffer.editOutcome_sameLayout fun _ => PixelBuffer.moveRect_sameLayout hb
  | info | ptrAt _ _ | dump | cmp _ _ _ =>
    simp only [runPixelOp]
    split <;> exact .refl b
  | create _ _ | createUnbound _ _ | equal | debug => exact .refl b

end Presenter
