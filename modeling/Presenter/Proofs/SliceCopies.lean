import Mathlib
import Presenter.Proofs.CopyRegion
/-!
# Slice copies — pieces of bytes copied one after another

A block copy, a masked copy, a move and a screen capture all write pieces of `len` bytes one after
another: piece `p` is read at `s p` of its source and written at `d p`. The pieces leave every byte
outside them (`getElem?_writePieces_of_outside`), and when no two written pieces overlap each holds
the bytes of its source (`getElem?_writePieces_piece`). Read from one fixed source (`copyPieces`),
they may be written in any order (`copyPieces_perm`).

Read from the bytes being written (`PixelBuffer.moveRows`), each piece sees what the pieces before
it left. When no piece reads a byte that an earlier piece wrote, that is the bytes as they were at
the start: the copy in place is the copy from a snapshot (`moveRows_eq_copyPieces`).
-/

namespace Presenter

theorem ByteArray.window_eq_iff {a b : ByteArray} {i j len : Nat} (ha : i + len ≤ a.size)
    (hb : j + len ≤ b.size) :
    a.data.extract i (i + len) = b.data.extract j (j + len) ↔ ∀ k < len, a.data[i + k]? = b.data[j + k]? := by
  -- a window inside its array reads the array's bytes, and nothing past `len`
  have hwin : ∀ (c : ByteArray) (o : Nat), o + len ≤ c.size →
      ∀ k, (c.data.extract o (o + len))[k]? = if k < len then c.data[o + k]? else none := by
    intro c o ho k
    rw [Array.getElem?_extract, ByteArray.size_data, Nat.min_eq_left ho, Nat.add_sub_cancel_left]
  constructor
  · intro h k hk
    have hk' := congrArg (·[k]?) h
    simpa only [hwin a i ha, hwin b j hb, if_pos hk] using hk'
  · intro h
    refine Array.ext_getElem? fun k => ?_
    rw [hwin a i ha, hwin b j hb]
    split_ifs with hk
    · exact h k hk
    · rfl

theorem ByteArray.copySlice_congr_src {src₁ src₂ dest : ByteArray} {srcOff destOff len : Nat}
    (h₁ : srcOff + len ≤ src₁.size) (h₂ : srcOff + len ≤ src₂.size)
    (h : ∀ j < len, src₁.data[srcOff + j]? = src₂.data[srcOff + j]?) :
    src₁.copySlice srcOff dest destOff len = src₂.copySlice srcOff dest destOff len := by
  have hwin := (ByteArray.window_eq_iff h₁ h₂).2 h
  have hlen₁ : min len (src₁.data.size - srcOff) = len := by simp only [ByteArray.size_data]; omega
  have hlen₂ : min len (src₂.data.size - srcOff) = len := by simp only [ByteArray.size_data]; omega
  simp only [ByteArray.copySlice, hwin, hlen₁, hlen₂]

/-- Pieces of `len` bytes written into `dst` in the order of `l`: piece `p` is read from `src p` at
`s p` and written at `d p`. -/
def writePieces {ι : Type} (src : ι → ByteArray) (dst : ByteArray) (l : List ι) (len : Nat)
    (s d : ι → Nat) : ByteArray :=
  l.foldl (fun acc p => (src p).copySlice (s p) acc (d p) len) dst

/-- Pieces of `len` bytes copied from `src` into `dst` in the order of `l`: piece `p` from `s p`
to `d p`. -/
def copyPieces {ι : Type} (src dst : ByteArray) (l : List ι) (len : Nat) (s d : ι → Nat) :
    ByteArray :=
  l.foldl (fun acc p => src.copySlice (s p) acc (d p) len) dst

/-- No two written pieces of `l` overlap. -/
def PiecesApart {ι : Type} (l : List ι) (len : Nat) (d : ι → Nat) : Prop :=
  l.Pairwise fun p q => d p + len ≤ d q ∨ d q + len ≤ d p

section Writes

variable {ι : Type} {src : ι → ByteArray} {len : Nat} {s d : ι → Nat}

theorem writePieces_cons (dst : ByteArray) (p : ι) (l : List ι) :
    writePieces src dst (p :: l) len s d = writePieces src ((src p).copySlice (s p) dst (d p) len) l len s d :=
  rfl

theorem writePieces_size {dst : ByteArray} {l : List ι} (hd : ∀ p ∈ l, d p + len ≤ dst.size) :
    (writePieces src dst l len s d).size = dst.size :=
  ByteArray.size_foldl fun x p hp hx => by rw [ByteArray.size_copySlice_of_le (hx ▸ hd p hp), hx]

/-- **A byte outside every piece stays.** -/
theorem getElem?_writePieces_of_outside : ∀ (l : List ι) (dst : ByteArray),
    (∀ p ∈ l, d p + len ≤ dst.size) → (∀ p ∈ l, s p + len ≤ (src p).size) →
    ∀ i, (∀ p ∈ l, i < d p ∨ d p + len ≤ i) → (writePieces src dst l len s d).data[i]? = dst.data[i]?
  | [], _, _, _, _, _ => rfl
  | p :: l, dst, hd, hs, i, hi => by
    have hsize := @ByteArray.size_copySlice_of_le (src p) dst (s p) (d p) len (hd p List.mem_cons_self)
    have hout := hi p List.mem_cons_self
    rw [writePieces_cons, getElem?_writePieces_of_outside l _
      (fun q hq => hsize ▸ hd q (List.mem_cons_of_mem p hq)) (fun q hq => hs q (List.mem_cons_of_mem p hq))
      i (fun q hq => hi q (List.mem_cons_of_mem p hq)),
      ByteArray.copySlice_getElem? (hd p List.mem_cons_self) (hs p List.mem_cons_self), if_neg (by omega)]

/-- **Each piece holds the bytes of its source**, when no two written pieces overlap. -/
theorem getElem?_writePieces_piece : ∀ (l : List ι) (dst : ByteArray),
    (∀ p ∈ l, d p + len ≤ dst.size) → (∀ p ∈ l, s p + len ≤ (src p).size) → PiecesApart l len d →
    ∀ p ∈ l, ∀ j < len, (writePieces src dst l len s d).data[d p + j]? = (src p).data[s p + j]?
  | [], _, _, _, _, p, hp, _, _ => absurd hp List.not_mem_nil
  | q :: l, dst, hd, hs, hapart, p, hp, j, hj => by
    rw [PiecesApart, List.pairwise_cons] at hapart
    have hsize := @ByteArray.size_copySlice_of_le (src q) dst (s q) (d q) len (hd q List.mem_cons_self)
    have hd' : ∀ r ∈ l, d r + len ≤ ((src q).copySlice (s q) dst (d q) len).size :=
      fun r hr => hsize ▸ hd r (List.mem_cons_of_mem q hr)
    have hs' : ∀ r ∈ l, s r + len ≤ (src r).size := fun r hr => hs r (List.mem_cons_of_mem q hr)
    rw [writePieces_cons]
    rcases List.mem_cons.1 hp with rfl | hp
    · -- the first piece: no later piece writes over it
      rw [getElem?_writePieces_of_outside l _ hd' hs' _ fun r hr => by have := hapart.1 r hr; omega,
        ByteArray.copySlice_getElem? (hd p List.mem_cons_self) (hs p List.mem_cons_self),
        if_pos (by omega), Nat.add_sub_cancel_left]
    · exact getElem?_writePieces_piece l _ hd' hs' hapart.2 p hp j hj

theorem writePieces_of_fixed {dst : ByteArray} :
    ∀ l : List ι, (∀ p ∈ l, (src p).copySlice (s p) dst (d p) len = dst) → writePieces src dst l len s d = dst
  | [], _ => rfl
  | p :: l, h => by
    rw [writePieces_cons, h p List.mem_cons_self]
    exact writePieces_of_fixed l fun q hq => h q (List.mem_cons_of_mem p hq)

end Writes

section Pieces

variable {ι : Type} {src : ByteArray} {len : Nat} {s d : ι → Nat}

theorem copyPieces_cons (dst : ByteArray) (p : ι) (l : List ι) :
    copyPieces src dst (p :: l) len s d = copyPieces src (src.copySlice (s p) dst (d p) len) l len s d :=
  rfl

theorem copyPieces_concat (dst : ByteArray) (l : List ι) (p : ι) :
    copyPieces src dst (l ++ [p]) len s d = src.copySlice (s p) (copyPieces src dst l len s d) (d p) len := by
  rw [copyPieces, List.foldl_append, List.foldl_cons, List.foldl_nil]
  rfl

theorem copyRows_eq_copyPieces (dst : ByteArray) (rows : Nat) (s d : Nat → Nat) :
    PixelBuffer.copyRows src dst rows len s d = copyPieces src dst (List.range rows) len s d :=
  rfl

theorem copyPieces_size {dst : ByteArray} {l : List ι} (hd : ∀ p ∈ l, d p + len ≤ dst.size) :
    (copyPieces src dst l len s d).size = dst.size :=
  writePieces_size hd

theorem getElem?_copyPieces_of_outside (l : List ι) (dst : ByteArray)
    (hd : ∀ p ∈ l, d p + len ≤ dst.size) (hs : ∀ p ∈ l, s p + len ≤ src.size) (i : Nat)
    (hi : ∀ p ∈ l, i < d p ∨ d p + len ≤ i) : (copyPieces src dst l len s d).data[i]? = dst.data[i]? :=
  getElem?_writePieces_of_outside l dst hd hs i hi

theorem getElem?_copyPieces_piece (l : List ι) (dst : ByteArray) (hd : ∀ p ∈ l, d p + len ≤ dst.size)
    (hs : ∀ p ∈ l, s p + len ≤ src.size) (hapart : PiecesApart l len d) :
    ∀ p ∈ l, ∀ j < len, (copyPieces src dst l len s d).data[d p + j]? = src.data[s p + j]? :=
  getElem?_writePieces_piece l dst hd hs hapart

/-- **Pieces that do not overlap may be copied in any order.** -/
theorem copyPieces_perm {dst : ByteArray} {l₁ l₂ : List ι} (hperm : l₁.Perm l₂)
    (hd : ∀ p ∈ l₁, d p + len ≤ dst.size) (hs : ∀ p ∈ l₁, s p + len ≤ src.size)
    (hapart : PiecesApart l₁ len d) :
    copyPieces src dst l₁ len s d = copyPieces src dst l₂ len s d := by
  have hd₂ : ∀ p ∈ l₂, d p + len ≤ dst.size := fun p hp => hd p (hperm.mem_iff.2 hp)
  have hs₂ : ∀ p ∈ l₂, s p + len ≤ src.size := fun p hp => hs p (hperm.mem_iff.2 hp)
  have hapart₂ : PiecesApart l₂ len d := hperm.pairwise hapart fun h => h.symm
  refine ByteArray.ext (Array.ext_getElem? fun i => ?_)
  by_cases hin : ∃ p ∈ l₁, d p ≤ i ∧ i < d p + len
  · obtain ⟨p, hp, hlo, hhi⟩ := hin
    obtain ⟨j, rfl⟩ : ∃ j, i = d p + j := ⟨i - d p, by omega⟩
    rw [getElem?_copyPieces_piece l₁ dst hd hs hapart p hp j (by omega),
      getElem?_copyPieces_piece l₂ dst hd₂ hs₂ hapart₂ p (hperm.mem_iff.1 hp) j (by omega)]
  · have hout : ∀ p ∈ l₁, i < d p ∨ d p + len ≤ i := fun p hp => by
      by_contra hp'
      exact hin ⟨p, hp, by omega⟩
    rw [getElem?_copyPieces_of_outside l₁ dst hd hs i hout,
      getElem?_copyPieces_of_outside l₂ dst hd₂ hs₂ i fun p hp => hout p (hperm.mem_iff.2 hp)]

end Pieces

theorem moveRows_concat (bytes : ByteArray) (rows : List Nat) (r len : Nat) (s d : Nat → Nat) :
    PixelBuffer.moveRows bytes (rows ++ [r]) len s d =
      (PixelBuffer.moveRows bytes rows len s d).copySlice (s r) (PixelBuffer.moveRows bytes rows len s d)
        (d r) len := by
  rw [PixelBuffer.moveRows, List.foldl_append, List.foldl_cons, List.foldl_nil]
  rfl

/-- **Moving rows in place is copying them from a snapshot**, when no row reads a byte that a
row moved before it wrote. -/
theorem moveRows_eq_copyPieces {bytes : ByteArray} {len : Nat} {s d : Nat → Nat} (rows : List Nat)
    (hd : ∀ r ∈ rows, d r + len ≤ bytes.size) (hs : ∀ r ∈ rows, s r + len ≤ bytes.size)
    (hread : rows.Pairwise fun r r' => d r + len ≤ s r' ∨ s r' + len ≤ d r) :
    PixelBuffer.moveRows bytes rows len s d = copyPieces bytes bytes rows len s d := by
  induction rows using List.reverseRecOn with
  | nil => rfl
  | append_singleton rows r ih =>
    rw [List.pairwise_append] at hread
    have hd' : ∀ q ∈ rows, d q + len ≤ bytes.size := fun q hq => hd q (List.mem_append_left _ hq)
    have hs' : ∀ q ∈ rows, s q + len ≤ bytes.size := fun q hq => hs q (List.mem_append_left _ hq)
    have hr : r ∈ rows ++ [r] := List.mem_append_right _ (List.mem_singleton_self r)
    have hsize : (copyPieces bytes bytes rows len s d).size = bytes.size := copyPieces_size hd'
    rw [moveRows_concat, ih hd' hs' hread.1, copyPieces_concat]
    -- the last row reads bytes that no earlier row wrote
    refine ByteArray.copySlice_congr_src (hsize ▸ hs r hr) (hs r hr) fun j hj => ?_
    exact getElem?_copyPieces_of_outside rows bytes hd' hs' (s r + j) fun q hq => by
      have := hread.2.2 q hq r (List.mem_singleton_self r)
      omega

end Presenter
