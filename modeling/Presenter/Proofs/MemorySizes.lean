import Mathlib
import Presenter.Proofs.Creatability
import Presenter.Proofs.FillRegion
/-!
# Memory sizes — what a configuration and a pixel buffer count, and where the count may fail

The library counts the same memory in several places and orders: `width · height · bpp` to check
a configuration or make a buffer, `(width · bpp) · height` for a buffer's size, `width · 4` for
the compositor's pitch. Once a configuration is valid every place counts `4 · w · h` bytes in rows
of `4 · w` (`validate_outcome`, `BackendConfig.Sized`). A buffer made without memory skips the size
check and refuses every call that would write its bytes (`sizes_of_new_and_unbound`).
-/

namespace Presenter

/-! ## The formats backends take -/

namespace PixelFormat

/-- A channel fits the 32-bit word: its shift is below 32, and its largest value shifted into place
is at most `2^32 - 1`. -/
def ChannelInWord (max shift : Nat) : Prop := shift < 32 ∧ max * 2 ^ shift ≤ 2 ^ 32 - 1

instance (max shift : Nat) : Decidable (ChannelInWord max shift) :=
  inferInstanceAs (Decidable (_ ∧ _))

/-- The formats backends take: 32 bits a pixel, and every channel inside the 32-bit word. -/
def BackendReady (f : PixelFormat) : Prop :=
  f.bitsPerPixel = 32 ∧ ChannelInWord f.redMax f.redShift ∧ ChannelInWord f.greenMax f.greenShift ∧
    ChannelInWord f.blueMax f.blueShift

instance (f : PixelFormat) : Decidable f.BackendReady := inferInstanceAs (Decidable (_ ∧ _))

theorem channelFits_iff (max shift : Nat) : channelFits max shift = true ↔ ChannelInWord max shift := by
  simp only [channelFits, ChannelInWord, Bool.and_eq_true, decide_eq_true_eq, Nat.pow_eq]
  omega

theorem validateForBackend_eq_ok_iff (f : PixelFormat) :
    f.validateForBackend = .ok () ↔ f.BackendReady := by
  unfold validateForBackend BackendReady
  by_cases h32 : f.bitsPerPixel = 32
  · simp [h32, ← channelFits_iff]
  · simp [h32]

theorem validateForBackend_error {f : PixelFormat} {e : Error} (h : f.validateForBackend = .error e) :
    ∃ msg, e = .invalidConfig msg := by
  unfold validateForBackend at h
  split at h
  · cases h
    exact ⟨_, rfl⟩
  · split at h
    · cases h
    · cases h
      exact ⟨_, rfl⟩

end PixelFormat

theorem Dimension.byteLen_four (d : Dimension) :
    d.byteLen 4 = if d.width * d.height * 4 < wordLimit then .ok (d.width * d.height * 4)
      else .error .bufferOverflow := by
  unfold Dimension.byteLen Dimension.pixelCount
  by_cases h1 : d.width * d.height < wordLimit <;> by_cases h2 : d.width * d.height * 4 < wordLimit
  all_goals simp [h1, h2, bind, Except.bind]
  unfold wordLimit at *
  omega

/-! ## Checking a configuration -/

namespace BackendConfig

variable {c : BackendConfig}

theorem bufferLen_of_ready (h : c.format.BackendReady) :
    c.bufferLen =
      if wordLimit ≤ max c.dimension.width 1 * max c.dimension.height 1 * 4 then .error .bufferOverflow
      else if max c.dimension.width 1 * max c.dimension.height 1 * 4 ≤ sectionLimit then
        .ok (max c.dimension.width 1 * max c.dimension.height 1 * 4)
      else .error (.invalidConfig (toString c.dimension.width ++ "x" ++ toString c.dimension.height ++
        " is too large for a single pixel section")) := by
  have hbpp : c.format.bytesPerPixel = 4 := by simp [PixelFormat.bytesPerPixel, h.1]
  unfold bufferLen
  rw [hbpp, Dimension.byteLen_four, Dimension.clamped_width, Dimension.clamped_height]
  by_cases hw : max c.dimension.width 1 * max c.dimension.height 1 * 4 < wordLimit
  · rw [if_pos hw, if_neg (not_le.2 hw)]
  · rw [if_neg hw, if_pos (not_lt.1 hw)]

theorem validate_eq (c : BackendConfig) :
    c.validate = match c.format.validateForBackend with
      | .error e => .error e
      | .ok () => c.bufferLen.map fun _ => () := by
  unfold validate
  cases c.format.validateForBackend with
  | error e => rfl
  | ok u => cases c.bufferLen <;> rfl

theorem validate_of_ready (h : c.format.BackendReady) :
    c.validate =
      if wordLimit ≤ max c.dimension.width 1 * max c.dimension.height 1 * 4 then .error .bufferOverflow
      else if max c.dimension.width 1 * max c.dimension.height 1 * 4 ≤ sectionLimit then .ok ()
      else .error (.invalidConfig (toString c.dimension.width ++ "x" ++ toString c.dimension.height ++
        " is too large for a single pixel section")) := by
  rw [validate_eq, (PixelFormat.validateForBackend_eq_ok_iff _).2 h]
  simp only
  rw [bufferLen_of_ready h]
  split_ifs <;> rfl

theorem validate_of_not_ready (h : ¬ c.format.BackendReady) :
    ∃ msg, c.validate = .error (.invalidConfig msg) := by
  rw [validate_eq]
  cases hf : c.format.validateForBackend with
  | error e =>
    obtain ⟨msg, rfl⟩ := PixelFormat.validateForBackend_error hf
    exact ⟨msg, rfl⟩
  | ok u => exact absurd ((PixelFormat.validateForBackend_eq_ok_iff _).1 hf) h

theorem validate_ok_iff (c : BackendConfig) :
    c.validate = .ok () ↔ c.format.BackendReady ∧
      max c.dimension.width 1 * max c.dimension.height 1 * 4 ≤ sectionLimit := by
  by_cases hr : c.format.BackendReady
  · rw [validate_of_ready hr]
    -- a section is smaller than the machine word
    have hlt : sectionLimit < wordLimit := by decide
    split_ifs with hw hs <;> simp [hr] <;> omega
  · obtain ⟨msg, hmsg⟩ := validate_of_not_ready hr
    simp [hmsg, hr]

theorem validate_overflow_iff (c : BackendConfig) :
    c.validate = .error .bufferOverflow ↔ c.format.BackendReady ∧
      wordLimit ≤ max c.dimension.width 1 * max c.dimension.height 1 * 4 := by
  by_cases hr : c.format.BackendReady
  · rw [validate_of_ready hr]
    split_ifs with hw hs <;> simp [hr, hw]
  · obtain ⟨msg, hmsg⟩ := validate_of_not_ready hr
    simp [hmsg, hr]

theorem validate_invalid {e : Error} (h : c.validate = .error e) (hne : e ≠ .bufferOverflow) :
    ∃ msg, e = .invalidConfig msg := by
  by_cases hr : c.format.BackendReady
  · rw [validate_of_ready hr] at h
    split_ifs at h
    · cases h
      exact absurd rfl hne
    · cases h
      exact ⟨_, rfl⟩
  · obtain ⟨msg, hmsg⟩ := validate_of_not_ready hr
    rw [hmsg] at h
    cases h
    exact ⟨msg, rfl⟩

/-! ## Every count of a valid configuration's memory -/

/-- What a configuration's memory comes to, wherever it is counted: `len` bytes in rows of
`pitch`. -/
structure Sized (c : BackendConfig) (len pitch : Nat) : Prop where
  /-- The configuration's own count. -/
  bufferLen : c.bufferLen = .ok len
  /-- The compositor's staging buffer: its length, and a row pitch that fits 32 bits. -/
  staging : c.dimension.clamped.byteLen stagingPixelBytes = .ok len ∧
    c.dimension.clamped.width * stagingPixelBytes = pitch ∧ pitch < 2 ^ 32
  /-- A section of the raster device: `len` bytes of memory in rows of `pitch`, all of them
  reported unless sections are made short. -/
  raster : ∀ (r : RasterDevice) (id : Nat), r.failCreate = false → ∃ s r',
    r.createSection id c.format c.dimension.clamped = .ok (s, r') ∧ s.bits.size = len ∧
      s.width * 4 = pitch ∧ (r.shortSection = false → s.len = len)
  /-- A pixel buffer of the configuration's format and size, whatever its storage. -/
  pixels : ∀ st : Storage, (PixelBuffer.mk c.format c.dimension st).bytesPerRow = pitch ∧
    (PixelBuffer.mk c.format c.dimension st).bufferSize = .ok len
  /-- Building a compositor backend fails only where its acquisition does, and what it builds
  has a staging buffer of `len` bytes in rows of `pitch`. -/
  compositor : ∀ d : Devices, match runAct (CompositorBackend.new c) d with
    | (.ok b, _) => b.staging.size = len ∧ b.pitch = pitch
    | (.error e, _) => (runAct (CompositorBackend.acquire c) d).1 = .error e

theorem sized_of_validate (h : c.validate = .ok ()) (hc : c.dimension.clamped = c.dimension) :
    c.Sized (max c.dimension.width 1 * max c.dimension.height 1 * 4) (max c.dimension.width 1 * 4) := by
  obtain ⟨hready, hsec⟩ := (validate_ok_iff c).1 h
  have hbpp : c.format.bytesPerPixel = 4 := by simp [PixelFormat.bytesPerPixel, hready.1]
  have hword : max c.dimension.width 1 * max c.dimension.height 1 * 4 < wordLimit :=
    lt_of_le_of_lt hsec (by decide)
  obtain ⟨hstage, hpitch⟩ := staging_of_validate h
  simp only [Dimension.clamped_width, Dimension.clamped_height] at hstage hpitch
  refine ⟨?_, ⟨hstage, rfl, hpitch⟩, fun r id hfail => ?_, fun st => ?_, fun d => ?_⟩
  · rw [bufferLen_of_ready hready, if_neg (not_le.2 hword), if_pos hsec]
  · have hlen : c.dimension.clamped.byteLen c.format.bytesPerPixel =
        .ok (max c.dimension.width 1 * max c.dimension.height 1 * 4) := by
      rw [hbpp, Dimension.byteLen_four, Dimension.clamped_width, Dimension.clamped_height, if_pos hword]
    refine ⟨_, _, RasterDevice.createSection_eq_ok.2 ⟨hfail, _, hlen, rfl, rfl⟩, zeroBytes_size _, rfl,
      fun hshort => by simp [hshort]⟩
  · -- the buffer's size is the clamped one already
    have hW : max c.dimension.width 1 = c.dimension.width := by rw [← Dimension.clamped_width, hc]
    have hH : max c.dimension.height 1 = c.dimension.height := by rw [← Dimension.clamped_height, hc]
    have hrow : (PixelBuffer.mk c.format c.dimension st).bytesPerRow = max c.dimension.width 1 * 4 := by
      rw [PixelBuffer.bytesPerRow, PixelBuffer.bytesPerPixel, hbpp, hW]
    refine ⟨hrow, ?_⟩
    rw [PixelBuffer.bufferSize, hrow, PixelBuffer.wordMul, hH,
      show max c.dimension.width 1 * 4 * c.dimension.height =
        max c.dimension.width 1 * c.dimension.height * 4 by ring]
    rw [hH] at hword
    rw [if_pos hword]
  · -- past the acquisition, the staging length and the pitch are the ones the check allowed
    unfold CompositorBackend.new
    rw [runAct_bind]
    rcases hacq : runAct (CompositorBackend.acquire c) d with ⟨_ | ⟨surface, size, binding⟩, d'⟩
    · rfl
    · obtain ⟨hlen, hfit⟩ := staging_of_validate h
      simp only [hlen, if_neg (not_le.2 hfit)]
      exact And.intro (zeroBytes_size _) rfl

/-- **What checking a configuration answers, and what its memory comes to**: four bytes a pixel
wherever it is counted. -/
theorem validate_outcome (pf : PixelFormat) (dim : Dimension) (s : Option SurfaceHandle) :
    let c := BackendConfig.new pf dim s
    (c.validate = .ok () ↔ pf.BackendReady ∧ 4 * max dim.width 1 * max dim.height 1 ≤ 2 ^ 31 - 1) ∧
    (c.validate = .error .bufferOverflow ↔
      pf.BackendReady ∧ 2 ^ 64 ≤ 4 * max dim.width 1 * max dim.height 1) ∧
    (∀ e, c.validate = .error e → e ≠ .bufferOverflow → ∃ msg, e = .invalidConfig msg) ∧
    (c.validate = .ok () → c.Sized (4 * max dim.width 1 * max dim.height 1) (4 * max dim.width 1)) := by
  intro c
  -- the configuration's sides are already at least one
  have hW : max c.dimension.width 1 = max dim.width 1 := by simp [c, BackendConfig.new]
  have hH : max c.dimension.height 1 = max dim.height 1 := by simp [c, BackendConfig.new]
  have hlen : max c.dimension.width 1 * max c.dimension.height 1 * 4 =
      4 * max dim.width 1 * max dim.height 1 := by rw [hW, hH]; ring
  have hsec : sectionLimit = 2 ^ 31 - 1 := rfl
  have hword : wordLimit = 2 ^ 64 := rfl
  refine ⟨?_, ?_, fun e => validate_invalid, fun h => ?_⟩
  · rw [validate_ok_iff, hlen, hsec]
    rfl
  · rw [validate_overflow_iff, hlen, hword]
    rfl
  · have hsized := sized_of_validate h (Dimension.clamped_clamped dim)
    rwa [hlen, hW, mul_comm (max dim.width 1) 4] at hsized

/-- A configuration of two by two pixels in the default format passes the check and counts sixteen
bytes in rows of eight. -/
theorem two_by_two_config_sized :
    (BackendConfig.new .bgra32 ⟨2, 2⟩ none).validate = .ok () ∧
      (BackendConfig.new .bgra32 ⟨2, 2⟩ none).Sized (4 * max 2 1 * max 2 1) (4 * max 2 1) :=
  have hvalid : (BackendConfig.new .bgra32 ⟨2, 2⟩ none).validate = .ok () := by decide
  ⟨hvalid, (validate_outcome .bgra32 ⟨2, 2⟩ none).2.2.2 hvalid⟩

end BackendConfig

/-! ## Pixel buffers with and without memory -/

namespace PixelBuffer

variable {b src : PixelBuffer}

theorem modifyBytes_of_unbound (hst : b.storage = .unbound)
    (hfit : b.bytesPerRow * b.dimension.height < wordLimit) (f : ByteArray → ByteArray) :
    b.modifyBytes f = .error (.error .notInitialized) := by
  simp [modifyBytes, bufferSize, wordMul, hfit, hst]

theorem fillRect_of_unbound (hst : b.storage = .unbound)
    (hfit : b.bytesPerRow * b.dimension.height < wordLimit) (R : Rect) (c : Nat) :
    b.fillRect R c = if (R.clampTo b.dimension).isEmpty || b.bytesPerPixel == 0 then .ok b
      else .error (.error .notInitialized) := by
  split_ifs with hskip
  · exact fillRect_of_skip (by simpa using hskip)
  · obtain ⟨hne, hbpp⟩ : (R.clampTo b.dimension).isEmpty = false ∧ b.bytesPerPixel ≠ 0 := by
      simpa using hskip
    rw [fillRect_of_nonempty R c hne hbpp, modifyBytes_of_unbound hst hfit]

theorem copyFrom_of_unbound (hst : b.storage = .unbound)
    (hfit : b.bytesPerRow * b.dimension.height < wordLimit) (heq : b.format = src.format) {D : Rect}
    {sx sy : Int} (hox : Coord.lo < sx - D.left) (hoy : Coord.lo < sy - D.top) :
    b.copyFrom D src sx sy =
      if ∃ x y, InTransfer D b.dimension src.dimension (sx - D.left) (sy - D.top) x y then
        .error (.error .notInitialized)
      else .ok b := by
  have hhalt : ¬ (sx - D.left ≤ Coord.lo ∨ sy - D.top ≤ Coord.lo) := not_or.2 ⟨not_le.2 hox, not_le.2 hoy⟩
  split_ifs with hpix
  · have hT : (transferRect D b.dimension src.dimension (sx - D.left) (sy - D.top)).isEmpty = false := by
      rw [← Bool.not_eq_true, transferRect_isEmpty_iff, not_not]
      exact hpix
    rw [copyFrom_of_nonempty heq hox hoy hT]
    -- a source without memory is refused first; one with memory leaves the refusal to the destination
    cases hsb : src.bytes with
    | error e =>
      have he : e = .notInitialized := by
        unfold bytes at hsb
        split at hsb <;> simp_all
      subst he
      rfl
    | ok sb => exact modifyBytes_of_unbound hst hfit _
  · have hT : (transferRect D b.dimension src.dimension (sx - D.left) (sy - D.top)).isEmpty = true :=
      transferRect_isEmpty_iff.2 hpix
    simp only [copyFrom, sameFormat, if_pos heq, clip, clipPair_eq, if_neg hhalt, hT]
    rfl

theorem moveRect_of_unbound (hst : b.storage = .unbound)
    (hfit : b.bytesPerRow * b.dimension.height < wordLimit) {D : Rect} {sx sy : Int}
    (hox : Coord.lo < sx - D.left) (hoy : Coord.lo < sy - D.top) :
    b.moveRect D sx sy =
      if ∃ x y, InTransfer D b.dimension b.dimension (sx - D.left) (sy - D.top) x y then
        .error (.error .notInitialized)
      else .ok b := by
  have hhalt : ¬ (sx - D.left ≤ Coord.lo ∨ sy - D.top ≤ Coord.lo) := not_or.2 ⟨not_le.2 hox, not_le.2 hoy⟩
  split_ifs with hpix
  · have hT : (transferRect D b.dimension b.dimension (sx - D.left) (sy - D.top)).isEmpty = false := by
      rw [← Bool.not_eq_true, transferRect_isEmpty_iff, not_not]
      exact hpix
    rw [moveRect_of_nonempty hox hoy hT, modifyBytes_of_unbound hst hfit]
  · have hT : (transferRect D b.dimension b.dimension (sx - D.left) (sy - D.top)).isEmpty = true :=
      transferRect_isEmpty_iff.2 hpix
    simp only [moveRect, clip, clipPair_eq, if_neg hhalt, hT]
    rfl

/-- What a buffer without memory answers to the calls that would write its bytes: the bytes are
refused; a fill, a copy into it past the format check, and a move are refused when they have pixels
to write, and change nothing when they have none. Transfers are taken at offsets above the least
coordinate. -/
structure Unbacked (b : PixelBuffer) : Prop where
  bytesMut : ∀ f, b.modifyBytes f = .error (.error .notInitialized)
  fill : ∀ R c, b.fillRect R c =
    if (R.clampTo b.dimension).isEmpty || b.bytesPerPixel == 0 then .ok b
    else .error (.error .notInitialized)
  copy : ∀ (D : Rect) (src : PixelBuffer) (sx sy : Int), Coord.lo < sx - D.left → Coord.lo < sy - D.top →
    b.copyFrom D src sx sy =
      if b.format ≠ src.format then .error (.error .formatMismatch)
      else if ∃ x y, InTransfer D b.dimension src.dimension (sx - D.left) (sy - D.top) x y then
        .error (.error .notInitialized)
      else .ok b
  move : ∀ (D : Rect) (sx sy : Int), Coord.lo < sx - D.left → Coord.lo < sy - D.top →
    b.moveRect D sx sy =
      if ∃ x y, InTransfer D b.dimension b.dimension (sx - D.left) (sy - D.top) x y then
        .error (.error .notInitialized)
      else .ok b

theorem unbacked_of_unbound (hst : b.storage = .unbound)
    (hfit : b.bytesPerRow * b.dimension.height < wordLimit) : b.Unbacked := by
  refine ⟨modifyBytes_of_unbound hst hfit, fillRect_of_unbound hst hfit,
    fun D src sx sy hox hoy => ?_, fun D sx sy hox hoy => moveRect_of_unbound hst hfit hox hoy⟩
  by_cases heq : b.format = src.format
  · rw [if_neg (not_not.2 heq), copyFrom_of_unbound hst hfit heq hox hoy]
  · rw [if_pos heq]
    simp only [copyFrom, sameFormat, if_neg heq]
    rfl

theorem new_eq_ok {pf : PixelFormat} {dim : Dimension} (h : new pf dim = .ok b) :
    ∃ len, dim.clamped.byteLen pf.bytesPerPixel = .ok len ∧
      b = ⟨pf, dim.clamped, .owned ⟨Array.replicate len 0⟩⟩ := by
  unfold new at h
  dsimp only at h
  split at h
  · cases h
    exact ⟨_, ‹_›, rfl⟩
  · cases h

theorem row_lt_wordLimit {w bits : Nat} (hw : w < 2 ^ 32) (hbits : bits < 2 ^ 8) :
    max w 1 * ((bits + 7) / 8) < wordLimit := by
  have hW : max w 1 < 2 ^ 32 := max_lt hw (by norm_num)
  have hbpp : (bits + 7) / 8 ≤ 32 := by omega
  calc max w 1 * ((bits + 7) / 8) ≤ max w 1 * 32 := Nat.mul_le_mul_left _ hbpp
    _ < wordLimit := by unfold wordLimit; simp only [Nat.pow_eq]; omega

/-- **The sizes of a buffer, and what a buffer without memory refuses.** -/
theorem sizes_of_new_and_unbound (pf : PixelFormat) (dim : Dimension) :
    let n := max dim.width 1 * max dim.height 1 * pf.bytesPerPixel
    (∀ b, new pf dim = .ok b → b.bytesPerRow = max dim.width 1 * pf.bytesPerPixel ∧
      b.bufferSize = .ok n ∧ ∃ bs, b.bytes = .ok bs ∧ bs.size = n) ∧
    (unbound pf dim).bytesPerRow = max dim.width 1 * pf.bytesPerPixel ∧
    (dim.width < 2 ^ 32 → pf.bitsPerPixel < 2 ^ 8 → max dim.width 1 * pf.bytesPerPixel < wordLimit) ∧
    (n < wordLimit → (unbound pf dim).bufferSize = .ok n ∧ (unbound pf dim).Unbacked) := by
  intro n
  -- both ways of counting the bytes agree
  have hcount : max dim.width 1 * pf.bytesPerPixel * max dim.height 1 = n := by
    simp only [n]
    ring
  refine ⟨fun b h => ?_, rfl, row_lt_wordLimit, fun hfit => ?_⟩
  · obtain ⟨len, hlen, rfl⟩ := new_eq_ok h
    obtain ⟨-, hlt, rfl⟩ := Dimension.byteLen_eq_ok_iff.1 hlen
    simp only [Dimension.clamped_width, Dimension.clamped_height] at hlt
    refine ⟨rfl, ?_, _, rfl, by simp [ByteArray.size, n]⟩
    simp only [bufferSize, wordMul, bytesPerRow, bytesPerPixel, Dimension.clamped_width,
      Dimension.clamped_height, hcount]
    rw [if_pos hlt]
  · have hfit' : (unbound pf dim).bytesPerRow * (unbound pf dim).dimension.height < wordLimit := by
      simp only [unbound, bytesPerRow, bytesPerPixel, Dimension.clamped_width, Dimension.clamped_height, hcount]
      exact hfit
    refine ⟨?_, unbacked_of_unbound rfl hfit'⟩
    simp only [bufferSize, wordMul, if_pos hfit']
    simp only [unbound, bytesPerRow, bytesPerPixel, Dimension.clamped_width, Dimension.clamped_height, hcount]

/-- A buffer of two by two pixels made without memory has sixteen bytes that fit the machine word,
and refuses what would write them. -/
theorem two_by_two_unbound_refuses :
    max 2 1 * max 2 1 * PixelFormat.bgra32.bytesPerPixel < wordLimit ∧
      (unbound .bgra32 ⟨2, 2⟩).bufferSize = .ok (max 2 1 * max 2 1 * PixelFormat.bgra32.bytesPerPixel) ∧
      (unbound .bgra32 ⟨2, 2⟩).Unbacked :=
  have hfit : max 2 1 * max 2 1 * PixelFormat.bgra32.bytesPerPixel < wordLimit := by decide
  ⟨hfit, (sizes_of_new_and_unbound .bgra32 ⟨2, 2⟩).2.2.2 hfit⟩

/-- **A buffer without memory does not refuse a fill with nothing to write**: filling an empty
rectangle answers with the buffer unchanged. -/
theorem unbound_empty_fill_answers :
    (unbound .bgra32 ⟨2, 2⟩).fillRect ⟨0, 0, 0, 0⟩ 0 = .ok (unbound .bgra32 ⟨2, 2⟩) :=
  fillRect_of_skip (.inl (by decide))

end PixelBuffer

end Presenter
