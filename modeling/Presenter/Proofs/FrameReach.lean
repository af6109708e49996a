import Mathlib
import Presenter.Session.Frame
import Presenter.Proofs.CoordinatorReach
/-!
# Frame sessions — the frame buffer follows the live backend

A frame session drives a frame buffer over a coordinator. In every session reached by steps
that never switch the short-section fault on, and by initialisations of any size, the frame
buffer is in step with its coordinator (`FrameBuffer.Synced`): bound exactly while a backend is
live, to that backend's memory, of that memory's length, and in the format and size the backend
was built for. Only a successful initialise changes the format or the size, and an operation that
would replace them is refused and changes nothing (`buffer_follows_live_backend`).

Each step reaches the devices through one frame buffer call, whose triple is built here from the
coordinator's (`Lifecycle`). A pixel step on the frame buffer writes the live backend's memory in
place (`PixelExtent`), so its backend only gets other bytes (`Coordinator.Repainted`).
-/

namespace Presenter

open Std.Do

set_option mvcgen.warning false

theorem Coordinator.switchMode_of_none (c : Coordinator) (req : RenderMode)
    (h : c.backend = none) : c.switchMode req = pure (c, .error .notInitialized) := by
  unfold Coordinator.switchMode
  split <;> simp [h]

theorem Backend.alike_replaceBits (b : Backend) (bits : ByteArray)
    (h : b.mode = .compositor → bits.size = b.bits.size) : b.Alike (b.replaceBits bits) := by
  unfold Backend.replaceBits
  split
  · rename_i hsize
    cases b with
    | raster r => exact ⟨rfl, rfl, rfl, rfl, rfl⟩
    | compositor c => exact ⟨rfl, rfl, rfl, rfl, hsize⟩
  · rename_i hsize
    cases b with
    | raster r => exact ⟨rfl, rfl, rfl, rfl, rfl⟩
    | compositor c => exact absurd (h rfl) hsize

theorem Storage.SameShape.size_bound {st st' : Storage} {i j : Nat} {a c : ByteArray}
    (h : st.SameShape st') (hst : st = .bound i a) (hst' : st' = .bound j c) : c.size = a.size := by
  subst hst hst'
  exact h.2

namespace FrameBuffer

variable {fb : FrameBuffer}

/-- A live backend was built for the buffer's format and size. -/
def Laid (fb : FrameBuffer) : Prop :=
  ∀ b, fb.coordinator.backend = some b →
    ∃ cfg, fb.coordinator.config = some cfg ∧ fb.format = cfg.format ∧ fb.dimension = cfg.dimension

/-- What a frame buffer keeps of its coordinator. -/
structure Synced (fb : FrameBuffer) : Prop where
  /-- Bound exactly while a backend is live, to that backend's memory. -/
  binding : fb.binding = fb.coordinator.backend.map Backend.memoryId
  /-- A live backend was built for the buffer's format and size. -/
  laid : fb.Laid

theorem bufferSize_eq {b : Backend} (hc : fb.coordinator.Sound True) (hl : fb.Laid)
    (hb : fb.coordinator.backend = some b) : fb.bufferSize = b.memoryLen := by
  obtain ⟨cfg, hcfg, hformat, hdim⟩ := hl b hb
  obtain ⟨-, cfg', hcfg', -, hbdim⟩ := hc.backend b hb
  obtain rfl : cfg = cfg' := Option.some.inj (hcfg.symm.trans hcfg')
  have hbpp := BackendConfig.bytesPerPixel_of_validate (hc.config cfg hcfg).1
  have hmem := hc.memory b hb fun _ => trivial
  calc fb.bufferSize = cfg.dimension.width * 4 * cfg.dimension.height := by
        rw [bufferSize, hformat, hdim, hbpp]
    _ = b.memoryLen := by rw [hmem, hbdim]; ring

theorem rebind_of_laid (hc : fb.coordinator.Sound True) (hl : fb.Laid) :
    fb.rebind = ({ fb with binding := fb.coordinator.backend.map Backend.memoryId }, .ok ()) := by
  unfold rebind
  split
  · rename_i b hb
    rw [if_neg (by rw [bufferSize_eq hc hl hb]; exact Nat.lt_irrefl _), hb]
    rfl
  · rename_i hb
    rw [hb]
    rfl

theorem synced_of_laid (hl : fb.Laid) :
    { fb with binding := fb.coordinator.backend.map Backend.memoryId }.Synced :=
  ⟨rfl, hl⟩

@[simp] theorem follow_coordinator (c : Coordinator) : (fb.follow c).coordinator = c := rfl
@[simp] theorem follow_format (c : Coordinator) : (fb.follow c).format = fb.format := rfl
@[simp] theorem follow_dimension (c : Coordinator) : (fb.follow c).dimension = fb.dimension := rfl
@[simp] theorem follow_binding (c : Coordinator) : (fb.follow c).binding = fb.binding := rfl

@[simp] theorem follow_self : fb.follow fb.coordinator = fb := by
  unfold follow
  split
  · rename_i b hb
    have hlive : fb.coordinator.backend = some b := by
      unfold boundBackend at hb
      split at hb
      · split_ifs at hb
        cases hb
        assumption
      · cases hb
    rw [if_pos (by rw [hlive]; rfl)]
  · rfl

theorem boundBackend_of_bound {b : Backend} (hbind : fb.binding = some b.memoryId)
    (hb : fb.coordinator.backend = some b) : fb.boundBackend = some b := by
  simp [boundBackend, hbind, hb]

theorem Synced.boundBackend_eq (hs : fb.Synced) : fb.boundBackend = fb.coordinator.backend := by
  rcases hb : fb.coordinator.backend with _ | b
  · simp [boundBackend, hs.binding, hb]
  · exact boundBackend_of_bound (by rw [hs.binding, hb]; rfl) hb

theorem pixels_of_unbound (h : fb.binding = none) :
    fb.pixels = ⟨fb.format, fb.dimension, .unbound⟩ := by
  simp [pixels, h]

theorem pixels_of_backend {b : Backend} (hbind : fb.binding = some b.memoryId)
    (hb : fb.coordinator.backend = some b) :
    fb.pixels = ⟨fb.format, fb.dimension, .bound b.memoryId (b.bits.extract 0 fb.bufferSize)⟩ := by
  simp only [pixels, hbind, boundBackend_of_bound hbind hb]

theorem pixels_of_compositor {b : Backend} (hc : fb.coordinator.Sound True) (hs : fb.Synced)
    (hb : fb.coordinator.backend = some b) (hm : b.mode = .compositor) :
    fb.pixels = ⟨fb.format, fb.dimension, .bound b.memoryId b.bits⟩ ∧
      b.bits.size = fb.bufferSize := by
  -- a compositor's memory length is its staging buffer's
  have hsize : b.bits.size = fb.bufferSize := by
    rw [bufferSize_eq hc hs.laid hb]
    cases b with
    | raster r => cases hm
    | compositor c => rfl
  refine ⟨?_, hsize⟩
  rw [pixels_of_backend (by rw [hs.binding, hb]; rfl) hb, ← hsize, ByteArray.extract_zero_size]

theorem full_of_compositor {b : Backend} (hc : fb.coordinator.Sound True)
    (hs : fb.Synced) (hb : fb.coordinator.backend = some b) (hm : b.mode = .compositor) :
    fb.pixels.Full := by
  obtain ⟨hpix, hsize⟩ := pixels_of_compositor hc hs hb hm
  rw [hpix]
  intro bs hbs
  cases hbs
  exact hsize

theorem store_of_sameLayout {pb' : PixelBuffer} (hc : fb.coordinator.Sound True) (hs : fb.Synced)
    (hsame : fb.pixels.Full → fb.pixels.SameLayout pb') :
    ∃ c', fb.store pb' = { fb with coordinator := c' } ∧ fb.coordinator.Repainted c' := by
  unfold store
  split
  · rename_i id bits hstorage
    rw [hs.boundBackend_eq]
    rcases hb : fb.coordinator.backend with _ | b
    · have hpix := pixels_of_unbound (by rw [hs.binding, hb]; rfl)
      have hshape := (hsame (by rw [hpix]; intro bs h; simp [PixelBuffer.bytes] at h)).2.2
      rw [hpix, hstorage] at hshape
      exact hshape.elim
    · refine ⟨_, rfl, .inr ⟨b, _, hb, rfl, b.alike_replaceBits bits fun hm => ?_⟩⟩
      have hshape := (hsame (full_of_compositor hc hs hb hm)).2.2
      rw [(pixels_of_compositor hc hs hb hm).1] at hshape
      exact hshape.size_bound rfl hstorage
  · exact ⟨fb.coordinator, rfl, .refl _⟩

theorem synced_of_repainted {c' : Coordinator} (hs : fb.Synced) (h : fb.coordinator.Repainted c') :
    { fb with coordinator := c' }.Synced := by
  rcases h with rfl | ⟨b, b', hb, rfl, -, -, -, hid, -⟩
  · exact hs
  · refine ⟨?_, fun b'' hb'' => ?_⟩
    · simp [hs.binding, hb, hid]
    · cases hb''
      exact hs.laid b hb

/-- What a frame buffer call from `fb` may end in, over devices holding the stock `k` and the
live backend: a sound coordinator whose backend the devices hold, and a buffer in step with it,
of the format and size it had, unless the call `relays` the buffer and succeeded. -/
def Settled (fb : FrameBuffer) (relays : Prop) (k : Stock) (n : Nat)
    (r : FrameBuffer × Except Error Unit) (d : Devices) : Prop :=
  r.1.coordinator.Sound True ∧ r.1.Synced ∧ d.Tally (k.keep r.1.coordinator.backend) n ∧
    (r.1.format = fb.format ∧ r.1.dimension = fb.dimension ∨ relays ∧ r.2 = .ok ())

variable {relays : Prop} {format : PixelFormat} {dim : Dimension} {surface : Option SurfaceHandle}
  {k : Stock} {n : Nat} {r : Coordinator × Except Error Unit} {d : Devices}

theorem settled_self {res : Except Error Unit} (hc : fb.coordinator.Sound True) (hs : fb.Synced)
    (htally : d.Tally (k.keep fb.coordinator.backend) n) : fb.Settled relays k n (fb, res) d :=
  ⟨hc, hs, htally, .inl ⟨rfl, rfl⟩⟩

theorem settled_of_repainted {c' : Coordinator} {res : Except Error Unit}
    (hc : fb.coordinator.Sound True) (hs : fb.Synced) (h : fb.coordinator.Repainted c')
    (htally : d.Tally (k.keep fb.coordinator.backend) n) :
    fb.Settled relays k n ({ fb with coordinator := c' }, res) d := by
  refine ⟨hc.of_repainted h, synced_of_repainted hs h, ?_, .inl ⟨rfl, rfl⟩⟩
  show d.Tally (k.keep c'.backend) n
  rw [h.keep_eq]
  exact htally

theorem laid_of_setup {fb' : FrameBuffer} (hl : fb.Laid)
    (h : fb.coordinator.Setup (BackendConfig.new format dim surface) k n r d)
    (hc : fb'.coordinator = r.1) (hok : r.2 = .ok () → fb'.format = format ∧ fb'.dimension = dim.clamped)
    (herr : ∀ e, r.2 = .error e → fb'.format = fb.format ∧ fb'.dimension = fb.dimension) :
    fb'.Laid := by
  intro b hb
  rw [hc] at hb ⊢
  rcases h with ⟨e, -, rfl, -⟩ | ⟨-, m, hcreated⟩
  · -- a configuration that is not valid changes nothing
    obtain ⟨hformat, hdim⟩ := herr e rfl
    rw [hformat, hdim]
    exact hl b hb
  · unfold Coordinator.Created at hcreated
    split at hcreated
    · -- the new backend was built for the new configuration
      rename_i hres
      obtain ⟨-, cfg, s, b', hcfg, hr, -⟩ := hcreated
      cases hcfg
      obtain ⟨hformat, hdim⟩ := hok hres
      rw [hr]
      exact ⟨_, rfl, hformat, hdim⟩
    · rw [hcreated.2.none.1] at hb
      cases hb

theorem rebind_snd (hc : fb.coordinator.Sound True) (hl : fb.Laid) : fb.rebind.2 = .ok () := by
  rw [rebind_of_laid hc hl]

theorem settled_of_rebind {fb' : FrameBuffer} {res : Except Error Unit}
    (hc : fb'.coordinator.Sound True) (hl : fb'.Laid)
    (htally : d.Tally (k.keep fb'.coordinator.backend) n)
    (hlayout : fb'.format = fb.format ∧ fb'.dimension = fb.dimension ∨ relays ∧ res = .ok ()) :
    fb.Settled relays k n (fb'.rebind.1, res) d := by
  rw [rebind_of_laid hc hl]
  exact ⟨hc, synced_of_laid hl, htally, hlayout⟩

theorem settled_after_setup (hrelays : relays) (hc : fb.coordinator.Sound True) (hs : fb.Synced)
    (hk : k.shortSection = false)
    (hr : fb.coordinator.Setup (BackendConfig.new format dim surface) k n r d) :
    let fb' := match r.2 with
      | .ok () => { fb.follow r.1 with format, dimension := dim.clamped, binding := none }
      | .error _ => fb.follow r.1
    fb'.rebind.2 = .ok () ∧ fb.Settled relays k n (fb'.rebind.1, r.2) d := by
  intro fb'
  obtain ⟨hsound, htally⟩ := hc.of_setup (fun _ => hk) hr
  have hcoord : fb'.coordinator = r.1 := by
    simp only [fb']
    split <;> rfl
  have hl : fb'.Laid := laid_of_setup hs.laid hr hcoord (fun h => by simp [fb', h])
    (fun e h => by simp [fb', h])
  refine ⟨rebind_snd (hcoord ▸ hsound) hl, settled_of_rebind (hcoord ▸ hsound) hl (hcoord ▸ htally) ?_⟩
  simp only [fb']
  split
  · exact .inr ⟨hrelays, ‹_›⟩
  · exact .inl ⟨rfl, rfl⟩

theorem setup_spec (fb : FrameBuffer) (format : PixelFormat) (dim : Dimension)
    (surface : Option SurfaceHandle) (k : Stock) (n : Nat) (hrelays : relays)
    (hc : fb.coordinator.Sound True) (hs : fb.Synced) (hk : k.shortSection = false) :
    ⦃fun d => ⌜d.Tally (k.keep fb.coordinator.backend) n⌝⦄ fb.setup format dim surface
    ⦃⇓ r d => ⌜fb.Settled relays k n r d⌝⦄ := by
  have hsetup := fun m => fb.coordinator.setup_spec format dim surface m k n
  mvcgen [FrameBuffer.setup, -Coordinator.setup_spec, hsetup]
  all_goals
    rename_i hbound _ hr
    obtain ⟨hok, hset⟩ := settled_after_setup hrelays hc hs hk hr
  · exact absurd (hok.symm.trans hbound) (by simp)
  · exact hset

theorem laid_of_switched {req : RenderMode} {b : Backend} (hl : fb.Laid)
    (hb : fb.coordinator.backend = some b) (h : fb.coordinator.Switched req k n r d) :
    (fb.follow r.1).Laid := by
  have hkept : ∀ {c'}, fb.coordinator.Kept k n c' d → (fb.follow c').Laid := by
    rintro c' ⟨rfl, -⟩
    exact hl
  -- a rebuilt backend was built for the configuration the live one was
  have hrebuilt : ∀ {c'}, fb.coordinator.Rebuilt k n c' d → (fb.follow c').Laid := by
    rintro c' ⟨cfg, s, b', hcfg, rfl, -⟩ b'' -
    obtain ⟨cfg₀, hcfg₀, hformat, hdim⟩ := hl b hb
    obtain rfl : cfg = cfg₀ := Option.some.inj (hcfg.symm.trans hcfg₀)
    exact ⟨_, rfl, hformat, hdim⟩
  unfold Coordinator.Switched at h
  split at h
  · rcases h.2 with h | h
    · exact hkept h
    · exact hrebuilt h
  · split at h
    · rcases h.2 with h | ⟨-, h⟩
      · exact hkept h
      · exact hrebuilt h
    · intro b' hb'
      rw [follow_coordinator, h.none.1] at hb'
      cases hb'

theorem switchMode_spec (fb : FrameBuffer) (req : RenderMode) (k : Stock) (n : Nat)
    (hc : fb.coordinator.Sound True) (hs : fb.Synced) (hk : k.shortSection = false) :
    ⦃fun d => ⌜d.Tally (k.keep fb.coordinator.backend) n⌝⦄ fb.switchMode req
    ⦃⇓ r d => ⌜fb.Settled relays k n r d⌝⦄ := by
  rcases hb : fb.coordinator.backend with _ | b
  · -- without a backend the coordinator refuses at once
    unfold FrameBuffer.switchMode
    rw [fb.coordinator.switchMode_of_none req hb]
    -- the buffer takes the coordinator back as it was
    have hc' : (fb.follow fb.coordinator).coordinator.Sound True := hc
    have hl : (fb.follow fb.coordinator).Laid := hs.laid
    mvcgen
    all_goals rename_i hbound
    · exact absurd ((rebind_snd hc' hl).symm.trans hbound) (by simp)
    · exact settled_of_rebind hc' hl (by rw [follow_coordinator, hb]; assumption) (.inl ⟨rfl, rfl⟩)
  · have hswitch := fb.coordinator.switchMode_spec req k n
    rw [hb] at hswitch
    mvcgen [FrameBuffer.switchMode, -Coordinator.switchMode_spec, hswitch]
    all_goals
      rename_i hbound _ hr
      obtain ⟨hsound, htally⟩ := hc.of_switched (fun _ => hk) hr
      have hl := laid_of_switched hs.laid hb hr
    · exact absurd ((rebind_snd hsound hl).symm.trans hbound) (by simp)
    · exact settled_of_rebind hsound hl htally (.inl ⟨rfl, rfl⟩)

/-- `fb'` is `fb` with its coordinator repainted, over devices that hold what they held. -/
def Redrawn (fb : FrameBuffer) (k : Stock) (n : Nat) (fb' : FrameBuffer) (d : Devices) : Prop :=
  ∃ c', fb' = { fb with coordinator := c' } ∧ fb.coordinator.Repainted c' ∧
    d.Tally (k.keep fb.coordinator.backend) n

theorem Redrawn.settled {fb' : FrameBuffer} {res : Except Error Unit}
    (hc : fb.coordinator.Sound True) (hs : fb.Synced) (h : fb.Redrawn k n fb' d) :
    fb.Settled relays k n (fb', res) d := by
  obtain ⟨c', rfl, hrepainted, htally⟩ := h
  exact settled_of_repainted hc hs hrepainted htally

theorem draw_spec (fb : FrameBuffer) (call : DrawCall) (k : Stock) (n : Nat) :
    ⦃fun d => ⌜d.Tally (k.keep fb.coordinator.backend) n⌝⦄ fb.onCoordinator (·.draw call)
    ⦃post⟨fun r d => ⌜fb.Redrawn k n r.1 d⌝, fun _ d => ⌜d.Tally (k.keep fb.coordinator.backend) n⌝⟩⦄ := by
  have hdraw := fb.coordinator.draw_spec call k n
  mvcgen [FrameBuffer.onCoordinator, -Coordinator.draw_spec, hdraw]
  rename_i r d hdrawn
  exact ⟨r.1, rfl, hdrawn.2, hdrawn.1⟩

theorem store_of_folded {α : Type} {f : PixelBuffer → α → Except Stop PixelBuffer} {l : List α}
    {pb' : PixelBuffer} (hc : fb.coordinator.Sound True) (hs : fb.Synced)
    (hfold : l.foldlM f fb.pixels = .ok pb') (hf : ∀ b a b', f b a = .ok b' → b.SameLayout b') :
    ∃ c₁, fb.store pb' = { fb with coordinator := c₁ } ∧ fb.coordinator.Repainted c₁ :=
  store_of_sameLayout hc hs fun _ => PixelBuffer.sameLayout_foldlM hf l _ pb' hfold

theorem redrawn_of_repainted {c₁ : Coordinator} {fb'' : FrameBuffer}
    (h : fb.coordinator.Repainted c₁) (h' : { fb with coordinator := c₁ }.Redrawn k n fb'' d) :
    fb.Redrawn k n fb'' d := by
  obtain ⟨c₂, rfl, hrepainted, htally⟩ := h'
  refine ⟨c₂, rfl, h.trans hrepainted, ?_⟩
  rw [← h.keep_eq]
  exact htally

theorem paintTestPattern_spec (fb : FrameBuffer) (k : Stock) (n : Nat)
    (hc : fb.coordinator.Sound True) (hs : fb.Synced) :
    ⦃fun d => ⌜d.Tally (k.keep fb.coordinator.backend) n⌝⦄ fb.paintTestPattern
    ⦃post⟨fun r d => ⌜fb.Redrawn k n r.1 d⌝, fun _ d => ⌜d.Tally (k.keep fb.coordinator.backend) n⌝⟩⦄ := by
  -- presenting is the drawing call that shows the frame
  have hpresent : ∀ (fb' : FrameBuffer) (full : Rect),
      ⦃fun d => ⌜d.Tally (k.keep fb'.coordinator.backend) n⌝⦄ fb'.onCoordinator (·.present full)
      ⦃post⟨fun r d => ⌜fb'.Redrawn k n r.1 d⌝,
        fun _ d => ⌜d.Tally (k.keep fb'.coordinator.backend) n⌝⟩⦄ :=
    fun fb' full => draw_spec fb' (.present full) k n
  unfold paintTestPattern
  mvcgen [Act.ofStop, hpresent]
  case vc1.isTrue htally => exact ⟨fb.coordinator, rfl, .refl _, htally⟩
  -- the filled bars are stored back before the frame is presented
  case vc2.isFalse.h_1.pre htally pb' hfold =>
    obtain ⟨c₁, hstore, hrepainted⟩ :=
      store_of_folded hc hs hfold fun _ _ _ h => PixelBuffer.fillRect_sameLayout h
    rw [hstore]
    show Devices.Tally (k.keep c₁.backend) n _
    rw [hrepainted.keep_eq]
    exact htally
  case vc3.isFalse.h_1.post.success pb' hfold r d =>
    obtain ⟨c₁, hstore, hrepainted⟩ :=
      store_of_folded hc hs hfold fun _ _ _ h => PixelBuffer.fillRect_sameLayout h
    rw [hstore]
    exact redrawn_of_repainted hrepainted
  case vc4.isFalse.h_1.post.except.handle pb' hfold e d =>
    obtain ⟨c₁, hstore, hrepainted⟩ :=
      store_of_folded hc hs hfold fun _ _ _ h => PixelBuffer.fillRect_sameLayout h
    rw [hstore]
    show d.Tally (k.keep c₁.backend) n → _
    rw [hrepainted.keep_eq]
    exact id

theorem drawTestPattern_spec (fb : FrameBuffer) (k : Stock) (n : Nat)
    (hc : fb.coordinator.Sound True) (hs : fb.Synced) :
    ⦃fun d => ⌜d.Tally (k.keep fb.coordinator.backend) n⌝⦄ fb.drawTestPattern
    ⦃post⟨fun fb' d => ⌜fb.Redrawn k n fb' d⌝,
      fun _ d => ⌜d.Tally (k.keep fb.coordinator.backend) n⌝⟩⦄ := by
  have hpaint := paintTestPattern_spec fb k n hc hs
  mvcgen [drawTestPattern, Act.attempt, Act.warn, Act.emit, -paintTestPattern_spec, hpaint]
  -- a refused painting is only logged, which touches no resource
  rename_i htally _ _ _
  exact ⟨fb.coordinator, rfl, .refl _, htally⟩

theorem setTargetSurface_spec (fb : FrameBuffer) (surface : SurfaceHandle) (k : Stock) (n : Nat) :
    ⦃fun d => ⌜d.Tally (k.keep fb.coordinator.backend) n⌝⦄ fb.setTargetSurface surface
    ⦃⇓ _ d => ⌜d.Tally (k.keep fb.coordinator.backend) n⌝⦄ := by
  mvcgen [setTargetSurface, Act.debug, Act.emit]

theorem refuse_spec (op : Replacement) (k : Stock) (n : Nat) :
    ⦃fun d => ⌜d.Tally k n⌝⦄ FrameBuffer.refuse op
    ⦃⇓ e d => ⌜e = .unsupportedOperation op.name ∧ d.Tally k n⌝⦄ := by
  mvcgen [FrameBuffer.refuse, Act.debug, Act.emit]

end FrameBuffer

/-! ## Reachable frame sessions -/

/-- A step as read that never switches the short-section fault on. -/
def FrameStep.keepsSectionsWhole : Except Misuse FrameStep → Bool
  | .ok (.configure settings) => !settings.any DeviceSetting.shortens
  | _ => true

namespace FrameSession

/-- What every session keeps while sections stay whole: a sound coordinator, devices holding
exactly its backend's resources with the short-section fault off, and the frame buffer in step
with the coordinator. -/
structure Invariant (s : FrameSession) : Prop where
  sound : s.fb.coordinator.Sound True
  holds : s.devices.Holds s.fb.coordinator.backend
  whole : s.devices.raster.shortSection = false
  synced : s.fb.Synced

variable {s : FrameSession}

theorem start_invariant (p : Platform) (preferred : RenderMode) (env : Environment) :
    (start p preferred env).Invariant := by
  have hsound : (Coordinator.new p).Sound True := by
    refine ⟨fun _ h => ?_, fun _ h => ?_, fun _ h => ?_⟩ <;> simp [Coordinator.new] at h
  refine ⟨hsound, ?_, rfl, ⟨rfl, fun _ h => ?_⟩⟩
  · simpa [Devices.holds_iff, start, FrameBuffer.new, Coordinator.new, Backend.sectionsOf,
      Backend.pairsOf] using Released.nil
  · simp [start, FrameBuffer.new, Coordinator.new] at h

theorem Invariant.of_eq {s' : FrameSession} (hs : s.Invariant) (hfb : s'.fb = s.fb)
    (hd : s'.devices = s.devices) : s'.Invariant := by
  obtain ⟨fb', side', d'⟩ := s'
  simp only at hfb hd
  subst hfb hd
  exact ⟨hs.sound, hs.holds, hs.whole, hs.synced⟩

theorem onFrame_invariant (relays : Prop) {x : Act (FrameBuffer × Except Error Unit)}
    {Q : FrameBuffer × Except Error Unit → Devices → Prop} {E : Stop → Devices → Prop}
    (hx : ⦃fun d => ⌜d.Tally ((Stock.idle s.devices).keep s.fb.coordinator.backend) 0⌝⦄ x
      ⦃post⟨fun r d => ⌜Q r d⌝, fun e d => ⌜E e d⌝⟩⦄)
    (hQ : ∀ r d, Q r d → s.fb.Settled relays (Stock.idle s.devices) 0 r d)
    (hE : ∀ e d, E e d → d.Tally ((Stock.idle s.devices).keep s.fb.coordinator.backend) 0)
    (hs : s.Invariant) :
    (s.onFrame x).2.Invariant ∧
      ((s.onFrame x).2.fb.format = s.fb.format ∧ (s.onFrame x).2.fb.dimension = s.fb.dimension ∨
        relays ∧ (s.onFrame x).1.outcome = .ok .unit) := by
  have hrun := Act.runAct_of_triple hx hs.holds
  have hidle : (Stock.idle s.devices).sections = 0 ∧ (Stock.idle s.devices).factories = 0 ∧
      (Stock.idle s.devices).targets = 0 := ⟨rfl, rfl, rfl⟩
  unfold onFrame
  split <;> rename_i heq <;> rw [heq] at hrun
  · obtain ⟨hsound, hsynced, htally, hlayout⟩ := hQ _ _ hrun
    refine ⟨⟨hsound, Devices.holds_of_tally hidle htally, htally.shortSection_eq.trans hs.whole,
      hsynced⟩, ?_⟩
    rcases hlayout with hlayout | ⟨hrelays, hok⟩
    · exact .inl hlayout
    · simp only at hok
      exact .inr ⟨hrelays, by simp [hok, Outcome.ofUnit]⟩
  all_goals
    have htally := hE _ _ hrun
    exact ⟨⟨hs.sound, Devices.holds_of_tally hidle htally, htally.shortSection_eq.trans hs.whole,
      hs.synced⟩, .inl ⟨rfl, rfl⟩⟩

theorem frameStep_stores (s : FrameSession) (st : PixelStep) :
    (s.frameStep st).2 = s ∨ ∃ op src,
      (s.frameStep st).2 = { s with fb := s.fb.store (runPixelOp s.fb.pixels op src).2 } := by
  unfold frameStep
  split
  · exact .inl rfl
  dsimp only
  split
  · exact .inl rfl
  · exact .inl rfl
  rename_i src op _ _
  split
  · exact .inl rfl
  exact .inr ⟨op, src.getD s.fb.pixels, rfl⟩

theorem frameStep_invariant (hs : s.Invariant) (st : PixelStep) :
    (s.frameStep st).2.Invariant ∧ (s.frameStep st).2.fb.format = s.fb.format ∧
      (s.frameStep st).2.fb.dimension = s.fb.dimension := by
  rcases s.frameStep_stores st with heq | ⟨op, src, heq⟩ <;> rw [heq]
  · exact ⟨hs, rfl, rfl⟩
  -- every operation keeps whole memory whole, which is what the buffer sees of a compositor
  obtain ⟨c₁, hstore, hrepainted⟩ := FrameBuffer.store_of_sameLayout hs.sound hs.synced
    fun hfull => runPixelOp_sameLayout hfull op src
  rw [hstore]
  refine ⟨⟨hs.sound.of_repainted hrepainted, ?_, hs.whole,
    FrameBuffer.synced_of_repainted hs.synced hrepainted⟩, rfl, rfl⟩
  unfold Devices.Holds
  rw [hrepainted.keep_eq]
  exact hs.holds

theorem sideStep_keeps (s : FrameSession) (st : PixelStep) :
    (s.sideStep st).2.fb = s.fb ∧ (s.sideStep st).2.devices = s.devices := by
  unfold sideStep
  repeat' split
  all_goals dsimp only
  repeat' split
  all_goals exact ⟨rfl, rfl⟩

theorem step_invariant (hs : s.Invariant) (st : FrameStep) :
    (FrameStep.keepsSectionsWhole (.ok st) = true → (s.step st).2.Invariant) ∧
      ((s.step st).2.fb.format = s.fb.format ∧ (s.step st).2.fb.dimension = s.fb.dimension ∨
        (∃ req, st = .init req) ∧ (s.step st).1.outcome = .ok .unit) := by
  -- every step but a configuration keeps the invariant whatever it is
  suffices h : (∀ settings, st ≠ .configure settings) → (s.step st).2.Invariant ∧
      ((s.step st).2.fb.format = s.fb.format ∧ (s.step st).2.fb.dimension = s.fb.dimension ∨
        (∃ req, st = .init req) ∧ (s.step st).1.outcome = .ok .unit) by
    cases st with
    | configure settings =>
      simp only [step]
      split
      · refine ⟨fun hst => ?_, .inl ⟨rfl, rfl⟩⟩
        -- device settings touch no native resource, and none of these shortens a section
        simp only [FrameStep.keepsSectionsWhole, Bool.not_eq_eq_eq_not, Bool.not_true] at hst
        exact ⟨hs.sound, Devices.holds_configureAll _ _ hs.holds,
          Devices.shortSection_configureAll _ _ hst hs.whole, hs.synced⟩
      · exact ⟨fun _ => hs, .inl ⟨rfl, rfl⟩⟩
    | _ =>
      obtain ⟨hinv, hlayout⟩ := h fun _ h => nomatch h
      exact ⟨fun _ => hinv, hlayout⟩
  intro hst
  cases st with
  | init req =>
    simp only [step]
    split
    · exact ⟨hs, .inl ⟨rfl, rfl⟩⟩
    · exact onFrame_invariant _ (s.fb.setup_spec _ _ _ _ 0 ⟨req, rfl⟩ hs.sound hs.synced hs.whole)
        (fun _ _ h => h) (fun _ _ h => h.elim) hs
  | switch mode =>
    exact onFrame_invariant _ (s.fb.switchMode_spec mode _ 0 hs.sound hs.synced hs.whole)
      (fun _ _ h => h) (fun _ _ h => h.elim) hs
  | draw call =>
    exact onFrame_invariant _ (s.fb.draw_spec call _ 0)
      (fun _ _ h => h.settled hs.sound hs.synced) (fun _ _ h => h) hs
  | setTargetSurface surface =>
    refine onFrame_invariant _ (Q := fun r d => s.fb.Settled _ (Stock.idle s.devices) 0 r d)
      (E := fun _ _ => False) ?_ (fun _ _ h => h) (fun _ _ h => h.elim) hs
    have hset := s.fb.setTargetSurface_spec surface (Stock.idle s.devices) 0
    mvcgen [-FrameBuffer.setTargetSurface_spec, hset]
    rename_i htally
    exact FrameBuffer.settled_self hs.sound hs.synced htally
  | testPattern =>
    refine onFrame_invariant _ (Q := fun r d => s.fb.Redrawn (Stock.idle s.devices) 0 r.1 d)
      (E := fun _ d => d.Tally ((Stock.idle s.devices).keep s.fb.coordinator.backend) 0) ?_
      (fun _ _ h => h.settled hs.sound hs.synced) (fun _ _ h => h) hs
    have hdraw := s.fb.drawTestPattern_spec (Stock.idle s.devices) 0 hs.sound hs.synced
    mvcgen [-FrameBuffer.drawTestPattern_spec, hdraw]
  | refuse op =>
    refine onFrame_invariant _ (Q := fun r d => s.fb.Settled _ (Stock.idle s.devices) 0 r d)
      (E := fun _ _ => False) ?_ (fun _ _ h => h) (fun _ _ h => h.elim) hs
    have hrefuse := FrameBuffer.refuse_spec op ((Stock.idle s.devices).keep s.fb.coordinator.backend) 0
    mvcgen [-FrameBuffer.refuse_spec, hrefuse]
    rename_i htally
    exact FrameBuffer.settled_self hs.sound hs.synced htally.2
  | configure settings => exact absurd rfl (hst settings)
  | pixels st =>
    simp only [step]
    split
    · obtain ⟨hinv, hformat, hdim⟩ := frameStep_invariant hs st
      exact ⟨hinv, .inl ⟨hformat, hdim⟩⟩
    · obtain ⟨hfb, hd⟩ := s.sideStep_keeps st
      exact ⟨hs.of_eq hfb hd, .inl ⟨congrArg FrameBuffer.format hfb, congrArg FrameBuffer.dimension hfb⟩⟩

theorem request_invariant (hs : s.Invariant) (st : Except Misuse FrameStep) :
    (FrameStep.keepsSectionsWhole st = true → (s.request st).2.Invariant) ∧
      ((s.request st).2.fb.format = s.fb.format ∧ (s.request st).2.fb.dimension = s.fb.dimension ∨
        (∃ req, st = .ok (.init req)) ∧ (s.request st).1.outcome = .ok .unit) := by
  cases st with
  | error m => exact ⟨fun _ => hs, .inl ⟨rfl, rfl⟩⟩
  | ok st =>
    obtain ⟨hinv, hlayout⟩ := step_invariant hs st
    refine ⟨hinv, hlayout.imp_right ?_⟩
    rintro ⟨⟨req, rfl⟩, hok⟩
    exact ⟨⟨req, rfl⟩, hok⟩

theorem setup_invariant (hs : s.Invariant) (format : PixelFormat) (dim : Dimension)
    (surface : Option SurfaceHandle) : (s.onFrame (s.fb.setup format dim surface)).2.Invariant :=
  (onFrame_invariant True (s.fb.setup_spec _ _ _ _ 0 trivial hs.sound hs.synced hs.whole)
    (fun _ _ h => h) (fun _ _ h => h.elim) hs).1

/-- The sessions that steps keeping sections whole lead to from the start, where the frame buffer
may also be initialised with a configuration of any size, past the session's allocation limit. -/
inductive Reachable (p : Platform) (preferred : RenderMode) (env : Environment) :
    FrameSession → Prop
  | start : Reachable p preferred env (start p preferred env)
  | step {s : FrameSession} (st : Except Misuse FrameStep) :
      FrameStep.keepsSectionsWhole st = true → Reachable p preferred env s →
        Reachable p preferred env (s.request st).2
  | setup {s : FrameSession} (format : PixelFormat) (dim : Dimension) (surface : Option SurfaceHandle) :
      Reachable p preferred env s → Reachable p preferred env (s.onFrame (s.fb.setup format dim surface)).2

theorem Reachable.invariant {p : Platform} {preferred : RenderMode} {env : Environment}
    (h : Reachable p preferred env s) : s.Invariant := by
  induction h with
  | start => exact start_invariant p preferred env
  | step st hst _ ih => exact (request_invariant ih st).1 hst
  | setup format dim surface _ ih => exact setup_invariant ih format dim surface

theorem reachable_of_mem_run {p : Platform} {preferred : RenderMode} {env : Environment}
    {steps : List (Except Misuse FrameStep)}
    (hsteps : ∀ st ∈ steps, FrameStep.keepsSectionsWhole st = true)
    {r : BufferAnswer × FrameSession} (hr : r ∈ (start p preferred env).run steps) :
    Reachable p preferred env r.2 :=
  Session.mem_run_of_step request (·.outcome.isHalt) (Reachable p preferred env)
    (fun st => FrameStep.keepsSectionsWhole st = true) (fun _ st hst h => h.step st hst)
    (start p preferred env) steps hsteps .start r hr

theorem step_refuse (s : FrameSession) (op : FrameBuffer.Replacement) :
    s.step (.refuse op) = (⟨.error (.unsupportedOperation op.name), none⟩,
      { s with devices := { s.devices with log := s.devices.log.push (⟨.debug, .frameBuffer,
        "refused buffer-replacing operation on a managed frame buffer",
        [⟨"operation", .str op.name⟩]⟩) } }) :=
  rfl

/-! ## The frame buffer follows the live backend -/

/-- **In every reachable frame session the buffer follows the live backend**, and only an
initialisation that succeeded changes its format or size. -/
theorem buffer_follows_live_backend {p : Platform} {preferred : RenderMode} {env : Environment}
    {s : FrameSession} (h : Reachable p preferred env s) :
    s.fb.binding = s.fb.coordinator.backend.map Backend.memoryId ∧
    (∀ b, s.fb.coordinator.backend = some b → s.fb.bufferSize = b.memoryLen ∧
      ∃ cfg, s.fb.coordinator.config = some cfg ∧ s.fb.format = cfg.format ∧
        s.fb.dimension = cfg.dimension) ∧
    (∀ st, (s.request st).2.fb.format = s.fb.format ∧
        (s.request st).2.fb.dimension = s.fb.dimension ∨
      (∃ req, st = .ok (.init req)) ∧ (s.request st).1.outcome = .ok .unit) ∧
    (∀ op, (s.request (.ok (.refuse op))).1.outcome = .error (.unsupportedOperation op.name) ∧
      ∃ e, (s.request (.ok (.refuse op))).2 =
        { s with devices := { s.devices with log := s.devices.log.push e } }) := by
  have hs := h.invariant
  refine ⟨hs.synced.binding, fun b hb => ⟨FrameBuffer.bufferSize_eq hs.sound hs.synced.laid hb,
    hs.synced.laid b hb⟩, fun st => (request_invariant hs st).2, fun op => ?_⟩
  rw [request, step_refuse]
  exact ⟨rfl, _, rfl⟩

/-- After a first initialisation the buffer is bound to the memory handed out first. -/
theorem buffer_bound_after_init :
    Reachable .devices .raster {}
        (request (start .devices .raster {}) (.ok (.init ⟨.bgra32, ⟨2, 2⟩, .ok none⟩))).2 ∧
      (request (start .devices .raster {})
        (.ok (.init ⟨.bgra32, ⟨2, 2⟩, .ok none⟩))).2.fb.binding = some 0 := by
  have hr : Reachable .devices .raster {}
      (request (start .devices .raster {}) (.ok (.init ⟨.bgra32, ⟨2, 2⟩, .ok none⟩))).2 :=
    .step _ rfl .start
  refine ⟨hr, ?_⟩
  rw [(buffer_follows_live_backend hr).1]
  decide +kernel

end FrameSession

end Presenter
