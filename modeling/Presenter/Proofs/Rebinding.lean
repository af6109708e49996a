import Mathlib
import Presenter.Proofs.Fallback
/-!
# Rebinding — what the frame buffer is bound to after initialising or switching

The buffer is current when it is unbound or bound to the live backend's memory. Initialising
leaves it current or changes nothing; a switch leaves it current unless binding is refused, and
the buffer then stays bound where it was, to released memory after a rebuild
(`binding_current_or_kept_on_overflow`, `short_raster_switch_keeps_stale_binding`). Neither call
stops the program; the coordinator calls beneath them always answer (`Act.Answers`).
-/

namespace Presenter

open Std.Do

set_option mvcgen.warning false

/-! ## Calls that always answer -/

/-- From any devices the call returns a result; it neither refuses nor stops the program. -/
def Act.Answers {α : Type} (x : Act α) : Prop :=
  ⦃fun _ => ⌜True⌝⦄ x ⦃⇓ _ _ => ⌜True⌝⦄

theorem Act.Answers.run {α : Type} {x : Act α} (hx : x.Answers) (d : Devices) :
    ∃ a d', runAct x d = (.ok a, d') := by
  obtain ⟨a, d', hrun, -⟩ := Act.runAct_of_noThrow hx (d := d) trivial
  exact ⟨a, d', hrun⟩

theorem Act.noThrow_of_run {α : Type} {x : Act α} {Q : α → Devices → Prop}
    (h : ∀ d, ∃ a d', runAct x d = (.ok a, d') ∧ Q a d') :
    ⦃fun _ => ⌜True⌝⦄ x ⦃⇓ a d => ⌜Q a d⌝⦄ := by
  intro d _
  obtain ⟨a, d', hrun, hq⟩ := h d
  unfold runAct at hrun
  simp only [wp, PredTrans.apply]
  split <;> simp_all

theorem Act.answers_of_run {α : Type} {x : Act α} (h : ∀ d, ∃ a d', runAct x d = (.ok a, d')) :
    x.Answers :=
  Act.noThrow_of_run fun d => (h d).elim fun a ⟨d', hrun⟩ => ⟨a, d', hrun, trivial⟩

namespace Coordinator

theorem destroyBackend_answers (c : Coordinator) : c.destroyBackend.Answers :=
  Act.answers_of_run fun d => (c.destroyBackend_run d).elim fun d' h => ⟨_, d', h⟩

theorem createBackend_answers (c : Coordinator) : c.createBackend.Answers := by
  refine Act.answers_of_run fun d => ?_
  rcases hcfg : c.config with _ | cfg
  · -- without a configuration nothing is tried
    exact ⟨({ c with mode := .raster }, .error .notInitialized), d, by simp [createBackend, tryCreateBackend, hcfg]⟩
  · obtain ⟨r, d', hrun, -⟩ := c.createBackend_builds hcfg d
    exact ⟨r, d', hrun⟩

theorem switchMode_answers (c : Coordinator) (req : RenderMode) : (c.switchMode req).Answers := by
  have hprobe := c.platform.acceleratedAvailable_answers
  have hcheck := fun cfg => c.platform.checkCreatable_refusing req cfg
  have hdestroy := fun c' : Coordinator => c'.destroyBackend_answers
  have hcreate := fun c' : Coordinator => c'.createBackend_answers
  unfold Act.Refusing at hcheck
  unfold Act.Answers at hdestroy hcreate ⊢
  mvcgen [switchMode, -switchMode_spec, -Platform.acceleratedAvailable_spec,
    -Platform.checkCreatable_spec, -destroyBackend_spec, -createBackend_spec, hprobe, hcheck,
    hdestroy, hcreate, Act.attempt, Act.warn, Act.debug, Act.info, Act.emit]
  -- the compositor check only refuses: a stop out of it cannot happen
  rename_i hrefused
  obtain ⟨_, hne⟩ := hrefused
  cases hne

theorem setup_answers (c : Coordinator) (format : PixelFormat) (dim : Dimension)
    (surface : Option SurfaceHandle) (req : RenderMode) (d : Devices) :
    ∃ r d', runAct (c.setup format dim surface req) d = (.ok r, d') ∧
      (r.2 = .ok () ∨ r.1 = c ∨ r.1.backend = none) := by
  rcases hvalid : (BackendConfig.new format dim surface).validate with e | ⟨⟩
  · exact ⟨_, _, c.setup_of_invalid format dim surface req d hvalid, .inr (.inl rfl)⟩
  · obtain ⟨-, -, -, r, d', -, -, -, -, -, hrun, -, -, herr⟩ :=
      c.setup_falls_back format dim surface req d hvalid
    refine ⟨r, d', hrun, ?_⟩
    rcases hr : r.2 with e | ⟨⟩
    · exact .inr (.inr (herr e hr).1)
    · exact .inl rfl

end Coordinator

/-! ## Binding again -/

namespace FrameBuffer

/-- The buffer is unbound, or bound to the memory of the coordinator's live backend. -/
def Current (fb : FrameBuffer) : Prop :=
  fb.binding = none ∨ fb.binding = fb.coordinator.backend.map Backend.memoryId

instance : DecidablePred Current := fun _ => inferInstanceAs (Decidable (_ ∨ _))

theorem rebind_current (fb : FrameBuffer) :
    fb.rebind.1.Current ∨ fb.rebind = (fb, .error .bufferOverflow) ∧
      ∃ b, fb.coordinator.backend = some b ∧ b.memoryLen < fb.bufferSize := by
  unfold rebind
  split
  · rename_i b hb
    split
    · exact .inr ⟨rfl, b, hb, ‹_›⟩
    · exact .inl (.inr (by simp [hb]))
  · exact .inl (.inl rfl)

theorem rebind_current_of_unbound {fb : FrameBuffer} (h : fb.binding = none) : fb.rebind.1.Current := by
  rcases fb.rebind_current with hcur | ⟨heq, -⟩
  · exact hcur
  · rw [heq]
    exact .inl h

theorem setup_current (fb : FrameBuffer) (format : PixelFormat) (dim : Dimension)
    (surface : Option SurfaceHandle) (d : Devices) :
    ∃ r d', runAct (fb.setup format dim surface) d = (.ok r, d') ∧
      (r.1.Current ∨ r = (fb, .error .bufferOverflow)) := by
  obtain ⟨⟨c, result⟩, d', hrun, hc⟩ :=
    fb.coordinator.setup_answers format dim surface (d.env.modeOverride.getD fb.preferred) d
  simp only [setup, runAct_bind, runAct_get, hrun]
  rcases result with e | ⟨⟩
  · rcases (fb.follow c).rebind_current with hcur | ⟨heq, b, hb, -⟩
    · split <;> exact ⟨_, _, rfl, .inl hcur⟩
    -- a refused binding needs a live backend, so the failed setup kept the coordinator
    obtain rfl : c = fb.coordinator := by
      rcases hc with hc | hc | hnone
      · cases hc
      · exact hc
      · cases hb.symm.trans hnone
    rw [follow_self] at heq ⊢
    split <;> rename_i hbound <;> rw [heq] at hbound <;> cases hbound
    exact ⟨_, _, rfl, .inr (by rw [heq])⟩
  · -- a successful setup unbinds the buffer before binding it again
    split <;> exact ⟨_, _, rfl, .inl (rebind_current_of_unbound rfl)⟩

theorem switchMode_current (fb : FrameBuffer) (mode : RenderMode) (d : Devices) :
    ∃ r d', runAct (fb.switchMode mode) d = (.ok r, d') ∧
      (r.1.Current ∨ r.2 = .error .bufferOverflow ∧ r.1.binding = fb.binding ∧
        ∃ b, r.1.coordinator.backend = some b ∧ b.memoryLen < r.1.bufferSize) := by
  obtain ⟨⟨c, result⟩, d', hrun⟩ := (fb.coordinator.switchMode_answers mode).run d
  simp only [switchMode, runAct_bind, hrun]
  rcases (fb.follow c).rebind_current with hcur | ⟨heq, b, hb, hshort⟩
  · split <;> exact ⟨_, _, rfl, .inl hcur⟩
  split <;> rename_i hbound <;> rw [heq] at hbound <;> cases hbound
  exact ⟨_, _, rfl, .inr ⟨rfl, by rw [heq]; rfl, b, by rw [heq]; exact hb, by rw [heq]; exact hshort⟩⟩

/-- **Initialising and switching leave the buffer current, except a switch whose binding is
refused**, and neither stops the program. -/
theorem binding_current_or_kept_on_overflow (fb : FrameBuffer) (d : Devices) :
    (∀ format dim surface, ∃ r d', runAct (fb.setup format dim surface) d = (.ok r, d') ∧
      (r.1.Current ∨ r = (fb, .error .bufferOverflow))) ∧
    (∀ mode, ∃ r d', runAct (fb.switchMode mode) d = (.ok r, d') ∧
      (r.1.Current ∨ r.2 = .error .bufferOverflow ∧ r.1.binding = fb.binding ∧
        ∃ b, r.1.coordinator.backend = some b ∧ b.memoryLen < r.1.bufferSize)) :=
  ⟨fun format dim surface => fb.setup_current format dim surface d, fun mode => fb.switchMode_current mode d⟩

end FrameBuffer

/-- **A switch onto a short section keeps the binding to released memory**, which the buffer still
reads. -/
theorem FrameSession.short_raster_switch_keeps_stale_binding :
    let s₁ := ((FrameSession.start .devices .compositor {}).request
      (.ok (.init ⟨.bgra32, ⟨2, 2⟩, .ok none⟩))).2
    let s₂ := (s₁.request (.ok (.configure [.ok (.fault .shortSection true)]))).2
    let s₃ := (s₂.request (.ok (.switch .raster))).2
    s₁.fb.Current ∧ s₁.fb.binding = some 0 ∧
      (runAct (s₂.fb.switchMode .raster) s₂.devices).1.map Prod.snd = .ok (.error .bufferOverflow) ∧
      s₃.fb.binding = some 0 ∧ s₃.fb.coordinator.backend.map Backend.memoryId = some 1 ∧
      ¬ s₃.fb.Current ∧ s₃.devices.compositor.liveTargets = 0 ∧ s₃.fb.bytes = s₁.fb.bytes := by
  decide +kernel

end Presenter
