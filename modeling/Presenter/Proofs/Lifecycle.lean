import Mathlib
import Presenter.Coordinator
import Presenter.Proofs.Ledger
/-!
# Lifecycle — what each coordinator call does to the live backend

A coordinator call ends in one of a few ways, and each says how the coordinator afterwards
stands to the one before and what the devices hold for it:

* `c` itself, holding what it held;
* `Rebuilt`: a backend built anew for the stored configuration, on the surface the coordinator
  found for it, with the coordinator in that backend's mode;
* `Dropped`: no backend, the raster mode, and nothing held;
* a drawing call keeps the backend, up to its pixels and what it has presented.

Each call has one specification in these terms, a Hoare triple over `Act` whose resources are
counted against a stock `k` (`Devices.Tally`). What whole sessions keep is derived from these
triples afterwards, never from the code.
-/

namespace Presenter

open Std.Do

set_option mvcgen.warning false

namespace Coordinator

/-- `c'` is `c` with a backend built anew for `c`'s configuration, on the surface `s` the
coordinator found for it, in the backend's own mode; the devices hold that backend's resources. -/
def Rebuilt (c : Coordinator) (k : Stock) (n : Nat) (c' : Coordinator) (d : Devices) : Prop :=
  ∃ cfg s b, c.config = some cfg ∧
    c' = { c with config := some { cfg with surface := some s }, mode := b.mode, backend := some b } ∧
    b.surface = s ∧ b.Built { cfg with surface := some s } k n ∧ d.Tally (k.hold b) n

/-- `c'` is `c` without a backend and in the raster mode, its configuration's surface perhaps
replaced; the devices hold nothing for it. -/
def Dropped (c : Coordinator) (k : Stock) (n : Nat) (c' : Coordinator) (d : Devices) : Prop :=
  ∃ cfg s, c.config = some cfg ∧
    c' = { c with config := some { cfg with surface := s }, mode := .raster, backend := none } ∧
    d.Tally k n

/-- What trying the modes `modes` in order from `c` may end in: `c` with a backend of one of them
built for `config`, in that backend's mode; or `c` itself, holding nothing more, with an error
that is not for want of a capability. -/
def Tried (c : Coordinator) (config : BackendConfig) (modes : List RenderMode) (k : Stock) (n : Nat)
    (r : Coordinator × Except Error Unit) (d : Devices) : Prop :=
  match r.2 with
  | .ok () => ∃ b, r.1 = { c with mode := b.mode, backend := some b } ∧ b.mode ∈ modes ∧
      b.Built config k n ∧ d.Tally (k.hold b) n
  | .error e => r.1 = c ∧ e.classify ≠ .unsupported ∧ d.Tally k n

@[simp] theorem tried_ok {c c' : Coordinator} {config : BackendConfig} {modes : List RenderMode}
    {k : Stock} {n : Nat} {d : Devices} :
    c.Tried config modes k n (c', .ok ()) d ↔ ∃ b, c' = { c with mode := b.mode, backend := some b } ∧
      b.mode ∈ modes ∧ b.Built config k n ∧ d.Tally (k.hold b) n := Iff.rfl

@[simp] theorem tried_error {c c' : Coordinator} {config : BackendConfig} {modes : List RenderMode}
    {k : Stock} {n : Nat} {e : Error} {d : Devices} :
    c.Tried config modes k n (c', .error e) d ↔ c' = c ∧ e.classify ≠ .unsupported ∧ d.Tally k n :=
  Iff.rfl

theorem Tried.cons {c : Coordinator} {config : BackendConfig} {modes : List RenderMode} {k : Stock}
    {n : Nat} (m : RenderMode) {r : Coordinator × Except Error Unit} {d : Devices}
    (h : c.Tried config modes k n r d) : c.Tried config (m :: modes) k n r d := by
  unfold Tried at *
  split at h
  · obtain ⟨b, hc, hm, hb⟩ := h
    exact ⟨b, hc, List.mem_cons_of_mem m hm, hb⟩
  · exact h

@[spec] theorem destroyBackend_spec (c : Coordinator) (k : Stock) (n : Nat) :
    ⦃fun d => ⌜d.Tally (k.keep c.backend) n⌝⦄ c.destroyBackend
    ⦃⇓ c' d => ⌜d.Tally k n ∧ c' = { c with backend := none }⌝⦄ := by
  rcases c with ⟨p, cfg, m, _ | b⟩
  · mvcgen [destroyBackend]
  · have hrelease := b.release_spec k n
    mvcgen [destroyBackend, -Backend.release_spec, hrelease, Act.debug, Act.emit]

theorem tryModes_spec (c : Coordinator) (config : BackendConfig) (surface : SurfaceHandle)
    (k : Stock) (n : Nat) (modes : List RenderMode) (errs : List (RenderMode × Error)) :
    ⦃fun d => ⌜d.Tally k n⌝⦄ c.tryModes config surface modes errs
    ⦃⇓ r d => ⌜c.Tried config modes k n r d⌝⦄ := by
  induction modes generalizing errs with
  | nil =>
    mvcgen [tryModes]
    simp_all [Tried, Error.classify]
  | cons m rest ih =>
    have hcreate := c.platform.createBackend_spec k n m config
    mvcgen [tryModes, -Platform.createBackend_spec, hcreate, ih, Act.attempt, Act.warn, Act.info,
      Act.emit]
    all_goals simp_all +zetaDelta [Devices.Tally]
    -- what is left: the rest of the modes, tried after this one failed
    exact Tried.cons m

/-- What building a backend from `c`, which holds none, may end in: rebuilt in one of the modes
tried for `c`'s mode, or dropped with an error that is not for want of a capability. -/
def Created (c : Coordinator) (k : Stock) (n : Nat) (r : Coordinator × Except Error Unit)
    (d : Devices) : Prop :=
  match r.2 with
  | .ok () => r.1.mode ∈ attempts c.mode ∧ c.Rebuilt k n r.1 d
  | .error e => e.classify ≠ .unsupported ∧ c.Dropped k n r.1 d

@[spec] theorem createBackend_spec (c : Coordinator) (k : Stock) (n : Nat) :
    ⦃fun d => ⌜c.backend = none ∧ c.config.isSome ∧ d.Tally k n⌝⦄ c.createBackend
    ⦃⇓ r d => ⌜c.Created k n r d⌝⦄ := by
  obtain ⟨p, _ | ⟨format, dim, surface⟩, m, b⟩ := c
  · mvcgen [createBackend, tryCreateBackend]
    all_goals simp_all
  · have hresolve := p.resolve_spec k n surface
    have htry := fun c config surface => tryModes_spec c config surface k n
    mvcgen [createBackend, tryCreateBackend, -Platform.resolve_spec, hresolve, htry, Act.attempt]
    all_goals simp_all +zetaDelta [Created, Tried, Rebuilt, Dropped]
    -- a backend came of the modes: it is on the surface the coordinator resolved
    obtain ⟨b', hr, hmode, hbuilt, htally⟩ := ‹∃ b, _›
    have hsurface := hbuilt.1.eq_of_some ‹Devices.Tally _ _ _ ∧ Resolves _ _ _›.2
    subst hsurface
    exact ⟨by simp [hr, hmode], b', hr, hbuilt, htally⟩

private theorem forall_ne_error_iff {x : Except Error Unit} : (∀ e, ¬x = .error e) ↔ x = .ok () := by
  cases x <;> simp

/-- What initialising `c` for `config` may end in: refused before anything is touched when the
configuration is not valid; otherwise the old backend released and, from the coordinator holding
none, storing `config` and in some mode, a backend rebuilt or dropped. -/
def Setup (c : Coordinator) (config : BackendConfig) (k : Stock) (n : Nat)
    (r : Coordinator × Except Error Unit) (d : Devices) : Prop :=
  (∃ e, config.validate = .error e ∧ r = (c, .error e) ∧ d.Tally (k.keep c.backend) n) ∨
    (config.validate = .ok () ∧
      ∃ m, Created { c with config := some config, mode := m, backend := none } k n r d)

@[spec] theorem setup_spec (c : Coordinator) (format : PixelFormat) (dim : Dimension)
    (surface : Option SurfaceHandle) (requested : RenderMode) (k : Stock) (n : Nat) :
    ⦃fun d => ⌜d.Tally (k.keep c.backend) n⌝⦄ c.setup format dim surface requested
    ⦃⇓ r d => ⌜c.Setup (BackendConfig.new format dim surface) k n r d⌝⦄ := by
  have haccel := c.platform.acceleratedAvailable_spec (k.keep c.backend) n
  have hdestroy := c.destroyBackend_spec k n
  have hcreate := fun c => createBackend_spec c k n
  mvcgen [setup, -Platform.acceleratedAvailable_spec, haccel, -destroyBackend_spec, hdestroy,
    -createBackend_spec, hcreate, Act.info, Act.emit]
  all_goals simp_all +zetaDelta [Setup, Devices.Tally, forall_ne_error_iff]
  -- what is left: the build, in whichever mode the request became
  all_goals exact fun h => ⟨_, h⟩

/-- `c'` is `c` itself, and the devices hold what `c` held. -/
def Kept (c : Coordinator) (k : Stock) (n : Nat) (c' : Coordinator) (d : Devices) : Prop :=
  c' = c ∧ d.Tally (k.keep c.backend) n

/-- What switching `c` to the mode `req` may end in. A success leaves `req`, with the backend kept
or rebuilt. An error for want of a capability, which from a coordinator with a configuration and
a backend is an unavailable backend, keeps `c` or leaves a raster backend rebuilt after the
requested one failed; any other error drops the backend. -/
def Switched (c : Coordinator) (req : RenderMode) (k : Stock) (n : Nat)
    (r : Coordinator × Except Error Unit) (d : Devices) : Prop :=
  match r.2 with
  | .ok () => r.1.mode = req ∧ (c.Kept k n r.1 d ∨ c.Rebuilt k n r.1 d)
  | .error e =>
    if e.classify = .unsupported then
      (c.config.isSome → c.backend.isSome → ∃ m, e = .backendUnavailable m) ∧
        (c.Kept k n r.1 d ∨ (r.1.mode = .raster ∧ c.Rebuilt k n r.1 d))
    else c.Dropped k n r.1 d

section Switching

variable {c : Coordinator} {req : RenderMode} {k : Stock} {n : Nat} {d : Devices}

theorem switched_of_refused {e : Error} (he : e.classify = .unsupported)
    (hu : c.config.isSome → c.backend.isSome → ∃ m, e = .backendUnavailable m)
    (h : d.Tally (k.keep c.backend) n) : c.Switched req k n (c, .error e) d := by
  simp only [Switched, he, if_true]
  exact ⟨hu, .inl ⟨rfl, h⟩⟩

theorem switched_of_unchanged (h : d.Tally (k.keep c.backend) n) (hreq : req = c.mode) :
    c.Switched req k n (c, .ok ()) d :=
  ⟨hreq.symm, .inl ⟨rfl, h⟩⟩

-- After the old backend is released, the coordinator builds anew in the requested mode; the three
-- lemmas below are the three ways that ends.
theorem switched_of_created_error {r : Coordinator × Except Error Unit} {e : Error}
    (h : { c with mode := req, backend := none }.Created k n r d) (he : r.2 = .error e) :
    c.Switched req k n (r.1, .error e) d := by
  simp only [Created, he] at h
  simp only [Switched, if_neg h.1]
  exact h.2

theorem switched_of_created_other {r : Coordinator × Except Error Unit} {msg : String}
    (h : { c with mode := req, backend := none }.Created k n r d) (hr : r.2 = .ok ())
    (hm : r.1.mode ≠ req) : c.Switched req k n (r.1, .error (.backendUnavailable msg)) d := by
  simp only [Created, hr] at h
  obtain ⟨hmode, hrebuilt⟩ := h
  -- the only other mode tried is the raster one, after a compositor request
  have hraster : r.1.mode = .raster := by
    cases req <;> cases h : r.1.mode <;> simp_all [attempts]
  simp only [Switched, Error.classify, if_true]
  exact ⟨fun _ _ => ⟨msg, rfl⟩, .inr ⟨hraster, hrebuilt⟩⟩

theorem switched_of_created_ok {r : Coordinator × Except Error Unit}
    (h : { c with mode := req, backend := none }.Created k n r d) (hr : r.2 = .ok ())
    (hm : r.1.mode = req) (l : Array Log.Event) :
    c.Switched req k n (r.1, .ok ()) { d with log := l } := by
  simp only [Created, hr] at h
  obtain ⟨cfg, s, b, hcfg, hc, hs, hbuilt, htally⟩ := h.2
  exact ⟨hm, .inr ⟨cfg, s, b, hcfg, hc, hs, hbuilt, htally⟩⟩

end Switching

@[spec] theorem switchMode_spec (c : Coordinator) (req : RenderMode) (k : Stock) (n : Nat) :
    ⦃fun d => ⌜d.Tally (k.keep c.backend) n⌝⦄ c.switchMode req
    ⦃⇓ r d => ⌜c.Switched req k n r d⌝⦄ := by
  have haccel := c.platform.acceleratedAvailable_spec (k.keep c.backend) n
  have hcheck := c.platform.checkCreatable_spec (k.keep c.backend) n
  have hdestroy := fun c => destroyBackend_spec c k n
  have hcreate := fun c => createBackend_spec c k n
  obtain ⟨p, config, m, backend⟩ := c
  mvcgen [switchMode, -Platform.acceleratedAvailable_spec, haccel, -Platform.checkCreatable_spec,
    hcheck, -destroyBackend_spec, hdestroy, -createBackend_spec, hcreate, Act.attempt, Act.debug,
    Act.info, Act.warn, Act.emit]
  -- refused before anything is touched: no backend, or no configuration
  case vc1 hnone _ htally =>
    exact switched_of_refused rfl (fun _ h => by simp_all) htally
  case vc18 hnone _ _ htally =>
    exact switched_of_refused rfl (fun h _ => (hnone _ (Option.some_get h).symm).elim) htally
  case vc2 hreq _ htally _ => exact switched_of_unchanged (htally.log _) hreq
  -- a compositor request refused by the platform keeps the backend
  case vc4 _ _ htally _ => exact switched_of_refused rfl (fun _ _ => ⟨_, rfl⟩) (htally.log _)
  case vc11 _ _ htally _ => exact switched_of_refused rfl (fun _ _ => ⟨_, rfl⟩) (htally.1.log _)
  case vc12 _ _ hhalt =>
    obtain ⟨-, _, h⟩ := hhalt
    cases h
  -- released and built anew, after a compositor request was checked or for a raster one
  case vc7 hdestroyed | vc14 hdestroyed =>
    rw [hdestroyed.2]
    exact ⟨rfl, rfl, hdestroyed.1⟩
  case vc8 hdestroyed _ _ he _ hcreated | vc15 hdestroyed _ _ he _ hcreated =>
    rw [hdestroyed.2] at hcreated
    exact switched_of_created_error hcreated he
  case vc9 hdestroyed _ _ hres heq hm _ hcreated | vc16 hdestroyed _ _ hres heq hm _ hcreated =>
    rw [hdestroyed.2] at hcreated
    exact switched_of_created_other hcreated (heq.trans (forall_ne_error_iff.1 hres)) hm
  case vc10 hdestroyed _ _ hres heq hm _ hcreated _ | vc17 hdestroyed _ _ hres heq hm _ hcreated _ =>
    rw [hdestroyed.2] at hcreated
    exact switched_of_created_ok (c := ⟨p, _, m, backend⟩) hcreated
      (heq.trans (forall_ne_error_iff.1 hres)) (not_not.1 hm) _

/-- What a drawing call on `c` may end in: `c` itself, or `c` with its backend drawn on, alike to
the one before; either way the devices hold what `c` held. -/
def Drawn (c : Coordinator) (k : Stock) (n : Nat) (c' : Coordinator) (d : Devices) : Prop :=
  d.Tally (k.keep c.backend) n ∧
    (c' = c ∨ ∃ b b', c.backend = some b ∧ c' = { c with backend := some b' } ∧ b.Alike b')

@[spec] theorem draw_spec (c : Coordinator) (call : DrawCall) (k : Stock) (n : Nat) :
    ⦃fun d => ⌜d.Tally (k.keep c.backend) n⌝⦄ c.draw call
    ⦃post⟨fun r d => ⌜c.Drawn k n r.1 d⌝, fun _ d => ⌜d.Tally (k.keep c.backend) n⌝⟩⦄ := by
  rcases c with ⟨p, cfg, m, _ | b⟩
  · mvcgen [draw, onBackend]
    all_goals simp_all [Drawn]
  · have hdraw := b.draw_spec call k n
    mvcgen [draw, onBackend, -Backend.draw_spec, hdraw, Act.attempt]
    all_goals simp_all [Drawn, Stock.keep]

end Coordinator

end Presenter
