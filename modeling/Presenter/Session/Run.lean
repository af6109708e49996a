import Presenter.Session.Outcome
/-!
# Running a session — steps in order until one stops the program

A session answers its steps one after the other, and every answer comes with the session as
that step left it, so that the state after each step can be shown. A step that stops the
program is answered, and no later step runs. `Session.run` is this loop for any kind of
session; `Session.last` is the session after the last step that ran.

The two laws say how many answers a run gives: never more than there are steps, and exactly as
many when no answer stops.
-/

namespace Presenter

namespace Session

def run {σ α β : Type} (step : σ → α → β × σ) (stops : β → Bool) : σ → List α → List (β × σ)
  | _, [] => []
  | s, a :: rest =>
    let r := step s a
    r :: if stops r.1 then [] else run step stops r.2 rest

def shown {σ β : Type} (stuck : σ → Option Halt) (trace : List (β × σ)) :
    Except Halt (List (β × σ)) :=
  match trace.findSome? fun r => stuck r.2 with
  | some h => .error h
  | none => .ok trace

def last {σ β : Type} (s : σ) (trace : List (β × σ)) : σ :=
  (trace.getLast?.map (·.2)).getD s

@[simp] theorem run_nil {σ α β : Type} (step : σ → α → β × σ) (stops : β → Bool) (s : σ) :
    run step stops s [] = [] := rfl

theorem head_mem_run {σ α β : Type} (step : σ → α → β × σ) (stops : β → Bool) (s : σ) (a : α)
    (rest : List α) : step s a ∈ run step stops s (a :: rest) :=
  List.mem_cons_self

/-- **A run answers at most every step.** -/
theorem length_run_le {σ α β : Type} (step : σ → α → β × σ) (stops : β → Bool) :
    ∀ (s : σ) (steps : List α), (run step stops s steps).length ≤ steps.length
  | _, [] => Nat.le_refl 0
  | s, a :: rest => by
    simp only [run, List.length_cons]
    split
    · simp
    · exact Nat.succ_le_succ (length_run_le step stops _ rest)

/-- **Without a stop, a run answers every step.** -/
theorem length_run_of_never_stops {σ α β : Type} (step : σ → α → β × σ) (stops : β → Bool)
    (never : ∀ b, stops b = false) :
    ∀ (s : σ) (steps : List α), (run step stops s steps).length = steps.length
  | _, [] => rfl
  | s, a :: rest => by
    simp only [run, never, List.length_cons]
    simp [length_run_of_never_stops step stops never _ rest]

/-- **What every step keeps, every session of a run has**, from a session that has it. Only the
steps of the run need keep it: those `ok` allows. -/
theorem mem_run_of_step {σ α β : Type} (step : σ → α → β × σ) (stops : β → Bool) (P : σ → Prop)
    (ok : α → Prop) (hstep : ∀ s a, ok a → P s → P (step s a).2) :
    ∀ (s : σ) (steps : List α), (∀ a ∈ steps, ok a) → P s → ∀ r ∈ run step stops s steps, P r.2
  | _, [], _, _ => by simp
  | s, a :: rest, hok, hs => by
    simp only [run, List.mem_cons]
    have hs' := hstep s a (hok a List.mem_cons_self) hs
    rintro r (rfl | hr)
    · exact hs'
    · split at hr
      · simp at hr
      · exact mem_run_of_step step stops P ok hstep _ rest
          (fun a h => hok a (List.mem_cons_of_mem _ h)) hs' r hr

end Session

end Presenter
