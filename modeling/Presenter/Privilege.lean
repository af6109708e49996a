import Presenter.Devices
/-!
# Privilege — acting as a client's identity for a while

A thread can assume a client's security identity and must return to the process identity
afterwards. An identity guard is made by assuming the identity and gives it back when it is
released: a failure to revert then is only logged. Reverting explicitly reports the outcome
instead, and the guard then does nothing more.

`Identity` is a thread's identity context: which identity is assumed, how often assuming and
reverting happened, and whether the system refuses either.
-/

namespace Presenter

open Act

/-- A thread's identity context and what happened to it. -/
structure Identity where
  current : Option String := none
  assumes : Nat := 0
  reverts : Nat := 0
  /-- The system refuses to switch identities. -/
  refuse : Bool := false
  /-- The system refuses to switch back. -/
  revertFails : Bool := false
  deriving DecidableEq, Repr

namespace Identity

def assumeToken (c : Identity) (token : String) : Except Error Identity :=
  if c.refuse then .error (.platform "access denied")
  else .ok { c with current := some token, assumes := c.assumes + 1 }

def revertToSelf (c : Identity) : Except Error Unit × Identity :=
  let c := { c with reverts := c.reverts + 1 }
  if c.revertFails then (.error (.platform "revert refused"), c)
  else (.ok (), { c with current := none })

def impersonating (c : Identity) : Bool := c.current.isSome

end Identity

namespace IdentityGuard

/-- Assumes the identity and logs it; the context afterwards, or the refusal. -/
def assume (c : Identity) (token : String) : Act (Except Error Identity) := do
  match c.assumeToken token with
  | .error e => return .error e
  | .ok c =>
    debug .privilege "assumed client identity" []
    return .ok c

def release (c : Identity) : Act Identity := do
  let (r, c) := c.revertToSelf
  if let .error e := r then
    warn .privilege "failed to revert to the process identity" [⟨"error", .text e.message⟩]
  return c

def revert (c : Identity) : Except Error Unit × Identity := c.revertToSelf

/-- A guard's whole life: assume the identity, then revert explicitly (`revertNow`) or release
the guard. Answers the outcome of assuming, the outcome of the explicit revert if there was
one, and the context afterwards; a refused assumption leaves the context as it was. -/
def lifetime (c : Identity) (token : String) (revertNow : Bool) :
    Act (Except Error Unit × Option (Except Error Unit) × Identity) := do
  match ← assume c token with
  | .error e => return (.error e, none, c)
  | .ok held =>
    if revertNow then
      let (r, after) := revert held
      return (.ok (), some r, after)
    else
      let after ← release held
      return (.ok (), none, after)

end IdentityGuard

end Presenter
