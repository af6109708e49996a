import Presenter.Devices
/-!
# Control peers — who may talk to the service

A control connection is refused only when the connecting process is known to run another
executable than this one (`verifyPeer`). When the check is unavailable, or either executable
cannot be looked up, the peer is let through and the reason is logged.

Executables are compared as paths: component by component, so repeated and trailing
separators and `.` components inside a path do not matter, while a leading `.` of a relative
path and every `..` do (`Path.components`). The comparison is case-sensitive.

`PeerCheck` records whether the operating system offers the lookup a check needs.
-/

namespace Presenter

namespace Path

/-- A component of a path. -/
inductive Component where
  | root
  | current
  | parent
  | normal (name : String)
  deriving DecidableEq, Repr

def pieceComponent (piece : String) : Component :=
  if piece = ".." then .parent else .normal piece

/-- The components of a path: a root for a leading separator, a current directory for a
leading `.` of a relative path, then every piece between separators except empty ones and
`.`. -/
def components (p : String) : List Component :=
  let pieces := p.splitOn "/"
  let rooted := p.startsWith "/"
  let rest := pieces.filter fun s => s ≠ "" ∧ s ≠ "."
  let head :=
    if rooted then [Component.root]
    else match pieces with
      | "." :: _ => [Component.current]
      | _ => []
  head ++ rest.map pieceComponent

def same (a b : String) : Bool := decide (components a = components b)

end Path

open Act

/-- What the executable lookups found out about a peer. -/
structure PeerLookup where
  available : Bool
  peer : Option String
  own : Option String
  deriving DecidableEq, Repr

/-- Lets a peer through unless it is known to run another executable than this process. -/
def verifyPeer (l : PeerLookup) : Act (Except Error Unit) := do
  if !l.available then
    debug .control "peer identity check unavailable, accepting peer" []
    return .ok ()
  let some peer := l.peer
    | do debug .control "peer executable lookup failed, accepting peer" []; return .ok ()
  let some own := l.own
    | do debug .control "own executable lookup failed, accepting peer" []; return .ok ()
  if Path.same peer own then return .ok ()
  warn .control "control peer runs a different executable"
    [⟨"peer", .text peer⟩, ⟨"own", .text own⟩]
  return .error (.peerRejected ("peer executable " ++ peer ++ " differs from " ++ own))

/-- Whether the operating system offers the lookup a peer check needs, and its entry. -/
structure PeerCheck where
  entry : Option Nat
  deriving DecidableEq, Repr

namespace PeerCheck

def resolve (entry : Option Nat) : Act PeerCheck := do
  debug .control "peer identity check resolved" [⟨"available", .flag entry.isSome⟩]
  return ⟨entry⟩

def unavailable : PeerCheck := ⟨none⟩

def isAvailable (c : PeerCheck) : Bool := c.entry.isSome

end PeerCheck

end Presenter
