import Presenter.FrameBuffer
/-!
# Demo — what the demonstration program prints

The demonstration program reports whether accelerated rendering is available, then builds a
frame buffer of `640×360` on the desktop preferring the compositor. On a system without
rendering the build fails: the program prints the events of level info and above, then the
error with its chain of causes, and ends with exit code 1.
-/

namespace Presenter

/-- What a program run printed and how it ended. -/
structure RunReport where
  exitCode : Nat
  stdout : List String
  stderr : List String
  deriving DecidableEq, Repr

def Error.causes (e : Error) : List String :=
  match e with
  | .platform inner => [e.message, inner]
  | _ => [e.message]

def errorReport (context : String) (causes : List String) : List String :=
  let listed := match causes with
    | [c] => ["    " ++ c]
    | cs => (List.range cs.length).zip cs |>.map fun (i, c) => "    " ++ toString i ++ ": " ++ c
  ["Error: " ++ context] ++ (if causes.isEmpty then [] else ["", "Caused by:"] ++ listed)

/-- The demonstration program on a system without rendering, under the given settings. -/
def demoRun (env : Environment) : RunReport :=
  let fb := FrameBuffer.new .unsupported .compositor
  let (outcome, d) := match (fb.setup .bgra32 ⟨640, 360⟩ none).run { env := env } with
    | .ok (_, r) d => (r, d)
    | .error _ d => (.ok (), d)
  let shown := d.log.toList.filter fun e => decide (Log.Level.info.rank ≤ e.level.rank)
  let stdout := "Accelerated compositor available: false" :: shown.map Log.Event.plainLine
  match outcome with
  | .ok () => ⟨0, stdout, []⟩
  | .error e => ⟨1, stdout, errorReport "failed to initialize the frame buffer on the desktop" e.causes⟩

end Presenter
