import Presenter.Demo
/-!
# The demonstration program

Reads the two rendering settings from the process environment, runs the demonstration, prints
its standard output and error lines, and ends with its exit code.
-/

open Presenter

/-- Runs the demonstration under the process's rendering settings. -/
def main : IO UInt32 := do
  let disable ← IO.getEnv "SNOW_RENDER_DISABLE_ACCELERATED"
  let mode ← IO.getEnv "SNOW_RENDER_MODE"
  let report := demoRun { disableAccelerated := disable, renderMode := mode }
  for line in report.stdout do IO.println line
  for line in report.stderr do IO.eprintln line
  return report.exitCode.toUInt32
