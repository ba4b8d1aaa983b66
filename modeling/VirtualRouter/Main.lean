import VirtualRouter.CommandLine.Run

/-!
The daemon as a program. It reads its settings, says what it starts with, and runs until its input ends.
-/

namespace VirtualRouter

/-- What is found under the name of a file. -/
def findFile (path : String) : IO FileState := do
  try
    return .contents (← IO.FS.readBinFile path)
  catch
    | .noFileOrDirectory .. => return .missing
    | _ => return .unreadable

/-- Shows a run on the console, and waits for the end of the input where the daemon waits for its interrupt. -/
def DaemonRun.perform : DaemonRun → IO Unit
  | .help => IO.println usageText
  | .version => IO.println versionText
  | .usageError => IO.eprintln usageText
  | .failed failure => IO.eprintln ("Error: " ++ failure.report)
  | .interrupted started stopped => do
    started.forM fun text => IO.println ("starting vrnd " ++ text)
    let _ ← (← IO.getStdin).readToEnd
    stopped.forM IO.println

end VirtualRouter

open VirtualRouter in
/-- Runs the daemon. -/
def main (arguments : List String) : IO UInt32 := do
  let file ← match (Invocation.ofArguments arguments).config? with
    | some path => findFile path
    | none => pure .missing
  let run := DaemonRun.ofArguments (fun _ => file) arguments
  run.perform
  return UInt32.ofNat run.exitCode
