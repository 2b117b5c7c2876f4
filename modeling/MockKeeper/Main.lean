import MockKeeper.Simulation.Scene

/-! The program at a terminal. It starts no programs and opens no sockets: it plays its
command on a simulated machine. The scene is told on the standard input, a line each, and
what the program would write goes to the standard outputs. -/

open MockKeeper Simulation

partial def readLines (input : IO.FS.Stream) (lines : List String) : IO (List String) := do
  let line ← input.getLine
  if line.isEmpty then return lines.reverse
  readLines input (((Text.lines line).headD "") :: lines)

def main (arguments : List String) : IO UInt32 := do
  let scene := Scene.ofLines (← readLines (← IO.getStdin) [])
  let given ← environmentNames.filterMapM fun name => do
    return (← IO.getEnv name).map fun value => (name, value)
  let home := Settings.home ((given.lookup "HOME").map Utf8.encode) (Utf8.encode "/root")
  let run := ProgramRun.ofArguments scene.host home (fun name => given.lookup name) arguments
    scene.happenings
  let lines := match run.output with
    | .help => helpLines
    | .lines lines => lines
  lines.forM IO.println
  run.complaints.forM IO.eprintln
  return UInt32.ofNat run.exitCode
