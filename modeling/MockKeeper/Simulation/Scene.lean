import MockKeeper.Files.Change
import MockKeeper.Simulation.Command

/-! A scene told in lines: what is on the simulated machine, and what happens there while
the program runs. -/

namespace MockKeeper.Simulation

structure Scene where
  host : Host := {}
  happenings : List Happening := []

namespace Scene

/-- The words of a line up to a number of them, and the rest of it. -/
def cut (count : Nat) (line : String) : List String :=
  let words := line.splitOn " "
  words.take count ++ if count < words.length then [" ".intercalate (words.drop count)] else []

def add (scene : Scene) (happening : Happening) : Scene :=
  { scene with happenings := scene.happenings ++ [happening] }

/-- Adds what a line tells. A line that tells nothing known is left out. -/
def tell (scene : Scene) (line : String) : Scene :=
  let host := scene.host
  match cut 2 line with
  | ["file", path, text] =>
    { scene with host := { host with
      tree := host.tree.lay (Utf8.encode path) (.file (Utf8.encode text)) } }
  | ["directory", path] =>
    { scene with host := { host with tree := host.tree.lay (Utf8.encode path) (.directory []) } }
  | ["write", path, text] => scene.add (.act (.write (Utf8.encode path) (Utf8.encode text)))
  | ["remove", path] => scene.add (.act (.remove (Utf8.encode path)))
  | ["launches", count] => scene.add (.awaitLaunches (count.toNat?.getD 0))
  | ["sleep", span] => scene.add (.sleep (.ofMilliseconds (span.toNat?.getD 0)))
  | ["end"] => scene.add .signal
  | "engine" :: plan =>
    { scene with host := { host with plan := host.plan ++ [.ofPlan (" ".intercalate plan)] } }
  | _ => scene

def ofLines (lines : List String) : Scene := lines.foldl tell {}

end Scene

end MockKeeper.Simulation
