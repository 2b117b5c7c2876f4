import MockKeeper.Engine.Process
import MockKeeper.Text.Blank

/-! How a simulated process behaves: it ends by itself, or runs until a signal ends it. -/

namespace MockKeeper.Simulation

inductive Conduct
  | ends (status : ExitStatus)
  | runs
  | ignores
  | leaves (number : Nat)
deriving DecidableEq, Repr

namespace Conduct

/-- How a process has ended after the signals sent to it, if it has. -/
def end? (conduct : Conduct) (signals : List Signal) : Option ExitStatus :=
  match conduct with
  | .ends status => some status
  | _ =>
    if signals.contains .kill then some (.signal 9)
    else if signals.contains .term then
      match conduct with
      | .leaves number => some (.code number)
      | .ignores => none
      | _ => some (.signal 15)
    else none

/-- The exit code that the system keeps of a number: its last eight bits. -/
def exitCode (text : String) : Nat := ((text.toInt?.getD 0) % 256).toNat

def words (text : String) : List String :=
  ((text.splitToList Text.isBlank).filter fun word => !word.isEmpty)

def ofPlan (text : String) : Conduct :=
  match words text with
  | ["exit", number] => .ends (.code (exitCode number))
  | ["signal", number] => .ends (.signal (number.toNat?.getD 0))
  | ["stubborn"] => .ignores
  | ["graceful", number] => .leaves (exitCode number)
  | _ => .runs

def signalNumber? (name : String) : Option Nat :=
  match name with
  | "HUP" => some 1
  | "INT" => some 2
  | "QUIT" => some 3
  | "ABRT" => some 6
  | "KILL" => some 9
  | "TERM" => some 15
  | digits => digits.toNat?

/-- What a shell does with commands: the ones that end it, and those it waits for. The
last command that is done leaves its code. -/
def ofCommands : (code : Nat) → List (List String) → Conduct
  | code, [] => .ends (.code code)
  | code, [] :: rest => ofCommands code rest
  | code, ["exit"] :: _ => .ends (.code code)
  | _, ["exit", number] :: _ => .ends (.code (exitCode number))
  | _, ["kill", name, "$$"] :: rest =>
    match signalNumber? (String.ofList (name.toList.drop 1)) with
    | some number => .ends (.signal number)
    | none => ofCommands 1 rest
  | _, ("sleep" :: _) :: _ | _, ("exec" :: "sleep" :: _) :: _ => .runs
  | _, ["true"] :: rest | _, [":"] :: rest => ofCommands 0 rest
  | _, ["false"] :: rest => ofCommands 1 rest
  | _, ("echo" :: _) :: rest => ofCommands 0 rest
  | _, _ :: rest => ofCommands 127 rest

def ofShell (arguments : List String) : Conduct :=
  match arguments with
  | "-c" :: script :: _ =>
    ofCommands 0 ((script.splitToList fun c => c == ';' || c == '\n').map words)
  | _ => .ends (.code 2)

end Conduct

end MockKeeper.Simulation
