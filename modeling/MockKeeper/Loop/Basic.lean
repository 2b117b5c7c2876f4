import MockKeeper.Config.Choices
import MockKeeper.Log
import MockKeeper.Stop.Channel

/-! The loop that keeps an engine running. It starts the engine, restarts it when
the watched directory changes, and ends when the engine stops for another reason.
The loop only makes calls and waits; each input below is one thing it waited for. -/

namespace MockKeeper

inductive Phase
  | running
  | awaitingEvent
  | restarting
  | terminated
deriving DecidableEq, Repr

structure Summary where
  restarts : Nat := 0
  unexpectedStops : Nat := 0
  interrupted : Bool := false
deriving DecidableEq, Repr

/-- What the loop waits for. -/
inductive LoopPoint
  | ready
  | starting
  /-- For its registration with the current instance. -/
  | arming
  | awaiting
  | restarting
  | recovering
  | leaving (failure : Option EngineError)
  | returned (result : Except EngineError Summary)

structure ControlLoop where
  policy : CrashPolicy := .exit
  label : String := "config dir"
  point : LoopPoint := .ready
  phase : Phase := .running
  /-- Set by whoever ends the loop first. -/
  terminating : Bool := false
  /-- Restarts whose stop has not been seen yet. -/
  restartsPending : Nat := 0
  summary : Summary := {}
  log : Log := []

inductive LoopInput
  | run
  | started (failure : Option EngineError)
  | armed
  | changed
  | watcherClosed
  | stopped (event : StopEvent)
  | restarted (failure : Option EngineError)
  | recovered (failure : Option EngineError)
  | leave
  /-- Someone asks for the end: the first to do so is to remove the engine. -/
  | interrupt

namespace ControlLoop

def note (loop : ControlLoop) (line : LogLine) : ControlLoop :=
  { loop with log := loop.log ++ [line] }

def handleChange (loop : ControlLoop) : ControlLoop :=
  if loop.terminating then { loop with point := .arming }
  else
    { loop with
      log := loop.log ++
        [.info ("detected change in: " ++ loop.label ++ " - triggering restart")]
      restartsPending := loop.restartsPending + 1
      phase := .restarting
      summary := { loop.summary with restarts := loop.summary.restarts + 1 }
      point := .restarting }

def handleClosedWatcher (loop : ControlLoop) : ControlLoop :=
  { loop.note (.warn ("stopped watching " ++ loop.label ++
      ", changes will not restart the engine")) with point := .arming }

/-- The error of a stop that counts as a crash: none is a crash while the loop is ending. -/
def crash? (loop : ControlLoop) (event : StopEvent) : Option EngineError :=
  if loop.terminating then none else event.error

def reportCrash (loop : ControlLoop) (event : StopEvent) : ControlLoop :=
  match loop.crash? event with
  | some error =>
    { loop.note (.warn ("mock engine stopped unexpectedly: " ++ error.message)) with
      summary := { loop.summary with unexpectedStops := loop.summary.unexpectedStops + 1 } }
  | none => loop

/-- A stop settles a pending restart, is recovered from, or ends the loop. -/
def handleStop (loop : ControlLoop) (event : StopEvent) : ControlLoop :=
  let reported := loop.reportCrash event
  if 0 < loop.restartsPending then
    { reported with restartsPending := loop.restartsPending - 1, point := .arming }
  else if (loop.crash? event).isSome && loop.policy == .restart then
    { reported.note (.info "starting a new mock engine instance after crash") with
      phase := .running, point := .recovering }
  else { reported with point := .leaving none }

def afterCall (loop : ControlLoop) (failure : Option EngineError) : ControlLoop :=
  match failure with
  | none => { loop with point := .arming }
  | some error => { loop with point := .leaving (some error) }

/-- The loop ends: it takes the flag, and was interrupted if someone had it before. -/
def finish (loop : ControlLoop) (failure : Option EngineError) : ControlLoop :=
  let summary := { loop.summary with interrupted := loop.terminating }
  { loop with
    terminating := true
    phase := .terminated
    summary := summary
    point := .returned (match failure with
      | none => .ok summary
      | some error => .error error) }

/-- One input. There is no result where the loop does not wait for it. -/
def step (loop : ControlLoop) (input : LoopInput) : Option ControlLoop :=
  match input, loop.point with
  | .run, .ready => some { loop with phase := .running, point := .starting }
  | .started none, .starting => some { loop with point := .arming }
  | .started (some error), .starting =>
    some { loop with phase := .terminated, point := .returned (.error error) }
  | .armed, .arming => some { loop with phase := .awaitingEvent, point := .awaiting }
  | .changed, .awaiting => some loop.handleChange
  | .watcherClosed, .awaiting => some loop.handleClosedWatcher
  | .stopped event, .awaiting => some (loop.handleStop event)
  | .restarted failure, .restarting => some (loop.afterCall failure)
  | .recovered failure, .recovering => some (loop.afterCall failure)
  | .leave, .leaving failure => some (loop.finish failure)
  | .interrupt, _ =>
    if loop.terminating then some loop
    else some { loop.note (.info "stopping mock engine") with terminating := true }
  | _, _ => none

def result? (loop : ControlLoop) : Option (Except EngineError Summary) :=
  match loop.point with
  | .returned result => some result
  | _ => none

end ControlLoop

end MockKeeper
