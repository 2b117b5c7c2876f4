import MockKeeper.Loop.Session
import MockKeeper.Proofs.Traces

/-! Runs of the control loop on its own. Its engine may answer as it likes, and stops, changes
and interrupts may come in any order that the loop waits for. -/

namespace MockKeeper.ControlLoop

abbrev Turn := MockKeeper.Turn ControlLoop LoopInput

def run (loop : ControlLoop) (inputs : List LoopInput) : Option ControlLoop := runAll step loop inputs

def trace (loop : ControlLoop) (inputs : List LoopInput) : List Turn := turns step loop inputs

/-- A loop that was not run yet. The policy and what is watched are left open. -/
structure Fresh (loop : ControlLoop) : Prop where
  point : loop.point = .ready
  phase : loop.phase = .running
  terminating : loop.terminating = false
  pending : loop.restartsPending = 0
  summary : loop.summary = {}
  log : loop.log = []

inductive Steps (loop : ControlLoop) : LoopInput → ControlLoop → Prop
  | run (stands : loop.point = .ready) : Steps loop .run { loop with phase := .running, point := .starting }
  | started (stands : loop.point = .starting) : Steps loop (.started none) { loop with point := .arming }
  | unstarted {error : EngineError} (stands : loop.point = .starting) :
      Steps loop (.started (some error))
        { loop with phase := .terminated, point := .returned (.error error) }
  | armed (stands : loop.point = .arming) :
      Steps loop .armed { loop with phase := .awaitingEvent, point := .awaiting }
  | ignored (stands : loop.point = .awaiting) (ending : loop.terminating = true) :
      Steps loop .changed { loop with point := .arming }
  | changed {line : LogLine} (stands : loop.point = .awaiting) (going : loop.terminating = false)
      (level : line.level = .info) :
      Steps loop .changed
        { loop.note line with
          restartsPending := loop.restartsPending + 1
          phase := .restarting
          summary := { loop.summary with restarts := loop.summary.restarts + 1 }
          point := .restarting }
  | closed (stands : loop.point = .awaiting) : Steps loop .watcherClosed loop.handleClosedWatcher
  | settled {event : StopEvent} (stands : loop.point = .awaiting) (restarted : 0 < loop.restartsPending) :
      Steps loop (.stopped event)
        { loop.reportCrash event with restartsPending := loop.restartsPending - 1, point := .arming }
  | crashed {event : StopEvent} {line : LogLine} (stands : loop.point = .awaiting)
      (alone : loop.restartsPending = 0) (crash : (loop.crash? event).isSome = true)
      (level : line.level = .info) :
      Steps loop (.stopped event)
        { (loop.reportCrash event).note line with phase := .running, point := .recovering }
  | last {event : StopEvent} (stands : loop.point = .awaiting) (alone : loop.restartsPending = 0) :
      Steps loop (.stopped event) { loop.reportCrash event with point := .leaving none }
  | restarted {failure : Option EngineError} (stands : loop.point = .restarting) :
      Steps loop (.restarted failure) (loop.afterCall failure)
  | recovered {failure : Option EngineError} (stands : loop.point = .recovering) :
      Steps loop (.recovered failure) (loop.afterCall failure)
  | left {failure : Option EngineError} (stands : loop.point = .leaving failure) :
      Steps loop .leave (loop.finish failure)
  | interrupted {line : LogLine} (going : loop.terminating = false) (level : line.level = .info) :
      Steps loop .interrupt { loop.note line with terminating := true }
  | again (ending : loop.terminating = true) : Steps loop .interrupt loop

private theorem handleChange_steps {loop : ControlLoop} (stands : loop.point = .awaiting) :
    loop.Steps .changed loop.handleChange := by
  unfold handleChange
  split
  next ending => exact .ignored stands ending
  next going => exact .changed stands (by simpa using going) rfl

private theorem handleStop_steps {loop : ControlLoop} (stands : loop.point = .awaiting) (event : StopEvent) :
    loop.Steps (.stopped event) (loop.handleStop event) := by
  unfold handleStop
  dsimp only
  split
  next restarted => exact .settled stands restarted
  next alone =>
    have alone : loop.restartsPending = 0 := by omega
    split
    next crash =>
      simp only [Bool.and_eq_true] at crash
      exact .crashed stands alone crash.1 rfl
    next => exact .last stands alone

theorem step_steps {loop after : ControlLoop} {input : LoopInput} (stepped : loop.step input = some after) :
    loop.Steps input after := by
  unfold step at stepped
  split at stepped
  case h_11 =>
    split at stepped
    next ending =>
      cases stepped
      exact .again ending
    next going =>
      cases stepped
      exact .interrupted (by simpa using going) rfl
  case h_12 => cases stepped
  all_goals cases stepped
  case h_1 stands => exact .run stands
  case h_2 stands => exact .started stands
  case h_3 stands => exact .unstarted stands
  case h_4 stands => exact .armed stands
  case h_5 stands => exact handleChange_steps stands
  case h_6 stands => exact .closed stands
  case h_7 stands => exact handleStop_steps stands _
  case h_8 stands => exact .restarted stands
  case h_9 stands => exact .recovered stands
  case h_10 stands => exact .left stands

def awaited : LoopInput → Bool
  | .changed | .watcherClosed | .stopped _ => true
  | _ => false

theorem Steps.awaiting {loop after : ControlLoop} {input : LoopInput} (steps : loop.Steps input after)
    (waits : awaited input = true) : loop.point = .awaiting := by
  cases steps with
  | ignored stands | changed stands | closed stands | settled stands | crashed stands | last stands => exact stands
  | _ => cases waits

end MockKeeper.ControlLoop
