import MockKeeper.Proofs.EngineCalls
import MockKeeper.Proofs.LoopTraces

/-! Runs of a session, and one session event told as the ways it can go. -/

namespace MockKeeper.Session

abbrev Turn := MockKeeper.Turn Session SessionEvent

def run (session : Session) (events : List SessionEvent) : Option Session := runAll step session events

def trace (session : Session) (events : List SessionEvent) : List Turn := turns step session events

/-- A session whose loop was not run yet, and whose engine was not used yet. What the
backend is called, its port, the policy and what is watched are left open. -/
structure Fresh (session : Session) : Prop where
  point : session.loop.point = .ready
  pending : session.loop.restartsPending = 0
  terminating : session.loop.terminating = false
  instances : session.engine.instances = []
  current : session.engine.current = none
  removed : session.engine.removed = false
  busy : session.engine.busy = none
  waiting : session.engine.waiting = []
  answers : session.engine.answers = []
  calls : session.engine.calls = []
  channel : session.engine.channels[stopChannel]? = some {}
  called : session.called = false
  removal : session.removal = .unasked

def unused : Session where
  loop := {}
  engine := { title := "mock", port := 8080, channels := [{}], prepared := true }
  changes := { capacity := 1 }
  watching := true

theorem unused_fresh : unused.Fresh := by
  constructor <;> rfl

def asks : List SessionEvent := [.call, .engine (.begin 0)]

def arms (id : String) : List SessionEvent :=
  .engine (.launched (.ok { id })) :: .resume :: asks ++ [.resume]

def ends (index : Nat) (outcome : Outcome) : List SessionEvent :=
  [.engine (.ended index outcome), .engine (.examine index)]

/-- A step of the loop that takes the answer of its call. -/
inductive Resumes (loop : ControlLoop) : Option EngineError → ControlLoop → Prop
  | started (stands : loop.point = .starting) : Resumes loop none { loop with point := .arming }
  | refused {error : EngineError} (stands : loop.point = .starting) :
      Resumes loop (some error)
        { loop with phase := .terminated, point := .returned (.error error) }
  | armed {failure : Option EngineError} (stands : loop.point = .arming) :
      Resumes loop failure { loop with phase := .awaitingEvent, point := .awaiting }
  | relaunched (stands : loop.point = .restarting ∨ loop.point = .recovering) :
      Resumes loop none { loop with point := .arming }
  | failed {error : EngineError} (stands : loop.point = .restarting ∨ loop.point = .recovering) :
      Resumes loop (some error) { loop with point := .leaving (some error) }

/-- A step of the loop that takes a stop, without what it reports of it. -/
inductive Stops (loop : ControlLoop) : ControlLoop → Prop
  | settled {log : Log} {summary : Summary} (restarted : 0 < loop.restartsPending) :
      Stops loop { loop with
        log, summary, point := .arming, restartsPending := loop.restartsPending - 1 }
  | crashed {log : Log} {summary : Summary} (alone : loop.restartsPending = 0)
      (going : loop.terminating = false) :
      Stops loop { loop with log, summary, phase := .running, point := .recovering }
  | last {log : Log} {summary : Summary} (alone : loop.restartsPending = 0) :
      Stops loop { loop with log, summary, point := .leaving none }

def received (engine : Engine) : Engine :=
  { engine with channels := engine.channels.modify stopChannel fun channel => channel.tryReceive.2 }

/-- What an event can do. A loop that has not returned keeps its end of the changes. -/
inductive Moves (session : Session) : SessionEvent → Session → Prop
  | run (stands : session.loop.point = .ready) :
      Moves session .run
        { session with loop := { session.loop with phase := .running, point := .starting } }
  | call {operation : Operation} (free : session.called = false)
      (stands : operation? session.loop = some operation) :
      Moves session .call
        { session with called := true, engine := session.engine.enqueue loopTicket operation }
  | resume {failure : Option EngineError} {loop : ControlLoop} {changes : ChangeStream}
      (called : session.called = true) (answered : session.engine.answer? loopTicket = some failure)
      (resumes : Resumes session.loop failure loop)
      (settles : loop.result? = none → changes = session.changes) :
      Moves session .resume
        { session with loop, changes, called := false, engine := session.engine.takeAnswer loopTicket }
  | pickChange {loop : ControlLoop} {changes : ChangeStream} (watching : session.watching = true)
      (taken : session.changes.take = some changes) (stands : session.loop.point = .awaiting)
      (steps : session.loop.Steps .changed loop) :
      Moves session .pickChange { session with loop, changes }
  | noticeClosed {log : Log} (watching : session.watching = true)
      (ended : session.changes.ended = true) (stands : session.loop.point = .awaiting) :
      Moves session .noticeClosed
        { session with
          loop := { session.loop with log, point := .arming }
          watching := false, changes := session.changes.abandon }
  | receive {event : StopEvent} {rest : List StopEvent} {loop : ControlLoop}
      (queued : session.queue = event :: rest) (stands : session.loop.point = .awaiting)
      (stops : Stops session.loop loop) :
      Moves session .receive { session with loop, engine := received session.engine }
  | leave {failure : Option EngineError} {changes : ChangeStream}
      (stands : session.loop.point = .leaving failure) :
      Moves session .leave { session with loop := session.loop.finish failure, changes }
  | change {changes : ChangeStream} (offered : session.changes.offer = (.accepted, changes)) :
      Moves session .change { session with changes }
  | closeWatcher (unfinished : session.changes.senderOpen = true) :
      Moves session .closeWatcher { session with changes := session.changes.close }
  | interruptFirst {log : Log} (going : session.loop.terminating = false) :
      Moves session .interrupt
        { session with loop := { session.loop with log, terminating := true }, removal := .asked }
  | interruptLate (ending : session.loop.terminating = true) : Moves session .interrupt session
  | callRemoval (asked : session.removal = .asked) :
      Moves session .callRemoval
        { session with
          removal := .called, engine := session.engine.enqueue removalTicket (.remove stopChannel) }
  | endRemoval {failure : Option EngineError} (called : session.removal = .called)
      (answered : session.engine.answer? removalTicket = some failure) :
      Moves session .endRemoval
        { session with removal := .done, engine := session.engine.takeAnswer removalTicket }
  | engine {event : EngineEvent} {engine : Engine} (moved : session.engine.Moves event engine) :
      Moves session (.engine event) { session with engine }

private theorem stops_of_steps {loop after : ControlLoop} {event : StopEvent}
    (steps : loop.Steps (.stopped event) after) : Stops loop after := by
  have reported : ∃ log summary, loop.reportCrash event = { loop with log, summary } := by
    unfold ControlLoop.reportCrash
    split <;> exact ⟨_, _, rfl⟩
  obtain ⟨log, summary, reported⟩ := reported
  cases steps with
  | settled stands restarted =>
    rw [reported]
    exact .settled restarted
  | crashed stands alone crash =>
    rw [reported]
    apply Stops.crashed alone
    cases ending : loop.terminating with
    | false => rfl
    | true => simp [ControlLoop.crash?, ending] at crash
  | last stands alone =>
    rw [reported]
    exact .last alone

private theorem resumes_of_steps {loop after : ControlLoop} {failure : Option EngineError} {input : LoopInput}
    (asked : answerInput? loop failure = some input) (steps : loop.Steps input after) : Resumes loop failure after := by
  cases steps with
  | started stands | unstarted stands | armed stands =>
    simp only [answerInput?, stands] at asked
    cases asked
    constructor
    exact stands
  | restarted stands | recovered stands =>
    simp only [answerInput?, stands] at asked
    cases asked
    cases failure with
    | none => exact .relaunched (by simp [stands])
    | some error => exact .failed (by simp [stands])
  | _ =>
    unfold answerInput? at asked
    split at asked <;> cases asked

private theorem settleWatcher_eq (session : Session) :
    ∃ changes, session.settleWatcher = { session with changes } ∧
      (session.loop.result? = none → changes = session.changes) := by
  unfold settleWatcher
  split
  next returned =>
    refine ⟨_, rfl, ?_⟩
    intro going
    rw [going] at returned
    cases returned
  next => exact ⟨_, rfl, fun _ => rfl⟩

theorem step_moves {session after : Session} {event : SessionEvent}
    (moved : session.step event = some after) : session.Moves event after := by
  cases event with
  | run =>
    obtain ⟨loop, ran, rfl⟩ := Option.map_eq_some_iff.mp moved
    cases ControlLoop.step_steps ran with
    | run stands => exact .run stands
  | call =>
    simp only [step] at moved
    split at moved
    next => cases moved
    next free =>
      obtain ⟨operation, stands, rfl⟩ := Option.map_eq_some_iff.mp moved
      exact .call (by simpa using free) stands
  | resume =>
    simp only [step] at moved
    split at moved
    next => cases moved
    next called =>
      obtain ⟨failure, answered, moved⟩ := Option.bind_eq_some_iff.mp moved
      obtain ⟨input, asked, moved⟩ := Option.bind_eq_some_iff.mp moved
      obtain ⟨loop, resumed, moved⟩ := Option.bind_eq_some_iff.mp moved
      cases moved
      obtain ⟨changes, equal, settles⟩ := settleWatcher_eq { session with
        loop, called := false, engine := session.engine.takeAnswer loopTicket }
      rw [equal]
      exact .resume (by simpa using called) answered (resumes_of_steps asked (ControlLoop.step_steps resumed)) settles
  | pickChange =>
    simp only [step] at moved
    split at moved
    next => cases moved
    next watching =>
      obtain ⟨changes, taken, moved⟩ := Option.bind_eq_some_iff.mp moved
      obtain ⟨loop, picked, moved⟩ := Option.bind_eq_some_iff.mp moved
      cases moved
      have steps := ControlLoop.step_steps picked
      exact .pickChange (by simpa using watching) taken (steps.awaiting rfl) steps
  | noticeClosed =>
    simp only [step] at moved
    split at moved
    next closed =>
      obtain ⟨loop, noticed, rfl⟩ := Option.map_eq_some_iff.mp moved
      simp only [Bool.and_eq_true] at closed
      cases ControlLoop.step_steps noticed with
      | closed stands => exact .noticeClosed closed.1 closed.2 stands
    next => cases moved
  | receive =>
    simp only [step] at moved
    split at moved
    next => cases moved
    next event rest queued =>
      obtain ⟨loop, stopped, rfl⟩ := Option.map_eq_some_iff.mp moved
      have steps := ControlLoop.step_steps stopped
      exact .receive queued (steps.awaiting rfl) (stops_of_steps steps)
  | leave =>
    obtain ⟨loop, left, rfl⟩ := Option.map_eq_some_iff.mp moved
    obtain ⟨changes, equal, -⟩ := settleWatcher_eq { session with loop }
    rw [equal]
    cases ControlLoop.step_steps left with
    | left stands => exact .leave stands
  | change =>
    simp only [step] at moved
    split at moved
    next changes offered =>
      cases moved
      exact .change offered
    next => cases moved
  | closeWatcher =>
    simp only [step] at moved
    split at moved
    next unfinished =>
      cases moved
      exact .closeWatcher unfinished
    next => cases moved
  | interrupt =>
    obtain ⟨loop, asked, rfl⟩ := Option.map_eq_some_iff.mp moved
    cases ControlLoop.step_steps asked with
    | interrupted going =>
      simp only [interruptWins, going]
      exact .interruptFirst going
    | again ending =>
      simp only [interruptWins, ending]
      exact .interruptLate ending
  | callRemoval =>
    cases asked : session.removal <;> simp only [step, asked] at moved <;> cases moved
    exact .callRemoval asked
  | endRemoval =>
    cases called : session.removal <;> cases answered : session.engine.answer? removalTicket <;>
      simp only [step, called, answered] at moved <;> cases moved
    exact .endRemoval called answered
  | engine event =>
    obtain ⟨engine, stepped, rfl⟩ := Option.map_eq_some_iff.mp moved
    exact .engine (Engine.step_moves stepped)

end MockKeeper.Session
