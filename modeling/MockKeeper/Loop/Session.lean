import MockKeeper.Loop.Basic
import MockKeeper.Engine.Basic
import MockKeeper.Watch.Stream

/-! The control loop over an engine, a stream of directory changes and an
interrupt, as one state. Every order in which these can proceed is a sequence of
the events below. -/

namespace MockKeeper

inductive Removal
  | unasked
  | asked
  | called
  | done
deriving DecidableEq, Repr

structure Session where
  loop : ControlLoop
  engine : Engine
  changes : ChangeStream
  watching : Bool
  called : Bool := false
  removal : Removal := .unasked

inductive SessionEvent
  | run
  | call
  | resume
  | pickChange
  | noticeClosed
  | receive
  | leave
  | change
  | closeWatcher
  /-- An interrupt tries to begin the shutdown. -/
  | interrupt
  /-- The winning interrupt makes its engine call. -/
  | callRemoval
  | endRemoval
  | engine (event : EngineEvent)

namespace Session

/-- The channel the loop receives stops from. -/
def stopChannel : Nat := 0

def loopTicket : Ticket := 0

def removalTicket : Ticket := 1

def operation? (loop : ControlLoop) : Option Operation :=
  match loop.point with
  | .starting | .recovering => some .start
  | .arming => some (.notifyOnStop stopChannel)
  | .restarting => some (.restart stopChannel)
  | _ => none

def answerInput? (loop : ControlLoop) (failure : Option EngineError) : Option LoopInput :=
  match loop.point with
  | .starting => some (.started failure)
  | .recovering => some (.recovered failure)
  | .arming => some .armed
  | .restarting => some (.restarted failure)
  | _ => none

def queue (session : Session) : List StopEvent :=
  ((session.engine.channels[stopChannel]?).map StopChannel.queue).getD []

/-- Once the loop has returned its end of the change stream is gone. -/
def settleWatcher (session : Session) : Session :=
  if session.loop.result?.isSome then { session with changes := session.changes.abandon }
  else session

/-- Whether an interrupt made now would be the one that begins the shutdown. -/
def interruptWins (session : Session) : Bool := !session.loop.terminating

def step (session : Session) : SessionEvent → Option Session
  | .run => (session.loop.step .run).map fun loop => { session with loop }
  | .call =>
    if session.called then none
    else (operation? session.loop).map fun operation =>
      { session with called := true, engine := session.engine.enqueue loopTicket operation }
  | .resume =>
    if !session.called then none
    else do
      let failure ← session.engine.answer? loopTicket
      let input ← answerInput? session.loop failure
      let loop ← session.loop.step input
      some ({ session with
        loop, called := false, engine := session.engine.takeAnswer loopTicket }).settleWatcher
  | .pickChange =>
    if !session.watching then none
    else do
      let changes ← session.changes.take
      let loop ← session.loop.step .changed
      some { session with loop, changes }
  | .noticeClosed =>
    if session.watching && session.changes.ended then
      (session.loop.step .watcherClosed).map fun loop =>
        { session with loop, watching := false, changes := session.changes.abandon }
    else none
  | .receive =>
    match session.queue with
    | [] => none
    | event :: _ => (session.loop.step (.stopped event)).map fun loop =>
      { session with
        loop
        engine := { session.engine with
          channels := session.engine.channels.modify stopChannel fun channel =>
            channel.tryReceive.2 } }
  | .leave => (session.loop.step .leave).map fun loop => ({ session with loop }).settleWatcher
  | .change =>
    match session.changes.offer with
    | (.accepted, changes) => some { session with changes }
    | _ => none
  | .closeWatcher =>
    if session.changes.senderOpen then some { session with changes := session.changes.close } else none
  | .interrupt =>
    (session.loop.step .interrupt).map fun loop =>
      if session.interruptWins then { session with loop, removal := .asked }
      else { session with loop }
  | .callRemoval =>
    match session.removal with
    | .asked => some { session with
        removal := .called, engine := session.engine.enqueue removalTicket (.remove stopChannel) }
    | _ => none
  | .endRemoval =>
    match session.removal, session.engine.answer? removalTicket with
    | .called, some _ => some { session with
        removal := .done, engine := session.engine.takeAnswer removalTicket }
    | _, _ => none
  | .engine event => (session.engine.step event).map fun engine => { session with engine }

end Session

end MockKeeper
