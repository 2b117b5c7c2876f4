import MockKeeper.Loop.Session

/-! Whose turn it is in a session, when everything that can proceed does so: first the
interrupt that won, then the loop. Stops come before changes. -/

namespace MockKeeper.Session

def turn? (session : Session) : Option SessionEvent :=
  if session.removal == .asked then some .callRemoval
  else if session.removal == .called && (session.engine.answer? removalTicket).isSome then
    some .endRemoval
  else
    match session.loop.point with
    | .ready | .returned _ => none
    | .leaving _ => some .leave
    | .awaiting =>
      if !session.queue.isEmpty then some .receive
      else if session.watching && 0 < session.changes.waiting then some .pickChange
      else if session.watching && session.changes.ended then some .noticeClosed
      else none
    | _ =>
      if !session.called then some .call
      else if (session.engine.answer? loopTicket).isSome then some .resume
      else none

def removalSettled (session : Session) : Bool :=
  match session.removal with
  | .asked | .called => false
  | _ => true

/-- The lines of the loop and the engine that were written since an earlier state. -/
def linesSince (session before : Session) : Log :=
  session.loop.log.drop before.loop.log.length ++
    session.engine.log.drop before.engine.log.length

end MockKeeper.Session
