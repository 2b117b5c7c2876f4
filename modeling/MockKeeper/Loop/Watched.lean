import MockKeeper.Loop.Session
import MockKeeper.Watch.Debounce

/-! A session whose changes come from a watched directory: what changes there goes through
a debouncer, and what the debouncer reports waits for the loop. -/

namespace MockKeeper

structure WatchedSession where
  session : Session
  debouncer : Debouncer
  now : Nat := 0

inductive WatchedEvent
  | session (event : SessionEvent)
  | rawChange
  | debounce
  | elapse (span : Nat)

namespace WatchedSession

/-- Whether a session can make an event by itself. Changes, and the end of them, are made
by the debouncer. -/
def isOwn : SessionEvent → Bool
  | .change | .closeWatcher => false
  | _ => true

def step (watched : WatchedSession) : WatchedEvent → Option WatchedSession
  | .session event =>
    if isOwn event then
      (watched.session.step event).map fun session => { watched with session }
    else none
  | .rawChange => some { watched with debouncer := watched.debouncer.change }
  | .debounce =>
    (watched.debouncer.proceed watched.session.changes watched.now).map
      fun (debouncer, changes) =>
        { watched with debouncer, session := { watched.session with changes } }
  | .elapse span => some { watched with now := watched.now + span }

end WatchedSession

end MockKeeper
