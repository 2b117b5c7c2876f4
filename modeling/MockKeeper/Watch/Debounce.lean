import MockKeeper.Watch.Stream

/-! Changes close together are reported once. A debouncer takes one change, sleeps for its
window, forgets what came meanwhile, and reports. Both of its streams are bounded: a
change that finds the first one full is covered by those in it, and a report that finds
the second one full by the report that waits there. -/

namespace MockKeeper

inductive DebouncePoint
  | idle
  | asleep (wake : Nat)
  | stopped
deriving DecidableEq, Repr

structure Debouncer where
  window : Nat
  raw : ChangeStream := { capacity := 64 }
  point : DebouncePoint := .idle
deriving DecidableEq, Repr

namespace Debouncer

/-- A change is made. It may find no room. -/
def change (debouncer : Debouncer) : Debouncer :=
  { debouncer with raw := debouncer.raw.offer.2 }

def closeSource (debouncer : Debouncer) : Debouncer :=
  { debouncer with raw := debouncer.raw.close }

/-- The debouncer goes away, and with it its ends of both streams. -/
def stop (debouncer : Debouncer) (reports : ChangeStream) : Debouncer × ChangeStream :=
  ({ debouncer with raw := debouncer.raw.abandon, point := .stopped }, reports.close)

def wake? (debouncer : Debouncer) : Option Nat :=
  match debouncer.point with
  | .asleep wake => some wake
  | _ => none

/-- One thing it does at a moment. There is no result where it has to wait. -/
def proceed (debouncer : Debouncer) (reports : ChangeStream) (now : Nat) :
    Option (Debouncer × ChangeStream) :=
  match debouncer.point with
  | .idle =>
    match debouncer.raw.take with
    | some raw => some ({ debouncer with raw, point := .asleep (now + debouncer.window) }, reports)
    | none => if debouncer.raw.ended then some (debouncer.stop reports) else none
  | .asleep wake =>
    if wake ≤ now then
      match reports.offer with
      | (.closed, _) => some (debouncer.stop reports)
      | (_, reports) => some ({ debouncer with raw := debouncer.raw.drain, point := .idle }, reports)
    else none
  | .stopped => none

end Debouncer

structure Watcher where
  debouncer : Debouncer
  reports : ChangeStream := { capacity := 1 }
  now : Nat := 0
deriving DecidableEq, Repr

inductive WatcherEvent
  | change
  | closeSource
  | proceed
  | receive
  | abandon
  | elapse (span : Nat)
deriving DecidableEq, Repr

namespace Watcher

/-- Whether time can pass: nothing can be done now, and no sleep ends meanwhile. -/
def idleFor (watcher : Watcher) (span : Nat) : Bool :=
  (watcher.debouncer.proceed watcher.reports watcher.now).isNone &&
    (watcher.debouncer.wake?).all fun wake => watcher.now + span ≤ wake

def step (watcher : Watcher) : WatcherEvent → Option Watcher
  | .change => some { watcher with debouncer := watcher.debouncer.change }
  | .closeSource => some { watcher with debouncer := watcher.debouncer.closeSource }
  | .proceed =>
    (watcher.debouncer.proceed watcher.reports watcher.now).map fun (debouncer, reports) =>
      { watcher with debouncer, reports }
  | .receive => watcher.reports.take.map fun reports => { watcher with reports }
  | .abandon => some { watcher with reports := watcher.reports.abandon }
  | .elapse span =>
    if watcher.idleFor span then some { watcher with now := watcher.now + span } else none

end Watcher

end MockKeeper
