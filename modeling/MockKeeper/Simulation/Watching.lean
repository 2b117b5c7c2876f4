import MockKeeper.Text.Elapsed
import MockKeeper.Watch.Debounce
import MockKeeper.Watch.Places

/-! A watch on a simulated tree of files, followed in time. The debouncer acts as soon as
it can, and time passes only while somebody waits. -/

namespace MockKeeper

namespace Watcher

def patience : Nat := 8

def settleWithin : Nat → Watcher → Watcher
  | 0, watcher => watcher
  | fuel + 1, watcher =>
    match watcher.step .proceed with
    | none => watcher
    | some after => settleWithin fuel after

def settle (watcher : Watcher) : Watcher := watcher.settleWithin patience

/-- Time passes up to the end of a sleep, if that is no later than a moment. After that
end the debouncer has nothing left to sleep for. -/
def wakeBy (watcher : Watcher) (moment : Nat) : Watcher :=
  match watcher.debouncer.wake? with
  | some wake => if wake ≤ moment then settle { watcher with now := max watcher.now wake } else watcher
  | none => watcher

def restUntil (watcher : Watcher) (moment : Nat) : Watcher :=
  let rested := watcher.settle.wakeBy moment
  { rested with now := max rested.now moment }

def waitUntil (watcher : Watcher) (moment : Nat) : Watcher :=
  let settled := watcher.settle
  if 0 < settled.reports.waiting then settled
  else
    let woken := settled.wakeBy moment
    if 0 < woken.reports.waiting then woken else woken.restUntil moment

def takeReport (watcher : Watcher) : Bool × Watcher :=
  match watcher.step .receive with
  | some after => (true, after)
  | none => (false, watcher)

end Watcher

namespace Simulation

structure Watching where
  tree : FileTree
  places : List (List Name)
  watcher : Watcher

namespace Watching

def start (tree : FileTree) (path : Bytes) (window : Elapsed) : Except FileError Watching :=
  (tree.watchedPlaces path).map fun places =>
    { tree, places, watcher := { debouncer := { window := window.nanoseconds } } }

def act (world : Watching) (action : FileTree.Action) : Bool × Watching :=
  match world.tree.perform action with
  | none => (false, world)
  | some changed =>
    let seen := changed.seenBy world.places
    let told := (List.range seen).foldl (fun watcher _ =>
      { watcher with debouncer := watcher.debouncer.change }) world.watcher
    (true, { tree := changed.tree, places := changed.carry world.places, watcher := told })

/-- How long it takes to be sure that nothing is reported. -/
def silence (world : Watching) : Nat := 2 * world.watcher.debouncer.window

def changed (world : Watching) : Bool × Watching :=
  let settled := world.watcher.settle
  let (reported, watcher) :=
    (settled.waitUntil ((settled.debouncer.wake?).getD settled.now)).takeReport
  (reported, { world with watcher })

def quiet (world : Watching) : Bool × Watching :=
  let (reported, watcher) := (world.watcher.waitUntil (world.watcher.now + world.silence)).takeReport
  (!reported, { world with watcher })

def pass (world : Watching) : Watching :=
  { world with watcher := world.watcher.restUntil (world.watcher.now + world.silence) }

end Watching

end Simulation

end MockKeeper
