import MockKeeper.Stop.Channel

/-! A stop channel together with the receivers that wait on it. A receiver
registers before it looks at the queue, so an event queued afterwards wakes it;
woken, it looks again and registers anew. A poll is one step here, and so is a
report of a stop, as if nobody came between registering and looking, or between
queueing and waking. -/

namespace MockKeeper

inductive Receiver
  /-- Not polled yet, so not registered. -/
  | created
  /-- Registered; `woken` once an event was queued since the last poll. -/
  | waiting (woken : Bool)
  | finished
deriving DecidableEq, Repr

structure StopStation where
  channel : StopChannel := {}
  receivers : List (String × Receiver) := []
deriving DecidableEq, Repr

inductive StationCall
  | notify (event : StopEvent)
  | tryReceive
  | reset
  | create (name : String)
  | poll (name : String)
  | drop (name : String)
deriving DecidableEq, Repr

inductive StationAnswer
  /-- Whether an event was queued, or a receiver of that name was there. -/
  | flag (value : Bool)
  | taken (event : Option StopEvent)
  | received (event : StopEvent)
  | pending
  | finished
  | unknown
  | unit
deriving DecidableEq, Repr

def Receiver.wake : Receiver → Receiver
  | .waiting _ => .waiting true
  | other => other

namespace StopStation

def receiver? (station : StopStation) (name : String) : Option Receiver :=
  station.receivers.lookup name

/-- Removes the receiver of a name; the queue is left alone. -/
def forget (station : StopStation) (name : String) : StopStation :=
  { station with receivers := station.receivers.filter fun entry => entry.1 != name }

def place (station : StopStation) (name : String) (state : Receiver) : StopStation :=
  { station with
    receivers := station.receivers.map fun entry =>
      if entry.1 = name then (name, state) else entry }

/-- Registers a receiver, then looks at the queue. -/
def look (station : StopStation) (name : String) : StationAnswer × StopStation :=
  match station.channel.tryReceive with
  | (some event, channel) => (.received event, { station with channel }.place name .finished)
  | (none, _) => (.pending, station.place name (.waiting false))

/-- Polls a receiver. One that waits and was not woken stays as it is. -/
def poll (station : StopStation) (name : String) : StationAnswer × StopStation :=
  match station.receiver? name with
  | none => (.unknown, station)
  | some .finished => (.finished, station)
  | some (.waiting false) => (.pending, station)
  | some _ => station.look name

/-- Queues an event and wakes every registered receiver if it was new. -/
def notify (station : StopStation) (event : StopEvent) : StationAnswer × StopStation :=
  match station.channel.notify event with
  | (true, channel) =>
    (.flag true,
      { channel, receivers := station.receivers.map fun entry => (entry.1, entry.2.wake) })
  | (false, _) => (.flag false, station)

def step (station : StopStation) : StationCall → StationAnswer × StopStation
  | .notify event => station.notify event
  | .tryReceive =>
    let (event, channel) := station.channel.tryReceive
    (.taken event, { station with channel })
  | .reset => (.unit, { station with channel := station.channel.reset })
  | .create name =>
    let cleared := station.forget name
    (.unit, { cleared with receivers := cleared.receivers ++ [(name, .created)] })
  | .poll name => station.poll name
  | .drop name => (.flag (station.receiver? name).isSome, station.forget name)

/-- Names of the unfinished receivers that were woken since their last poll. -/
def woken (station : StopStation) : List String :=
  station.receivers.filterMap fun (name, state) =>
    match state with
    | .waiting true => some name
    | _ => none

end StopStation

end MockKeeper
