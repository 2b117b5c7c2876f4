import MockKeeper.Engine.Error

/-! Reports that engine instances stopped. A channel queues the first report of
an instance and drops repeats, so a stop seen by several watchers is handled
once. Only the most recent ids are remembered. -/

namespace MockKeeper

/-- An engine instance stopped; `error` is set when nobody asked for it. -/
structure StopEvent where
  id : String
  error : Option EngineError
deriving DecidableEq, Repr

def StopEvent.isError (event : StopEvent) : Bool := event.error.isSome

/-- The ids already reported, as a set and in the order of their arrival, and
the events nobody has received yet. -/
structure StopChannel where
  delivered : List String := []
  deliveredOrder : List String := []
  queue : List StopEvent := []
deriving DecidableEq, Repr

namespace StopChannel

def historyLimit : Nat := 64

/-- Remembers an id and forgets the oldest one past the limit. There is no
result when the id is already known. -/
def remember (channel : StopChannel) (id : String) : Option StopChannel :=
  if id ∈ channel.delivered then none
  else
    let delivered := id :: channel.delivered
    let order := channel.deliveredOrder ++ [id]
    if order.length > historyLimit then
      match order with
      | oldest :: rest =>
        some { channel with delivered := delivered.erase oldest, deliveredOrder := rest }
      | [] => some { channel with delivered := delivered, deliveredOrder := [] }
    else some { channel with delivered := delivered, deliveredOrder := order }

/-- Queues an event unless a stop of the same instance is remembered, and says
whether it was queued. -/
def notify (channel : StopChannel) (event : StopEvent) : Bool × StopChannel :=
  match channel.remember event.id with
  | none => (false, channel)
  | some known => (true, { known with queue := known.queue ++ [event] })

def tryReceive (channel : StopChannel) : Option StopEvent × StopChannel :=
  match channel.queue with
  | [] => (none, channel)
  | event :: rest => (some event, { channel with queue := rest })

def reset (_channel : StopChannel) : StopChannel := {}

def pending (channel : StopChannel) : Nat := channel.queue.length

def drain (channel : StopChannel) : List StopEvent × StopChannel :=
  (channel.queue, { channel with queue := [] })

end StopChannel

end MockKeeper
