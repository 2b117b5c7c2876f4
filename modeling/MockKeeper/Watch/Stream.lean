/-! A bounded stream of changes. What changed is not told, only that something
did, so a stream is a count of waiting changes. -/

namespace MockKeeper

/-- Changes that wait to be received, and which ends are still open. -/
structure ChangeStream where
  capacity : Nat
  waiting : Nat := 0
  senderOpen : Bool := true
  receiverOpen : Bool := true
deriving DecidableEq, Repr

inductive Offer
  | accepted
  | full
  | closed
deriving DecidableEq, Repr

namespace ChangeStream

/-- Offers one change without waiting for room. -/
def offer (stream : ChangeStream) : Offer × ChangeStream :=
  if !stream.receiverOpen then (.closed, stream)
  else if stream.waiting < stream.capacity then
    (.accepted, { stream with waiting := stream.waiting + 1 })
  else (.full, stream)

def take (stream : ChangeStream) : Option ChangeStream :=
  if 0 < stream.waiting then some { stream with waiting := stream.waiting - 1 } else none

def drain (stream : ChangeStream) : ChangeStream := { stream with waiting := 0 }

def ended (stream : ChangeStream) : Bool := !stream.senderOpen && stream.waiting == 0

/-- The receiver goes away, and what waits for it with it. -/
def abandon (stream : ChangeStream) : ChangeStream :=
  { stream with waiting := 0, receiverOpen := false }

def close (stream : ChangeStream) : ChangeStream := { stream with senderOpen := false }

end ChangeStream

end MockKeeper
