import MockKeeper.Config.Names
import MockKeeper.Http.Message
import MockKeeper.Log
import MockKeeper.Text.Elapsed

/-! Waiting for a fresh engine to come up: its status is asked for again and again, with
a pause after each answer, until it is good or there is no time left for another. -/

namespace MockKeeper.Probe

inductive Answer
  | status (status : Status)
  /-- There was no connection, or no answer in time. -/
  | none
deriving DecidableEq, Repr

def Answer.isUp : Answer → Bool
  | .status code => code.isSuccess
  | .none => false

def interval : Nat := 500000000

theorem interval_pos : 0 < interval := by decide

structure Attempt where
  start : Nat
  stop : Nat
  answer : Answer
deriving DecidableEq, Repr

/-- How an engine answers the questions put to it, and how long each answer takes. -/
abbrev Responder := Nat → Answer × Elapsed

structure Means where
  unbuilt : Option String := none
  /-- The last moment that the clock can tell, counted from the first question. It counts
  seconds in 64 bits. -/
  latest : Nat := 0x7fffffffffffffff * 1000000000 + 999999999

inductive Ending
  | up
  | timeOver
  | unbuilt (reason : String)
  /-- A moment is beyond the clock. Whoever asks comes to grief over it. -/
  | clockOver
deriving DecidableEq, Repr

structure Inquiry where
  attempts : List Attempt
  ending : Ending
deriving DecidableEq, Repr

namespace Inquiry

def cameUp (inquiry : Inquiry) : Option Bool :=
  match inquiry.ending with
  | .up => some true
  | .timeOver | .unbuilt _ => some false
  | .clockOver => none

def after (earlier : Attempt) (inquiry : Inquiry) : Inquiry :=
  { inquiry with attempts := earlier :: inquiry.attempts }

end Inquiry

def asked (responder : Responder) (number start : Nat) : Attempt :=
  ⟨start, start + (responder number).2.nanoseconds, (responder number).1⟩

/-- Why no question follows this one, if none does: the engine is up, or another one cannot be
put before the deadline. -/
def ending? (latest deadline : Nat) (attempt : Attempt) : Option Ending :=
  if attempt.answer.isUp then some .up
  else if latest < attempt.stop + interval then some .clockOver
  else if deadline < attempt.stop + interval then some .timeOver
  else none

theorem ending?_eq_none {latest deadline : Nat} {attempt : Attempt} :
    ending? latest deadline attempt = none ↔
      attempt.answer.isUp = false ∧ attempt.stop + interval ≤ latest ∧ attempt.stop + interval ≤ deadline := by
  unfold ending?
  cases attempt.answer.isUp <;> grind

def pollFrom (latest : Nat) (responder : Responder) (deadline number now : Nat) : Inquiry :=
  let attempt := asked responder number now
  match _ended : ending? latest deadline attempt with
  | some ending => ⟨[attempt], ending⟩
  | none => (pollFrom latest responder deadline (number + 1) (attempt.stop + interval)).after attempt
  termination_by deadline - now
  decreasing_by
    have early : (asked responder number now).stop + interval ≤ deadline := (ending?_eq_none.mp _ended).2.2
    have later : now ≤ (asked responder number now).stop := Nat.le_add_right _ _
    have positive := interval_pos
    omega

/-- The questions put until the engine is up or the time is over. Without a client none is
put, nor where the clock does not reach the deadline. -/
def poll (means : Means) (responder : Responder) (timeout : Elapsed) : Inquiry :=
  match means.unbuilt with
  | some reason => ⟨[], .unbuilt reason⟩
  | none =>
    if means.latest < timeout.nanoseconds then ⟨[], .clockOver⟩
    else pollFrom means.latest responder timeout.nanoseconds 0 0

/-- The moment of the last question to a port where nobody listens, which is told at once. -/
def refusedUntil (timeout : Elapsed) : Nat := timeout.nanoseconds / interval * interval

/-- How long an answer is waited for, in nanoseconds. It is no shorter than the pause. -/
def patience : Nat := Nat.max interval 2000000000

def heard : Option (Answer × Elapsed) → Answer × Elapsed
  | some (answer, latency) =>
    if latency.nanoseconds ≤ patience then (answer, latency) else (.none, ⟨patience⟩)
  | none => (.none, ⟨patience⟩)

def logLine (port : Nat) (timeout : Elapsed) (up : Bool) : LogLine :=
  if up then .info ("mock engine up and running at " ++ engineUrl port)
  else .warn s!"mock engine not reachable on port {port} after {timeout.seconds}s"

def logLines (port : Nat) (timeout : Elapsed) (inquiry : Inquiry) : Log :=
  let unbuilt := match inquiry.ending with
    | .unbuilt reason => [.warn ("cannot build readiness probe client: " ++ reason)]
    | _ => []
  unbuilt ++ (inquiry.cameUp.map (logLine port timeout)).toList

end MockKeeper.Probe
