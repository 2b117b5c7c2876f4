import MockKeeper.Proofs.EngineRoster
import MockKeeper.Proofs.EngineCalls
import MockKeeper.Proofs.Traces

/-! Runs of an engine that anyone may call. Callers join the queue for the lock in any order,
take their answers when they like, and receive from the channels beside each other. -/

namespace MockKeeper

inductive EngineInput
  | call (ticket : Ticket) (operation : Operation)
  | take (ticket : Ticket)
  | receive (channel : Nat)
  | event (event : EngineEvent)

namespace Engine

/-- One input. There is no result where the ticket is still in use, no answer is there, or
the event cannot happen. -/
def act (engine : Engine) : EngineInput → Option Engine
  | .call ticket operation =>
    if ticket ∈ engine.tickets then none else some (engine.enqueue ticket operation)
  | .take ticket => (engine.answer? ticket).map fun _ => engine.takeAnswer ticket
  | .receive channel => some { engine with
      channels := engine.channels.modify channel fun queue => queue.tryReceive.2 }
  | .event event => engine.step event

abbrev Turn := MockKeeper.Turn Engine EngineInput

def run (engine : Engine) (inputs : List EngineInput) : Option Engine := runAll act engine inputs

def trace (engine : Engine) (inputs : List EngineInput) : List Turn := turns act engine inputs

theorem trace_cons {initial next : Engine} {input : EngineInput} (acted : initial.act input = some next)
    (rest : List EngineInput) :
    initial.trace (input :: rest) = ⟨initial, input, next⟩ :: next.trace rest :=
  turns_cons acted rest

def Turn.served (turn : Turn) : Option Operation :=
  match turn.input with
  | .event (.begin position) => (turn.before.waiting[position]?).map Prod.snd
  | _ => none

/-- The instance that a call finds to stop: a restart takes it running or not. -/
def target (engine : Engine) : Operation → Option Nat
  | .restart _ => engine.current
  | .remove _ => engine.runningCurrent
  | .start | .notifyOnStop _ => none

/-- An engine that was not called yet. What its backend is called, its port, its channels and
whether the backend has one-off work are left open. -/
structure Unused (engine : Engine) : Prop where
  instances : engine.instances = []
  current : engine.current = none
  removed : engine.removed = false
  busy : engine.busy = none
  waiting : engine.waiting = []
  answers : engine.answers = []
  calls : engine.calls = []

def unused : Engine := { title := "mock", port := 8080, channels := [{}], prepared := true }

theorem unused_unused : unused.Unused := by
  constructor <;> rfl

def asks (ticket : Ticket) (operation : Operation) : List EngineInput :=
  [.call ticket operation, .event (.begin 0)]

def launches (ticket : Ticket) (id : String) : List EngineInput :=
  asks ticket .start ++ [.event (.launched (.ok { id }))]

def ends (index : Nat) (outcome : Outcome) : List EngineInput :=
  [.event (.ended index outcome), .event (.examine index)]

inductive Acts (engine : Engine) : EngineInput → Engine → Prop
  | called {ticket : Ticket} {operation : Operation} (free : ticket ∉ engine.tickets) :
      Acts engine (.call ticket operation) (engine.enqueue ticket operation)
  | took {ticket : Ticket} {failure : Option EngineError}
      (answered : engine.answer? ticket = some failure) :
      Acts engine (.take ticket) (engine.takeAnswer ticket)
  | received {channel : Nat} {channels : List StopChannel} :
      Acts engine (.receive channel) { engine with channels }
  | moved {event : EngineEvent} {after : Engine} (moved : engine.Moves event after) :
      Acts engine (.event event) after

theorem act_acts {engine after : Engine} {input : EngineInput}
    (acted : engine.act input = some after) : engine.Acts input after := by
  cases input with
  | call ticket operation =>
    simp only [act] at acted
    split at acted
    next => cases acted
    next free =>
      cases acted
      exact .called free
  | take ticket =>
    obtain ⟨failure, answered, rfl⟩ := Option.map_eq_some_iff.mp acted
    exact .took answered
  | receive channel =>
    cases acted
    exact .received
  | event event => exact .moved (step_moves acted)

theorem run_induction (holds : Engine → Prop)
    (kept : ∀ {before after input}, holds before → before.Acts input after → holds after)
    {initial final : Engine} {inputs : List EngineInput} (ran : initial.run inputs = some final)
    (first : holds initial) : holds final :=
  runAll_keeps (fun _ _ _ acted held => kept held (act_acts acted)) ran first

theorem Unused.steady {engine : Engine} (unused : engine.Unused) : engine.Steady := by
  refine ⟨?_, ?_, ?_, ?_, ?_⟩
  · simp [unused.instances]
  · simp [unused.current]
  · simp [unused.instances]
  · simp [unused.busy]
  · simp [unused.current]

theorem Acts.steady {engine after : Engine} {input : EngineInput} (acts : engine.Acts input after)
    (steady : engine.Steady) : after.Steady := by
  cases acts with
  | called | took | received => exact steady.same rfl rfl rfl rfl
  | moved moved => exact moved.steady steady

theorem run_steady {initial final : Engine} {inputs : List EngineInput}
    (ran : initial.run inputs = some final) (steady : initial.Steady) : final.Steady :=
  run_induction Steady (fun steady acts => acts.steady steady) ran steady

theorem Acts.evolves {engine after : Engine} {input : EngineInput} (acts : engine.Acts input after) :
    Evolves engine.instances after.instances := by
  cases acts with
  | called | took | received => exact .refl _
  | moved moved => exact moved.evolves

theorem run_evolves {initial final : Engine} {inputs : List EngineInput}
    (ran : initial.run inputs = some final) : Evolves initial.instances final.instances := by
  refine run_induction (fun engine => Evolves initial.instances engine.instances) ?_ ran (.refl _)
  exact fun evolves acts => evolves.trans acts.evolves

theorem Acts.launched_le {engine after : Engine} {input : EngineInput} (acts : engine.Acts input after) :
    engine.instances.length ≤ after.instances.length :=
  acts.evolves.length_le

theorem run_current {initial final : Engine} {inputs : List EngineInput}
    (ran : initial.run inputs = some final) {index : Nat} (held : final.current = some index) :
    initial.current = some index ∨ initial.instances.length ≤ index := by
  induction inputs generalizing initial with
  | nil =>
    cases ran
    exact .inl held
  | cons input rest ih =>
    obtain ⟨next, acted, ran⟩ := runAll_cons_eq_some.mp ran
    have acts := act_acts acted
    have launched := acts.launched_le
    rcases ih ran with before | beyond
    · cases acts with
      | called | took | received => exact .inl before
      | moved moved => exact moved.current before
    · exact .inr (by omega)

end Engine

end MockKeeper
