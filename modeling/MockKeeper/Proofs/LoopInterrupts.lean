import MockKeeper.Proofs.LoopLedger

/-! The control loop with everyone who interrupts it: calls through any number of handles, and
tasks that make a call at each signal. A call asks for the flag that ends the loop, and has the
engine removed if it was the first to. -/

namespace MockKeeper

namespace ControlLoop

theorem operation?_ne_remove (loop : ControlLoop) (channel : Nat) :
    Session.operation? loop ≠ some (.remove channel) := by
  unfold Session.operation?
  split <;> simp

/-- By itself the loop takes the flag where it ends, and nowhere else. -/
theorem leaves_of_takes {loop after : ControlLoop} {input : LoopInput} (stepped : loop.step input = some after)
    (own : input ≠ .interrupt) (going : loop.terminating = false) (ending : after.terminating = true) :
    input = .leave := by
  cases step_steps stepped with
  | left => rfl
  | interrupted | again => exact absurd rfl own
  | run | started | unstarted | armed | ignored | changed | closed => cases going.symm.trans ending
  | @settled event | @crashed event | @last event =>
    obtain ⟨log, summary, equal, -⟩ := reportCrash_eq loop event
    rw [equal] at ending
    cases going.symm.trans ending
  | @restarted failure | @recovered failure => cases failure <;> cases going.symm.trans ending

theorem returned_stays {loop after : ControlLoop} {input : LoopInput} (stepped : loop.step input = some after)
    {result : Except EngineError Summary} (returned : loop.point = .returned result) :
    after.point = .returned result := by
  cases step_steps stepped with
  | interrupted | again => exact returned
  | run stands | started stands | unstarted stands | armed stands | ignored stands | changed stands
  | closed stands | settled stands | crashed stands | last stands | restarted stands | recovered stands
  | left stands => cases stands.symm.trans returned

theorem returns_ok {loop after : ControlLoop} {input : LoopInput} (stepped : loop.step input = some after)
    (own : input ≠ .interrupt) {summary : Summary} (returned : after.point = .returned (.ok summary)) :
    (∃ failure, loop.point = .leaving failure) ∧ summary.interrupted = loop.terminating ∧
      after.terminating = true := by
  cases step_steps stepped with
  | interrupted | again => exact absurd rfl own
  | @left failure stands =>
    cases failure with
    | none =>
      cases returned
      exact ⟨⟨none, stands⟩, rfl, rfl⟩
    | some error => cases returned
  | run | started | unstarted | armed | ignored | changed | closed => cases returned
  | settled | crashed | last => cases returned
  | @restarted failure | @recovered failure => cases failure <;> cases returned

/-- The first start has succeeded. Such a loop has the flag set before it returns. -/
structure Underway (loop : ControlLoop) : Prop where
  ready : loop.point ≠ .ready
  starting : loop.point ≠ .starting
  flagged : ∀ result, loop.point = .returned result → loop.terminating = true

theorem step_underway {loop after : ControlLoop} {input : LoopInput} (stepped : loop.step input = some after)
    (underway : loop.Underway) : after.Underway := by
  cases step_steps stepped with
  | run stands => exact absurd stands underway.ready
  | started stands | unstarted stands => exact absurd stands underway.starting
  | armed | ignored | changed | closed | settled | crashed | last => exact ⟨nofun, nofun, nofun⟩
  | @restarted failure | @recovered failure => cases failure <;> exact ⟨nofun, nofun, nofun⟩
  | left => exact ⟨nofun, nofun, fun _ _ => rfl⟩
  | interrupted => exact ⟨underway.ready, underway.starting, fun _ _ => rfl⟩
  | again => exact underway

end ControlLoop

inductive Interrupt
  | made
  /-- It took the flag, and is to have the engine removed. -/
  | accepted
  | removing
  | answered (accepted : Bool)
deriving DecidableEq

namespace Interrupt

def tookFlag : Interrupt → Bool
  | .accepted | .removing | .answered true => true
  | .made | .answered false => false

def askedRemoval : Interrupt → Bool
  | .removing | .answered true => true
  | .made | .accepted | .answered false => false

theorem tookFlag_of_askedRemoval {interrupt : Interrupt} (asked : interrupt.askedRemoval = true) :
    interrupt.tookFlag = true := by
  cases interrupt with
  | made | accepted => cases asked
  | removing => rfl
  | answered accepted => cases accepted <;> first | rfl | cases asked

end Interrupt

structure InterruptedLoop where
  loop : ControlLoop
  interrupts : List Interrupt := []
  /-- Tasks that interrupt the loop at each signal, and the call that each of them waits for. -/
  traps : List (Option Nat) := []

/-- What the loop and those who interrupt it can do. Calls and tasks are known by their number. -/
inductive InterruptedInput
  | loop (input : LoopInput)
  | interrupt
  | trap
  | signal (trap : Nat)
  | rearm (trap : Nat)
  | ask (call : Nat)
  | remove (call : Nat)
  | removed (call : Nat)

namespace InterruptedLoop

def move (state : InterruptedLoop) (call : Nat) (interrupt : Interrupt) : InterruptedLoop :=
  { state with interrupts := state.interrupts.modify call fun _ => interrupt }

/-- One input. There is no result where the loop does not wait for it, a task has its call still
under way, or a call is not that far. -/
def step (state : InterruptedLoop) : InterruptedInput → Option InterruptedLoop
  | .loop .interrupt => none
  | .loop input => (state.loop.step input).map fun loop => { state with loop }
  | .interrupt => some { state with interrupts := state.interrupts ++ [.made] }
  | .trap => some { state with traps := state.traps ++ [none] }
  | .signal trap =>
    match state.traps[trap]? with
    | some none => some { state with
        interrupts := state.interrupts ++ [.made]
        traps := state.traps.set trap (some state.interrupts.length) }
    | _ => none
  | .rearm trap =>
    match (state.traps[trap]?).join.bind (state.interrupts[·]?) with
    | some (.answered _) => some { state with traps := state.traps.set trap none }
    | _ => none
  | .ask call =>
    match state.interrupts[call]? with
    | some .made => (state.loop.step .interrupt).map fun loop =>
        { state with loop }.move call (if state.loop.terminating then .answered false else .accepted)
    | _ => none
  | .remove call =>
    match state.interrupts[call]? with
    | some .accepted => some (state.move call .removing)
    | _ => none
  | .removed call =>
    match state.interrupts[call]? with
    | some .removing => some (state.move call (.answered true))
    | _ => none

abbrev Turn := MockKeeper.Turn InterruptedLoop InterruptedInput

def run (state : InterruptedLoop) (inputs : List InterruptedInput) : Option InterruptedLoop :=
  runAll step state inputs

def trace (state : InterruptedLoop) (inputs : List InterruptedInput) : List Turn := turns step state inputs

structure Fresh (state : InterruptedLoop) : Prop where
  loop : state.loop.Fresh
  interrupts : state.interrupts = []

namespace Turn

/-- The engine call that the loop or a call that interrupts it makes. -/
def asks (turn : Turn) : Option Operation :=
  match turn.input with
  | .loop _ => Session.operation? turn.after.loop
  | .remove _ => some (.remove Session.stopChannel)
  | _ => none

def removes (turn : Turn) : Bool := decide (turn.asks = some (.remove Session.stopChannel))

def takesFlag (turn : Turn) : Bool := !turn.before.loop.terminating && turn.after.loop.terminating

def accepts (turn : Turn) : Bool :=
  match turn.input with
  | .ask _ => turn.takesFlag
  | _ => false

def endsFirst (turn : Turn) : Bool :=
  match turn.input with
  | .loop .leave => turn.takesFlag
  | _ => false

end Turn

inductive Steps (state : InterruptedLoop) : InterruptedInput → InterruptedLoop → Prop
  | moved {input : LoopInput} {loop : ControlLoop} (own : input ≠ .interrupt)
      (stepped : state.loop.step input = some loop) : Steps state (.loop input) { state with loop }
  | called : Steps state .interrupt { state with interrupts := state.interrupts ++ [.made] }
  | trapped : Steps state .trap { state with traps := state.traps ++ [none] }
  | signalled {trap : Nat} {traps : List (Option Nat)} :
      Steps state (.signal trap) { state with interrupts := state.interrupts ++ [.made], traps }
  | rearmed {trap : Nat} {traps : List (Option Nat)} : Steps state (.rearm trap) { state with traps }
  | accepted {call : Nat} {line : LogLine} (made : state.interrupts[call]? = some .made)
      (going : state.loop.terminating = false)
      (stepped : state.loop.step .interrupt = some { state.loop.note line with terminating := true }) :
      Steps state (.ask call)
        ({ state with loop := { state.loop.note line with terminating := true } }.move call .accepted)
  | refused {call : Nat} (made : state.interrupts[call]? = some .made)
      (ending : state.loop.terminating = true) :
      Steps state (.ask call) (state.move call (.answered false))
  | removing {call : Nat} (accepted : state.interrupts[call]? = some .accepted) :
      Steps state (.remove call) (state.move call .removing)
  | removed {call : Nat} (removing : state.interrupts[call]? = some .removing) :
      Steps state (.removed call) (state.move call (.answered true))

theorem ask_step {state : InterruptedLoop} {call : Nat} (made : state.interrupts[call]? = some .made) :
    ∃ after, state.step (.ask call) = some after ∧ state.Steps (.ask call) after := by
  cases ending : state.loop.terminating with
  | true =>
    refine ⟨_, ?_, .refused made ending⟩
    simp [step, made, ControlLoop.step, ending]
  | false =>
    have taken : state.loop.step .interrupt =
        some { state.loop.note (.info "stopping mock engine") with terminating := true } := by
      simp [ControlLoop.step, ending]
    exact ⟨_, by simp [step, made, taken, ending], .accepted made ending taken⟩

theorem step_steps {state after : InterruptedLoop} {input : InterruptedInput}
    (stepped : state.step input = some after) : state.Steps input after := by
  cases input with
  | loop input =>
    cases input with
    | interrupt => cases stepped
    | _ =>
      obtain ⟨loop, moved, rfl⟩ := Option.map_eq_some_iff.mp stepped
      exact .moved nofun moved
  | interrupt =>
    cases stepped
    exact .called
  | trap =>
    cases stepped
    exact .trapped
  | signal trap =>
    simp only [step] at stepped
    split at stepped <;> cases stepped
    exact .signalled
  | rearm trap =>
    simp only [step] at stepped
    split at stepped <;> cases stepped
    exact .rearmed
  | ask call =>
    cases made : state.interrupts[call]? with
    | none => simp [step, made] at stepped
    | some interrupt =>
      cases interrupt with
      | made =>
        obtain ⟨later, same, steps⟩ := ask_step made
        cases stepped.symm.trans same
        exact steps
      | accepted | removing | answered => simp [step, made] at stepped
  | remove call =>
    simp only [step] at stepped
    split at stepped <;> cases stepped
    next accepted => exact .removing accepted
  | removed call =>
    simp only [step] at stepped
    split at stepped <;> cases stepped
    next removing => exact .removed removing

theorem getElem?_move (state : InterruptedLoop) {call : Nat} {old : Interrupt}
    (found : state.interrupts[call]? = some old) (interrupt : Interrupt) (other : Nat) :
    (state.move call interrupt).interrupts[other]? =
      if call = other then some interrupt else state.interrupts[other]? := by
  unfold move
  rw [List.getElem?_modify]
  split
  next same => simp [← same, found]
  next => simp

theorem getElem?_made (interrupts : List Interrupt) (call : Nat) :
    (interrupts ++ [Interrupt.made])[call]? = interrupts[call]? ∨
      interrupts[call]? = none ∧ (interrupts ++ [Interrupt.made])[call]? = some .made := by
  rcases Nat.lt_trichotomy call interrupts.length with inside | rfl | outside
  · exact .inl (List.getElem?_append_left inside)
  · exact .inr ⟨List.getElem?_eq_none (Nat.le_refl _), List.getElem?_concat_length⟩
  · left
    have short : (interrupts ++ [Interrupt.made]).length ≤ call := by
      rw [List.length_append, List.length_singleton]
      exact outside
    rw [List.getElem?_eq_none (Nat.le_of_lt outside), List.getElem?_eq_none short]

variable {initial final : InterruptedLoop} {inputs : List InterruptedInput}

theorem loop_steps {state after : InterruptedLoop} {input : InterruptedInput}
    (stepped : state.step input = some after) :
    after.loop = state.loop ∨ ∃ input, state.loop.step input = some after.loop := by
  cases step_steps stepped with
  | moved own moved => exact .inr ⟨_, moved⟩
  | accepted made going asked => exact .inr ⟨_, asked⟩
  | called | trapped | signalled | rearmed | refused | removing | removed => exact .inl rfl

theorem run_keeps {holds : ControlLoop → Prop}
    (kept : ∀ {loop after : ControlLoop} {input : LoopInput}, loop.step input = some after → holds loop → holds after)
    (ran : initial.run inputs = some final) (first : holds initial.loop) : holds final.loop := by
  refine runAll_keeps (motive := fun state => holds state.loop) ?_ ran first
  intro before input after stepped held
  rcases loop_steps stepped with same | ⟨input, stepped⟩
  · rw [same]
    exact held
  · exact kept stepped held

theorem underway_of_started (ran : initial.run inputs = some final) (started : .loop (.started none) ∈ inputs) :
    final.loop.Underway := by
  induction inputs generalizing initial with
  | nil => cases started
  | cons input rest ih =>
    obtain ⟨next, stepped, onwards⟩ := runAll_cons_eq_some.mp ran
    rcases List.mem_cons.mp started with rfl | later
    · cases step_steps stepped with
      | moved own moved =>
        cases ControlLoop.step_steps moved with
        | started => exact run_keeps ControlLoop.step_underway onwards ⟨nofun, nofun, nofun⟩
    · exact ih onwards later

end InterruptedLoop

end MockKeeper
