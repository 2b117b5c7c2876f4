import MockKeeper.Proofs.Lookup
import MockKeeper.Proofs.LoopInterrupts

/-! Who ends the control loop. The flag that says so is taken once, by one of the calls that
interrupt the loop or by the loop's own end, and only the call that took it has the engine
removed. -/

namespace MockKeeper.InterruptedLoop

/-- What the turns between two states have to do with the flag, and with the calls for it. -/
structure Books (before after : InterruptedLoop) (turns : List Turn) : Prop where
  flag : after.loop.terminating.toNat = before.loop.terminating.toNat + turns.countP Turn.takesFlag
  takers : turns.countP Turn.takesFlag = turns.countP Turn.accepts + turns.countP Turn.endsFirst
  winners : after.interrupts.countP Interrupt.tookFlag =
    before.interrupts.countP Interrupt.tookFlag + turns.countP Turn.accepts
  removals : after.interrupts.countP Interrupt.askedRemoval =
    before.interrupts.countP Interrupt.askedRemoval + turns.countP Turn.removes

namespace Books

theorem nil (state : InterruptedLoop) : Books state state [] := by
  constructor <;> simp

theorem cons {before next after : InterruptedLoop} {turn : Turn} {rest : List Turn}
    (first : Books before next [turn]) (last : Books next after rest) : Books before after (turn :: rest) := by
  have split (counts : Turn → Bool) : (turn :: rest).countP counts = [turn].countP counts + rest.countP counts := by
    rw [← List.countP_append]
    rfl
  constructor
  · rw [last.flag, first.flag, split, Nat.add_assoc]
  · have now := first.takers
    have later := last.takers
    simp only [split]
    omega
  · rw [last.winners, first.winners, split, Nat.add_assoc]
  · rw [last.removals, first.removals, split, Nat.add_assoc]

theorem quiet (turn : Turn) (flag : turn.after.loop.terminating = turn.before.loop.terminating)
    (winners : turn.after.interrupts.countP Interrupt.tookFlag = turn.before.interrupts.countP Interrupt.tookFlag)
    (removals : turn.after.interrupts.countP Interrupt.askedRemoval =
      turn.before.interrupts.countP Interrupt.askedRemoval)
    (asks : turn.removes = false) : Books turn.before turn.after [turn] := by
  have untaken : turn.takesFlag = false := by
    rw [Turn.takesFlag, flag, Bool.not_and_self]
  have accepts : turn.accepts = false := by
    unfold Turn.accepts
    split <;> first | exact untaken | rfl
  have ends : turn.endsFirst = false := by
    unfold Turn.endsFirst
    split <;> first | exact untaken | rfl
  constructor <;> simp only [countP_single, untaken, accepts, ends, asks, Bool.toNat_false]
  · rw [flag, Nat.add_zero]
  · exact winners
  · exact removals

end Books

theorem countP_move {state : InterruptedLoop} {call : Nat} {old : Interrupt}
    (found : state.interrupts[call]? = some old) (counts : Interrupt → Bool) (interrupt : Interrupt) :
    (state.move call interrupt).interrupts.countP counts + (counts old).toNat =
      state.interrupts.countP counts + (counts interrupt).toNat := by
  have counted := countP_modify counts (fun _ => interrupt) found
  cases before : counts old <;> cases after : counts interrupt <;>
    simpa [before, after, move] using counted

theorem countP_made (interrupts : List Interrupt) {counts : Interrupt → Bool} (none : counts .made = false) :
    (interrupts ++ [Interrupt.made]).countP counts = interrupts.countP counts := by
  rw [List.countP_append, countP_single, none]
  exact Nat.add_zero _

theorem step_books {state after : InterruptedLoop} {input : InterruptedInput}
    (stepped : state.step input = some after) : Books state after [⟨state, input, after⟩] := by
  cases step_steps stepped with
  | @moved input loop own moved =>
    have asks : Turn.removes ⟨state, .loop input, { state with loop }⟩ = false :=
      decide_eq_false (ControlLoop.operation?_ne_remove loop Session.stopChannel)
    cases going : state.loop.terminating with
    | true =>
      have ending := ControlLoop.terminating_stays moved going
      exact .quiet ⟨state, .loop input, { state with loop }⟩ (ending.trans going.symm) rfl rfl asks
    | false =>
      cases ending : loop.terminating with
      | false => exact .quiet ⟨state, .loop input, { state with loop }⟩ (ending.trans going.symm) rfl rfl asks
      | true =>
        cases ControlLoop.leaves_of_takes moved own going ending
        constructor <;> simp [Turn.takesFlag, Turn.accepts, Turn.endsFirst, going, ending, asks]
  | called =>
    exact .quiet ⟨state, .interrupt, _⟩ rfl (countP_made _ rfl) (countP_made _ rfl) rfl
  | @signalled trap traps =>
    exact .quiet ⟨state, .signal trap, _⟩ rfl (countP_made _ rfl) (countP_made _ rfl) rfl
  | trapped => exact .quiet ⟨state, .trap, _⟩ rfl rfl rfl rfl
  | @rearmed trap traps => exact .quiet ⟨state, .rearm trap, _⟩ rfl rfl rfl rfl
  | @accepted call line made going stepped =>
    have winners := countP_move made Interrupt.tookFlag .accepted
    have removals := countP_move made Interrupt.askedRemoval .accepted
    constructor
    · simp [Turn.takesFlag, going, move]
    · simp [Turn.takesFlag, Turn.accepts, Turn.endsFirst, going, move]
    · simp only [countP_single, Turn.accepts, Turn.takesFlag, going]
      exact winners
    · exact removals
  | @refused call made ending =>
    have winners := countP_move made Interrupt.tookFlag (.answered false)
    have removals := countP_move made Interrupt.askedRemoval (.answered false)
    exact .quiet ⟨state, .ask call, _⟩ rfl winners removals rfl
  | @removing call accepted =>
    have winners := countP_move accepted Interrupt.tookFlag .removing
    have removals := countP_move accepted Interrupt.askedRemoval .removing
    refine ⟨?_, ?_, Nat.add_right_cancel winners, removals⟩
    · simp [Turn.takesFlag, move]
    · simp [Turn.takesFlag, Turn.accepts, Turn.endsFirst, move]
  | @removed call removing =>
    have winners := countP_move removing Interrupt.tookFlag (.answered true)
    have removals := countP_move removing Interrupt.askedRemoval (.answered true)
    exact .quiet ⟨state, .removed call, _⟩ rfl (Nat.add_right_cancel winners) (Nat.add_right_cancel removals) rfl

variable {initial final : InterruptedLoop} {inputs : List InterruptedInput}

theorem run_books (ran : initial.run inputs = some final) : Books initial final (initial.trace inputs) := by
  apply runAll_induction Books.nil ?_ ran
  intro before input next after rest stepped books
  exact (step_books stepped).cons books

def wonAt (state : InterruptedLoop) (call : Nat) : Bool := (state.interrupts[call]?).any Interrupt.tookFlag

def Turn.acceptsAt (call : Nat) (turn : Turn) : Bool :=
  match turn.input with
  | .ask other => decide (other = call) && turn.takesFlag
  | _ => false

theorem wonAt_move (state : InterruptedLoop) {call : Nat} {old : Interrupt}
    (found : state.interrupts[call]? = some old) (interrupt : Interrupt) (other : Nat) :
    (state.move call interrupt).wonAt other = if call = other then interrupt.tookFlag else state.wonAt other := by
  unfold wonAt
  rw [getElem?_move state found]
  split <;> rfl

theorem any_made (interrupts : List Interrupt) (call : Nat) :
    ((interrupts ++ [Interrupt.made])[call]?).any Interrupt.tookFlag =
      (interrupts[call]?).any Interrupt.tookFlag := by
  rcases getElem?_made interrupts call with same | ⟨none, made⟩
  · rw [same]
  · rw [none, made]
    rfl

theorem step_wonAt {state after : InterruptedLoop} {input : InterruptedInput}
    (stepped : state.step input = some after) (call : Nat) :
    after.wonAt call = (state.wonAt call || Turn.acceptsAt call ⟨state, input, after⟩) := by
  cases step_steps stepped with
  | moved | trapped | rearmed => exact (Bool.or_false _).symm
  | called | signalled => exact (any_made state.interrupts call).trans (Bool.or_false _).symm
  | @accepted other line made going stepped =>
    have won := wonAt_move { state with loop := { state.loop.note line with terminating := true } }
      made .accepted call
    rw [won]
    by_cases same : other = call
    · simp [Turn.acceptsAt, Turn.takesFlag, move, going, same, Interrupt.tookFlag]
    · simp [Turn.acceptsAt, same, wonAt]
  | @refused other made ending =>
    rw [wonAt_move state made]
    by_cases same : other = call
    · subst same
      simp [Turn.acceptsAt, Turn.takesFlag, ending, wonAt, made, Interrupt.tookFlag]
    · simp [Turn.acceptsAt, same]
  | @removing other accepted =>
    rw [wonAt_move state accepted]
    by_cases same : other = call
    · subst same
      simp [Turn.acceptsAt, wonAt, accepted, Interrupt.tookFlag]
    · simp [Turn.acceptsAt, same]
  | @removed other removing =>
    rw [wonAt_move state removing]
    by_cases same : other = call
    · subst same
      simp [Turn.acceptsAt, wonAt, removing, Interrupt.tookFlag]
    · simp [Turn.acceptsAt, same]

theorem run_wonAt (ran : initial.run inputs = some final) (call : Nat) :
    final.wonAt call = (initial.wonAt call || (initial.trace inputs).any (Turn.acceptsAt call)) := by
  refine runAll_induction (motive := fun before after turns =>
    after.wonAt call = (before.wonAt call || turns.any (Turn.acceptsAt call))) ?_ ?_ ran
  · intro state
    exact (Bool.or_false _).symm
  · intro before input next after rest stepped won
    rw [won, step_wonAt stepped call, List.any_cons, Bool.or_assoc]

def winners (state : InterruptedLoop) : Nat := state.interrupts.countP Interrupt.tookFlag

/-- Until the loop has returned the flag is taken by a call alone, and a loop that returned well
says whether it was. -/
structure Fair (state : InterruptedLoop) : Prop where
  most : state.winners ≤ state.loop.terminating.toNat
  taken : (∀ result, state.loop.point ≠ .returned result) → state.winners = state.loop.terminating.toNat
  outcome : ∀ summary, state.loop.point = .returned (.ok summary) →
    state.loop.terminating = true ∧ summary.interrupted.toNat = state.winners

theorem Fair.same {before after : InterruptedLoop} (fair : before.Fair) (loop : after.loop = before.loop)
    (winners : after.winners = before.winners) : after.Fair := by
  refine ⟨?_, ?_, ?_⟩
  · rw [loop, winners]
    exact fair.most
  · rw [loop, winners]
    exact fair.taken
  · rw [loop, winners]
    exact fair.outcome

theorem Fair.moves {state : InterruptedLoop} (fair : state.Fair) {loop : ControlLoop} {input : LoopInput}
    (stepped : state.loop.step input = some loop) (own : input ≠ .interrupt) : Fair { state with loop } := by
  have grows : state.loop.terminating.toNat ≤ loop.terminating.toNat := by
    cases going : state.loop.terminating with
    | false => exact Nat.zero_le _
    | true => exact Nat.le_of_eq (congrArg Bool.toNat (ControlLoop.terminating_stays stepped going).symm)
  refine ⟨Nat.le_trans fair.most grows, ?_, ?_⟩
  · intro unreturned
    have before : ∀ result, state.loop.point ≠ .returned result :=
      fun result returned => unreturned result (ControlLoop.returned_stays stepped returned)
    have same : loop.terminating = state.loop.terminating := by
      cases going : state.loop.terminating with
      | true => exact ControlLoop.terminating_stays stepped going
      | false =>
        apply Bool.eq_false_iff.mpr
        intro ending
        cases ControlLoop.leaves_of_takes stepped own going ending
        cases ControlLoop.step_steps stepped with
        | left => exact unreturned _ rfl
    exact (fair.taken before).trans (congrArg Bool.toNat same.symm)
  · intro summary returned
    obtain ⟨⟨failure, leaving⟩, interrupted, ending⟩ := ControlLoop.returns_ok stepped own returned
    refine ⟨ending, ?_⟩
    rw [interrupted]
    exact (fair.taken fun result returned => by cases leaving.symm.trans returned).symm

theorem step_fair {state after : InterruptedLoop} {input : InterruptedInput}
    (stepped : state.step input = some after) (fair : state.Fair) : after.Fair := by
  cases step_steps stepped with
  | moved own moved => exact fair.moves moved own
  | called | signalled => exact fair.same rfl (countP_made _ rfl)
  | trapped | rearmed => exact fair.same rfl rfl
  | @accepted call line made going stepped =>
    -- Nobody had the flag, so the loop has not returned well, and this call is the first to have it.
    have none : state.winners = 0 := by
      have most := fair.most
      rw [going] at most
      exact Nat.le_zero.mp most
    have one : (({ state with loop := { state.loop.note line with terminating := true } } : InterruptedLoop).move call
        .accepted).winners = 1 := by
      have winners := countP_move made Interrupt.tookFlag .accepted
      exact winners.trans (congrArg (· + 1) none)
    refine ⟨Nat.le_of_eq one, fun _ => one, ?_⟩
    intro summary returned
    cases going.symm.trans (fair.outcome summary returned).1
  | refused made => exact fair.same rfl (countP_move made Interrupt.tookFlag (.answered false))
  | removing accepted =>
    exact fair.same rfl (Nat.add_right_cancel (countP_move accepted Interrupt.tookFlag .removing))
  | removed removing =>
    exact fair.same rfl (Nat.add_right_cancel (countP_move removing Interrupt.tookFlag (.answered true)))

theorem Fresh.fair (fresh : initial.Fresh) : initial.Fair := by
  have none : initial.winners = 0 := by rw [winners, fresh.interrupts]; rfl
  refine ⟨?_, ?_, ?_⟩
  · rw [none]
    exact Nat.zero_le _
  · intro _
    rw [none, fresh.loop.terminating]
    rfl
  · intro summary returned
    cases fresh.loop.point.symm.trans returned

theorem run_fair (ran : initial.run inputs = some final) (fair : initial.Fair) : final.Fair :=
  runAll_keeps (fun _ _ _ stepped fair => step_fair stepped fair) ran fair

theorem Fresh.books (fresh : initial.Fresh) (ran : initial.run inputs = some final) :
    final.loop.terminating.toNat = (initial.trace inputs).countP Turn.takesFlag ∧
      final.winners = (initial.trace inputs).countP Turn.accepts ∧
      final.interrupts.countP Interrupt.askedRemoval = (initial.trace inputs).countP Turn.removes := by
  obtain ⟨flag, -, winners, removals⟩ := run_books ran
  rw [fresh.loop.terminating] at flag
  rw [fresh.interrupts] at winners removals
  exact ⟨flag.trans (Nat.zero_add _), winners.trans (Nat.zero_add _), removals.trans (Nat.zero_add _)⟩

theorem countP_askedRemoval (interrupts : List Interrupt) :
    interrupts.countP Interrupt.askedRemoval = interrupts.count (.answered true) + interrupts.count .removing := by
  induction interrupts with
  | nil => rfl
  | cons interrupt rest ih =>
    rw [List.countP_cons, List.count_cons, List.count_cons, ih]
    cases interrupt with
    | made | accepted => rfl
    | removing => simp [Interrupt.askedRemoval]; omega
    | answered accepted => cases accepted <;> simp [Interrupt.askedRemoval]; omega

theorem Turn.accepts_iff {turn : Turn} :
    turn.accepts = true ↔ turn.takesFlag = true ∧ ∃ call, turn.input = .ask call := by
  unfold accepts
  split
  next call asked => simp [asked]
  next other => simpa using fun _ call asked => other call asked

theorem Turn.acceptsAt_iff {call : Nat} {turn : Turn} :
    turn.acceptsAt call = true ↔ turn.takesFlag = true ∧ turn.input = .ask call := by
  unfold acceptsAt
  split
  next other asked => simp [asked, and_comm]
  next other => simpa using fun _ asked => other call asked

theorem taker_of_step {state after : InterruptedLoop} {input : InterruptedInput}
    (stepped : state.step input = some after) (taken : Turn.takesFlag ⟨state, input, after⟩ = true) :
    input = .loop .leave ∨ ∃ call, input = .ask call := by
  simp only [Turn.takesFlag, Bool.and_eq_true, Bool.not_eq_true'] at taken
  obtain ⟨going, ending⟩ := taken
  cases step_steps stepped with
  | moved own moved =>
    rw [ControlLoop.leaves_of_takes moved own going ending]
    exact .inl rfl
  | @accepted call | @refused call => exact .inr ⟨call, rfl⟩
  | called | trapped | signalled | rearmed | removing | removed => cases going.symm.trans ending

theorem accepts_pos_iff (turns : List Turn) :
    0 < turns.countP Turn.accepts ↔ ∃ turn ∈ turns, turn.takesFlag = true ∧ ∃ call, turn.input = .ask call := by
  simp only [List.countP_pos_iff, Turn.accepts_iff]

theorem ask_refused {state : InterruptedLoop} {call : Nat} (made : state.interrupts[call]? = some .made)
    (ending : state.loop.terminating = true) : ∃ after, state.step (.ask call) = some after ∧
      after.interrupts[call]? = some (.answered false) ∧ after.loop = state.loop := by
  obtain ⟨after, stepped, steps⟩ := ask_step made
  refine ⟨after, stepped, ?_⟩
  cases steps with
  | accepted _ going => cases going.symm.trans ending
  | refused => exact ⟨by simp [move, made], rfl⟩

/-- Of all calls that interrupt the loop, and the loop's own end, the first takes the flag and no
other does. It is the call that took it that is accepted, and that has the engine removed, once.
A loop that returns well says whether there was one. If the loop's end comes first every call is
refused at once and the engine is left alone. -/
theorem flag_taken_by_one_party (fresh : initial.Fresh) (ran : initial.run inputs = some final) :
    (initial.trace inputs).countP Turn.takesFlag ≤ 1 ∧
      (∀ turn ∈ initial.trace inputs, turn.takesFlag = true →
        turn.input = .loop .leave ∨ ∃ call, turn.input = .ask call) ∧
      (.loop (.started none) ∈ inputs → (∃ result, final.loop.point = .returned result) →
        ∃ turn ∈ initial.trace inputs, turn.takesFlag = true) ∧
      final.interrupts.countP Interrupt.tookFlag ≤ 1 ∧
      (∀ call, (final.interrupts[call]?).any Interrupt.tookFlag = true ↔
        ∃ turn ∈ initial.trace inputs, turn.takesFlag = true ∧ turn.input = .ask call) ∧
      (initial.trace inputs).countP Turn.removes =
        final.interrupts.count (.answered true) + final.interrupts.count .removing ∧
      (∀ summary, final.loop.point = .returned (.ok summary) →
        (summary.interrupted = true ↔
          ∃ turn ∈ initial.trace inputs, turn.takesFlag = true ∧ ∃ call, turn.input = .ask call)) ∧
      ((∃ turn ∈ initial.trace inputs, turn.takesFlag = true ∧ turn.input = .loop .leave) →
        (initial.trace inputs).countP Turn.removes = 0 ∧
          (∀ interrupt ∈ final.interrupts, interrupt = .made ∨ interrupt = .answered false) ∧
          (∀ call, final.interrupts[call]? = some .made → ∃ after, final.step (.ask call) = some after ∧
            after.interrupts[call]? = some (.answered false) ∧ after.loop = final.loop) ∧
          ∀ summary, final.loop.point = .returned (.ok summary) → summary.interrupted = false) := by
  obtain ⟨flag, winners, removals⟩ := fresh.books ran
  have takers := (run_books ran).takers
  have fair := run_fair ran fresh.fair
  have once : final.loop.terminating.toNat ≤ 1 := Bool.toNat_le _
  refine ⟨?_, ?_, ?_, ?_, ?_, ?_, ?_, ?_⟩
  · omega
  · intro turn member taken
    exact taker_of_step (runAll_around ran member).1 taken
  · rintro started ⟨result, returned⟩
    have ending := (underway_of_started ran started).flagged result returned
    apply List.countP_pos_iff.mp
    rw [← flag, ending]
    exact Nat.one_pos
  · exact Nat.le_trans fair.most once
  · intro call
    have nobody : initial.wonAt call = false := by simp [wonAt, fresh.interrupts]
    have won := run_wonAt ran call
    rw [nobody, Bool.false_or] at won
    rw [← wonAt, won, List.any_eq_true]
    simp only [Turn.acceptsAt_iff]
  · rw [← removals, countP_askedRemoval]
  · intro summary returned
    have interrupted := (fair.outcome summary returned).2
    rw [← accepts_pos_iff, ← winners, ← interrupted]
    cases summary.interrupted <;> simp
  · rintro ⟨turn, member, taken, left⟩
    have ends : 0 < (initial.trace inputs).countP Turn.endsFirst :=
      List.countP_pos_iff.mpr ⟨turn, member, by simp [Turn.endsFirst, left, taken]⟩
    have none : final.winners = 0 := by omega
    have ending : final.loop.terminating = true := by
      cases going : final.loop.terminating with
      | true => rfl
      | false =>
        rw [going, Bool.toNat_false] at flag
        omega
    refine ⟨?_, ?_, fun call made => ask_refused made ending, ?_⟩
    · rw [← removals]
      exact Nat.le_zero.mp (none ▸ List.countP_mono_left fun _ _ => Interrupt.tookFlag_of_askedRemoval)
    · intro interrupt member
      have lost := List.countP_eq_zero.mp none interrupt member
      cases interrupt with
      | made => exact .inl rfl
      | answered accepted =>
        cases accepted with
        | false => exact .inr rfl
        | true => exact absurd rfl lost
      | accepted | removing => exact absurd rfl lost
    · intro summary returned
      have interrupted := (fair.outcome summary returned).2
      rw [none] at interrupted
      cases outcome : summary.interrupted with
      | false => rfl
      | true => rw [outcome] at interrupted; cases interrupted

/-- A crash is about to end the loop when it is interrupted, and again at a signal later. -/
def rivalled : List InterruptedInput :=
  [.trap, .loop .run, .loop (.started none), .loop .armed, .interrupt,
    .loop (.stopped ⟨"one", some (.exited "one" "exit code 1")⟩), .ask 0, .loop .leave, .signal 0, .ask 1,
    .remove 0, .removed 0, .rearm 0]

theorem rivalled_crash_is_interrupted : ∃ final summary, run { loop := {} } rivalled = some final ∧
    final.loop.point = .returned (.ok summary) ∧ summary.interrupted = true ∧
    final.interrupts = [.answered true, .answered false] ∧
    (trace { loop := {} } rivalled).countP Turn.removes = 1 := by
  have fresh : Fresh { loop := {} } := ⟨by constructor <;> rfl, rfl⟩
  obtain ⟨final, ran⟩ : ∃ final, run { loop := {} } rivalled = some final := ⟨_, rfl⟩
  obtain ⟨-, -, -, -, won, removals, outcome, -⟩ := flag_taken_by_one_party fresh ran
  cases ran
  refine ⟨_, _, rfl, rfl, ?_, rfl, removals⟩
  have first : ∃ turn ∈ trace { loop := {} } rivalled, turn.takesFlag = true ∧ turn.input = .ask 0 := (won 0).mp rfl
  obtain ⟨turn, member, taken, asked⟩ := first
  exact (outcome _ rfl).mpr ⟨turn, member, taken, 0, asked⟩

end MockKeeper.InterruptedLoop
