import MockKeeper.Proofs.SessionOrphans

/-! Where a session comes to rest. An accepted interrupt leaves the loop no place to rest but
its end, and without one the loop rests only while the one instance it has is running. -/

namespace MockKeeper.Session
open Engine

/-- What others do: whoever runs and interrupts the loop, the watched directory, the backend,
the runs behind the instances, and the other engines of the process. -/
def isOutside : SessionEvent → Bool
  | .run | .change | .closeWatcher | .interrupt => true
  | .engine event =>
    match event with
    | .terminated | .prepared _ | .launched _ | .ended _ _ | .kill _ | .elsewhere => true
    | .begin _ | .examine _ | .report _ _ => false
  | _ => false

/-- Neither the loop nor an interrupt, a supervisor or a waiter can go on by itself. -/
def Settled (session : Session) : Prop :=
  ∀ event, isOutside event = false → session.step event = none

/-- The events that nobody outside makes, as far as there is somebody to make them. -/
def ownEvents (session : Session) : List SessionEvent :=
  [.call, .resume, .pickChange, .noticeClosed, .receive, .leave, .callRemoval, .endRemoval] ++
    (List.range session.engine.waiting.length).map (fun position => .engine (.begin position)) ++
    (List.range session.engine.instances.length).flatMap fun index =>
      .engine (.examine index) ::
        (((session.engine.instances[index]?).map Instance.waiters).getD []).map fun channel =>
          .engine (.report index channel)

theorem settled_iff {session : Session} :
    session.Settled ↔ ∀ event ∈ session.ownEvents, (session.step event).isNone = true := by
  constructor
  · intro settled event member
    rw [settled event ?_]
    · rfl
    · simp only [ownEvents, List.mem_append, List.mem_cons, List.not_mem_nil, or_false, List.mem_map,
        List.mem_flatMap] at member
      rcases member with ((rfl | rfl | rfl | rfl | rfl | rfl | rfl | rfl) | ⟨position, -, rfl⟩) |
        ⟨index, -, rfl | ⟨channel, -, rfl⟩⟩ <;> rfl
  · intro none event own
    -- A place without an entry has no event, so the ranges leave none out.
    apply Option.isNone_iff_eq_none.mp
    cases event with
    | run | change | closeWatcher | interrupt => cases own
    | call | resume | pickChange | noticeClosed | receive | leave | callRemoval | endRemoval =>
      exact none _ (by simp [ownEvents])
    | engine event =>
      cases event with
      | terminated | prepared | launched | ended | kill | elsewhere => cases own
      | begin position =>
        by_cases inside : position < session.engine.waiting.length
        · exact none _ (by simp [ownEvents, inside])
        · have outside : session.engine.waiting[position]? = Option.none :=
            List.getElem?_eq_none (Nat.le_of_not_lt inside)
          cases held : session.engine.busy <;> simp [step, Engine.step, outside, held]
      | examine index =>
        by_cases inside : index < session.engine.instances.length
        · exact none _ (by simp [ownEvents, inside])
        · have outside : session.engine.instances[index]? = Option.none :=
            List.getElem?_eq_none (Nat.le_of_not_lt inside)
          simp [step, Engine.step, outside]
      | report index channel =>
        cases found : session.engine.instances[index]? with
        | none => simp [step, Engine.step, found]
        | some entry =>
          by_cases waits : channel ∈ entry.waiters
          · have inside := (List.getElem?_eq_some_iff.mp found).1
            apply none
            simp only [ownEvents, List.mem_append, List.mem_flatMap, List.mem_range]
            exact .inr ⟨index, inside, by simp [found, waits]⟩
          · cases gone : entry.gone? <;> simp [step, Engine.step, found, Instance.report, gone, waits]

instance (session : Session) : Decidable session.Settled := decidable_of_iff' _ settled_iff

namespace Settled
variable {session : Session}

private theorem stuck (settled : session.Settled) (event : SessionEvent) (own : isOutside event = false)
    (moves : (session.step event).isSome = true) : False := by
  rw [settled event own] at moves
  cases moves

theorem asked (settled : session.Settled) {operation : Operation}
    (stands : operation? session.loop = some operation) :
    session.called = true ∧ session.engine.answer? loopTicket = none := by
  have called : session.called = true := by
    cases called : session.called with
    | true => rfl
    | false => exact (settled.stuck .call rfl (by simp [step, called, stands])).elim
  refine ⟨called, ?_⟩
  cases answered : session.engine.answer? loopTicket with
  | none => rfl
  | some failure =>
    rcases point_of_operation stands with ⟨-, point | point⟩ | ⟨-, point⟩ | ⟨-, point⟩
    all_goals
      cases failure
      all_goals
        exact (settled.stuck .resume rfl
          (by simp [step, called, answered, answerInput?, point, ControlLoop.step])).elim

theorem received (settled : session.Settled) (stands : session.loop.point = .awaiting) :
    session.queue = [] := by
  cases queued : session.queue with
  | nil => rfl
  | cons event rest =>
    exact (settled.stuck .receive rfl (by simp [step, queued, ControlLoop.step, stands])).elim

theorem not_leaving (settled : session.Settled) {failure : Option EngineError} :
    session.loop.point ≠ .leaving failure := by
  intro stands
  exact settled.stuck .leave rfl (by simp [step, ControlLoop.step, stands])

theorem held (settled : session.Settled) (free : session.engine.busy = none) :
    session.engine.pending = [] := by
  cases waiting : session.engine.waiting with
  | nil => simp [Engine.pending, waiting, free]
  | cons call rest =>
    exact (settled.stuck (.engine (.begin 0)) rfl
      (by simp [step, Engine.step, free, waiting])).elim

theorem reported (settled : session.Settled) {index channel : Nat} {entry : Instance}
    (found : session.engine.instances[index]? = some entry) (waits : channel ∈ entry.waiters) :
    entry.gone? = none := by
  cases gone : entry.gone? with
  | none => rfl
  | some error =>
    exact (settled.stuck (.engine (.report index channel)) rfl
      (by simp [step, Engine.step, found, Instance.report, gone, waits])).elim

theorem not_asked (settled : session.Settled) : session.removal ≠ .asked := by
  intro asked
  exact settled.stuck .callRemoval rfl (by simp [step, asked])

end Settled

variable {session after : Session}

theorem Moves.asked {event : SessionEvent} (moved : session.Moves event after)
    (asked : session.removal ≠ .unasked) : after.removal ≠ .unasked := by
  cases moved with
  | interruptFirst | callRemoval | endRemoval => simp
  | _ => exact asked

theorem Orderly.free_of_done (orderly : session.Orderly) (done : session.removal = .done) :
    session.engine.busy = none := by
  cases held : session.engine.busy with
  | none => rfl
  | some work =>
    have waits := mem_pending_of_busy held
    have removed := orderly.acted (.inl done)
    have fits := orderly.steady.fits work held
    have removal : work.ticket = removalTicket := by
      cases operation : work.operation with
      | remove channel =>
        rw [operation] at waits
        exact (orderly.of_removal waits).1
      | start | restart channel | notifyOnStop channel =>
        cases stage : work.stage <;> simp [operation, stage, Fits, removed] at fits
    rw [removal] at waits
    have called := orderly.removal.mpr (mem_tickets_of_pending waits)
    cases done.symm.trans called

/-- Where nobody can go on and the lock is free, the loop waits for no answer. -/
private theorem Orderly.asks_nothing (orderly : session.Orderly) (settled : session.Settled)
    (free : session.engine.busy = none) : operation? session.loop = none := by
  apply Option.not_isSome_iff_eq_none.mp
  intro asks
  obtain ⟨operation, stands⟩ := Option.isSome_iff_exists.mp asks
  obtain ⟨called, unanswered⟩ := settled.asked stands
  rcases List.mem_append.mp (orderly.called.mp called) with waits | answered
  · rw [settled.held free] at waits
    cases waits
  · have there := answer?_isSome.mpr answered
    rw [unanswered] at there
    cases there

/-- A removed engine owes its loop a stop, and where nobody can go on it has no instance
left that could owe it. -/
private theorem Accounted.not_awaiting {first : Nat} (accounted : session.Accounted first)
    (settled : session.Settled) (removed : session.engine.removed = true)
    (free : session.engine.busy = none) : session.loop.point ≠ .awaiting := by
  intro stands
  obtain ⟨orderly, -, -, balanced⟩ := accounted
  have armed := orderly.stance_awaiting stands
  have late := (balanced.late removed (by simp [armed])).1
  rw [needed_eq rfl armed removed, owed, queued_eq, settled.received stands, Stance.share] at late
  have owes : 0 < session.engine.unreported stopChannel := by
    simp only [List.length_nil] at late
    omega
  obtain ⟨entry, member, waits⟩ := List.countP_pos_iff.mp owes
  obtain ⟨index, found⟩ := List.mem_iff_getElem?.mp member
  have there := settled.reported found (of_decide_eq_true waits)
  rcases orderly.steady.alone index entry found there with current | ⟨work, held, -⟩
  · cases (orderly.steady.bare removed).symm.trans current
  · cases free.symm.trans held

theorem Accounted.returned {first : Nat} (accounted : session.Accounted first)
    (settled : session.Settled) (begun : session.loop.point ≠ .ready) (done : session.removal = .done) :
    ∃ result, session.loop.point = .returned result := by
  have removed := accounted.orderly.acted (.inl done)
  have free := accounted.orderly.free_of_done done
  have answered := accounted.orderly.asks_nothing settled free
  cases stands : session.loop.point with
  | ready => exact absurd stands begun
  | starting | arming | restarting | recovering => simp [operation?, stands] at answered
  | leaving failure => exact absurd stands settled.not_leaving
  | returned result => exact ⟨result, rfl⟩
  | awaiting => exact absurd stands (accounted.not_awaiting settled removed free)

/-- An interrupt that is accepted, at whatever moment, ends the loop: where nobody can go on
and the call of that interrupt is not out any more, the loop has returned and knows that it
was interrupted, and nothing was launched since the engine was removed. -/
theorem accepted_interrupt_ends_loop {initial middle final : Session} {before rest : List SessionEvent}
    (fresh : initial.Fresh) (reached : initial.run before = some middle)
    (accepted : middle.interruptWins = true) (ran : middle.run (.interrupt :: rest) = some final)
    (faithful : final.engine.Faithful initial.engine.nextSynthetic)
    (begun : final.loop.point ≠ .ready) (completed : final.removal ≠ .called) (settled : final.Settled) :
    ∃ result, final.loop.result? = some result ∧
      (∀ summary, result = .ok summary → summary.interrupted = true) ∧
      ∀ first last cut, .interrupt :: rest = first ++ last → middle.run first = some cut →
        cut.engine.removed = true →
        final.engine.launchedCount = cut.engine.launchedCount ∧
          final.engine.instances.length = cut.engine.instances.length := by
  have whole : initial.run (before ++ .interrupt :: rest) = some final :=
    runAll_append_eq_some.mpr ⟨middle, reached, ran⟩
  have accounted := run_accounted fresh whole faithful
  have asked : final.removal ≠ .unasked := by
    obtain ⟨next, moved, goes⟩ := runAll_cons_eq_some.mp ran
    apply runAll_keeps (fun _ _ _ stepped asked => (step_moves stepped).asked asked) goes
    cases step_moves moved with
    | interruptFirst => simp
    | interruptLate ending => simp [interruptWins, ending] at accepted
  have done : final.removal = .done := by
    cases removal : final.removal with
    | unasked => exact absurd removal asked
    | asked => exact absurd removal settled.not_asked
    | called => exact absurd removal completed
    | done => rfl
  obtain ⟨result, returned⟩ := accounted.returned settled begun done
  refine ⟨result, result?_eq_some.mpr returned, ?_, ?_⟩
  · rintro summary rfl
    exact (accounted.orderly.told summary returned).2 asked
  · intro first last cut split runs removed
    rw [split] at ran
    obtain ⟨same, goes, ran⟩ := runAll_append_eq_some.mp ran
    cases runs.symm.trans goes
    have orderly := run_orderly runs (run_orderly reached fresh.orderly)
    obtain ⟨count, length, -⟩ := run_launches_nothing ran orderly (.inl removed)
    exact ⟨count, length⟩

def stopping : List SessionEvent :=
  [.callRemoval, .engine (.begin 0)] ++ ends 0 .success ++
    [.engine .terminated, .endRemoval, .engine (.report 0 stopChannel), .receive, .leave]

theorem interrupt_ends_waiting_loop : ∃ middle final,
    unused.run (.run :: asks ++ arms "one") = some middle ∧
    middle.run (.interrupt :: stopping) = some final ∧ final.Settled ∧
    ∃ result, final.loop.result? = some result ∧
      ∀ summary, result = .ok summary → summary.interrupted = true := by
  have facts : (unused.run (.run :: asks ++ arms "one")).any (fun middle => middle.interruptWins &&
      (middle.run (.interrupt :: stopping)).any fun final => decide (final.Settled ∧
        (final.engine.instances.map Instance.id).Nodup ∧
        (∀ entry ∈ final.engine.instances, ¬ entry.Abandoned) ∧
        final.engine.nextSynthetic = 1 ∧ final.removal = .done ∧
        final.loop.result?.isSome = true)) = true := by
    decide +kernel
  simp only [Option.any_eq_true, Bool.and_eq_true, decide_eq_true_eq] at facts
  obtain ⟨middle, reached, accepted, final, ran, settled, distinct, kept, numbered, done, begun⟩ := facts
  have reliable : final.engine.Reliable := ⟨distinct, kept⟩
  obtain ⟨result, returned, interrupted, -⟩ := accepted_interrupt_ends_loop unused_fresh reached accepted
    ran (reliable.faithful numbered) (by rintro ready; simp [ControlLoop.result?, ready] at begun) (by simp [done])
    settled
  exact ⟨middle, final, reached, ran, settled, result, returned, interrupted⟩

private theorem countP_le_one {α : Type} {holds : α → Bool} {items : List α} {place : Nat}
    (only : ∀ index item, items[index]? = some item → holds item = true → index = place) :
    items.countP holds ≤ 1 := by
  induction items generalizing place with
  | nil => simp
  | cons head rest ih =>
    have later : ∀ index item, rest[index]? = some item → holds item = true → index + 1 = place :=
      fun index item found => only (index + 1) item (by simpa using found)
    cases there : holds head with
    | false =>
      rw [List.countP_cons_of_neg (by simp [there])]
      exact ih fun index item found held => Nat.eq_sub_of_add_eq (later index item found held)
    | true =>
      have first := only 0 head rfl there
      have none : rest.countP holds = 0 := by
        apply List.countP_eq_zero.mpr
        intro item member held
        obtain ⟨index, found⟩ := List.mem_iff_getElem?.mp member
        have := later index item found held
        omega
      apply Nat.le_of_eq
      rw [List.countP_cons_of_pos there, none]

/-- Every instance but the current one is gone and has reported, so one at most is to report. -/
private theorem Orderly.unreported_le_one (orderly : session.Orderly) (settled : session.Settled)
    (free : session.engine.busy = none) {index : Nat} (current : session.engine.current = some index) :
    session.engine.unreported stopChannel ≤ 1 := by
  apply countP_le_one
  intro other entry found waits
  have there := settled.reported found (of_decide_eq_true waits)
  exact orderly.steady.only_current free current found there

/-- A session that nobody interrupts comes to rest waiting only when every restart was
settled and every stop was received, and then the engine's current instance is running and
is the only one. -/
theorem restarts_settle {initial final : Session} {events : List SessionEvent} (fresh : initial.Fresh)
    (ran : initial.run events = some final) (reliable : final.engine.Reliable)
    (unasked : final.removal = .unasked) (stands : final.loop.point = .awaiting)
    (settled : final.Settled) :
    final.loop.restartsPending = 0 ∧ final.queue = [] ∧
      ∃ index, final.engine.current = some index ∧
        ∀ other, final.engine.runningAt other = true ↔ other = index := by
  have holding := run_holding fresh ran
  have faithful := reliable.faithful (holding.numbered unasked)
  obtain ⟨orderly, -, recorded, balanced⟩ := run_accounted fresh ran faithful
  have armed := orderly.stance_awaiting stands
  have kept := orderly.kept unasked
  have queue := settled.received stands
  have free := orderly.lock_free unasked stands
  obtain ⟨index, current⟩ := holding.held kept free (by simp [armed]) (by simp [armed])
  have most := orderly.unreported_le_one settled free current
  have even := balanced.even kept (by simp [armed])
  rw [needed_eq rfl armed kept, promised, balanced.watched kept armed, owed, queued_eq, queue,
    Stance.share] at even
  simp only [List.length_nil] at even
  refine ⟨by omega, queue, index, current, ?_⟩
  -- What is owed is owed by an instance that is still there.
  have owes : 0 < final.engine.unreported stopChannel := by omega
  obtain ⟨entry, member, waits⟩ := List.countP_pos_iff.mp owes
  obtain ⟨place, found⟩ := List.mem_iff_getElem?.mp member
  have there := settled.reported found (of_decide_eq_true waits)
  have same := orderly.steady.only_current free current found there
  subst same
  intro other
  constructor
  · intro running
    obtain ⟨twin, foundTwin, runs⟩ := runningAt_eq_true.mp running
    have staying := reliable.there (List.mem_of_getElem? foundTwin) runs
    exact orderly.steady.only_current free current foundTwin staying
  · rintro rfl
    refine runningAt_eq_true.mpr ⟨entry, found, ?_⟩
    cases runs : entry.isRunning with
    | true => rfl
    | false =>
      have gone := Instance.gone_of_stopped runs
      rw [there] at gone
      cases gone

/-- A change leads to a restart, the old instance reports, and the loop waits again. -/
def restarting : List SessionEvent :=
  [.change, .pickChange] ++ asks ++ ends 0 .success ++ [.engine .terminated] ++ arms "two" ++
    [.engine (.report 0 stopChannel), .receive] ++ asks ++ [.resume]

theorem one_restart_settles : ∃ final,
    unused.run (.run :: asks ++ arms "one" ++ restarting) = some final ∧ final.Settled ∧
    final.loop.restartsPending = 0 ∧ ∀ other, final.engine.runningAt other = true ↔ other = 1 := by
  have facts : (unused.run (.run :: asks ++ arms "one" ++ restarting)).any (fun final =>
      decide (final.Settled ∧ (final.engine.instances.map Instance.id).Nodup ∧
        (∀ entry ∈ final.engine.instances, ¬ entry.Abandoned) ∧ final.removal = .unasked ∧
        final.engine.current = some 1 ∧ (final.loop.step .changed).isSome = true)) = true := by
    decide +kernel
  simp only [Option.any_eq_true, decide_eq_true_eq] at facts
  obtain ⟨final, ran, settled, distinct, kept, unasked, current, stands⟩ := facts
  have waits : final.loop.point = .awaiting := by
    cases point : final.loop.point <;> simp [ControlLoop.step, point] at stands
    rfl
  obtain ⟨pending, -, index, held, alone⟩ :=
    restarts_settle unused_fresh ran ⟨distinct, kept⟩ unasked waits settled
  cases held.symm.trans current
  exact ⟨final, ran, settled, pending, alone⟩

end MockKeeper.Session
