import MockKeeper.Proofs.SessionCalls

/-! A session that was not interrupted always has a current instance once its first start
was answered, so a restart finds an instance to stop and needs no report of its own. -/

namespace MockKeeper.Session
open Engine

/-- What the loop has of its engine, given where it stands and the answer it could take. -/
inductive Stance
  /-- The first start has no answer. -/
  | unstarted
  /-- An instance crashed, and the start after it has no answer. -/
  | crashed
  /-- A restart has no answer. -/
  | between
  /-- There is an instance, and the loop is yet to be registered with it. -/
  | unarmed
  /-- The loop is registered. -/
  | armed
  /-- The loop has ended, or the call that it waits for failed, so that it will end. -/
  | ended
deriving DecidableEq

def stanceOf : LoopPoint → Option (Option EngineError) → Stance
  | .leaving _, _ | .returned _, _ | _, some (some _) => .ended
  | .ready, _ | .starting, none => .unstarted
  | .recovering, none => .crashed
  | .restarting, none => .between
  | .awaiting, _ | .arming, some none => .armed
  | .arming, none | .starting, some none | .recovering, some none | .restarting, some none => .unarmed

def stance (session : Session) : Stance :=
  stanceOf session.loop.point (session.engine.answer? loopTicket)

structure Holding (first : Nat) (session : Session) : Prop where
  held : session.engine.removed = false → session.engine.busy = none → session.stance ≠ .ended →
    session.stance ≠ .unstarted → ∃ index, session.engine.current = some index
  numbered : session.removal = .unasked → session.engine.nextSynthetic = first

variable {first : Nat} {session after : Session}

theorem stance_eq {point : LoopPoint} {answer : Option (Option EngineError)}
    (stands : session.loop.point = point) (answered : session.engine.answer? loopTicket = answer) :
    session.stance = stanceOf point answer := by
  unfold stance
  rw [stands, answered]

theorem stance_of_failed {error : EngineError}
    (failed : session.engine.answer? loopTicket = some (some error)) : session.stance = .ended := by
  rw [stance_eq rfl failed]
  cases session.loop.point <;> rfl

theorem Orderly.stance_awaiting (orderly : session.Orderly) (stands : session.loop.point = .awaiting) :
    session.stance = .armed := by
  rw [stance_eq stands (orderly.unanswered (orderly.free (by simp [operation?, stands])))]
  rfl

theorem Orderly.not_awaiting (orderly : session.Orderly) (stance : session.stance ≠ .armed) :
    session.loop.point ≠ .awaiting :=
  fun stands => stance (orderly.stance_awaiting stands)

theorem Orderly.stance_from_awaiting (orderly : session.Orderly) (stands : session.loop.point = .awaiting)
    (answers : after.engine.answers = session.engine.answers) {point : LoopPoint}
    (goes : after.loop.point = point) : after.stance = stanceOf point none := by
  have unanswered := orderly.unanswered (orderly.free (by simp [operation?, stands]))
  apply stance_eq goes
  rw [← unanswered]
  exact congrArg (List.lookup loopTicket) answers

theorem Orderly.stance_run (orderly : session.Orderly) (stands : session.loop.point = .ready) :
    stanceOf .starting (session.engine.answer? loopTicket) = session.stance := by
  have unanswered := orderly.unanswered (orderly.free (by simp [operation?, stands]))
  rw [stance_eq stands rfl, unanswered]
  rfl

theorem Orderly.stance_resume (orderly : session.Orderly) {failure : Option EngineError} {loop : ControlLoop}
    (answered : session.engine.answer? loopTicket = some failure)
    (resumes : Resumes session.loop failure loop) :
    stanceOf loop.point ((session.engine.takeAnswer loopTicket).answer? loopTicket) = session.stance := by
  rw [stance_eq rfl answered, takeAnswer_answer?_self]
  cases resumes with
  | started stands | refused stands =>
    rw [stands]
    rfl
  | relaunched stands | failed stands => rcases stands with stands | stands <;> rw [stands] <;> rfl
  | armed stands =>
    rw [stands]
    cases failure with
    | none => rfl
    | some error =>
      obtain ⟨operation, asks, launches⟩ := orderly.failed error answered
      simp only [operation?, stands, Option.some.injEq] at asks
      subst asks
      exact launches.elim

theorem Orderly.stance_of_pending (orderly : session.Orderly) {ticket : Ticket} {operation : Operation}
    (waits : (ticket, operation) ∈ session.engine.pending) (other : operation ≠ .remove stopChannel) :
    ticket = loopTicket ∧ session.engine.answer? loopTicket = none ∧
      (operation = .start ∧ session.loop.point = .starting ∧ session.stance = .unstarted ∨
        operation = .start ∧ session.loop.point = .recovering ∧ session.stance = .crashed ∨
        operation = .notifyOnStop stopChannel ∧ session.loop.point = .arming ∧ session.stance = .unarmed ∨
        operation = .restart stopChannel ∧ session.loop.point = .restarting ∧
          session.stance = .between) := by
  obtain ⟨rfl, asks⟩ := orderly.of_loop waits other
  have unanswered : session.engine.answer? loopTicket = none := answer?_of_pending orderly.unique waits
  refine ⟨rfl, unanswered, ?_⟩
  rcases point_of_operation asks with ⟨rfl, stands | stands⟩ | ⟨rfl, stands⟩ | ⟨rfl, stands⟩
  · exact .inl ⟨rfl, stands, stance_eq stands unanswered⟩
  · exact .inr (.inl ⟨rfl, stands, stance_eq stands unanswered⟩)
  · exact .inr (.inr (.inl ⟨rfl, stands, stance_eq stands unanswered⟩))
  · exact .inr (.inr (.inr ⟨rfl, stands, stance_eq stands unanswered⟩))

theorem Orderly.stance_served (orderly : session.Orderly) {ticket : Ticket} {operation : Operation}
    (waits : (ticket, operation) ∈ session.engine.pending) (other : operation ≠ .remove stopChannel)
    {engine : Engine} (answers : engine.answers = session.engine.answers) :
    stance { session with engine := engine.finishCall ticket none } =
      stanceOf session.loop.point (some none) := by
  obtain ⟨rfl, unanswered, -⟩ := orderly.stance_of_pending waits other
  have same : engine.answer? loopTicket = none := by
    rw [← unanswered]
    exact congrArg (List.lookup loopTicket) answers
  apply stance_eq rfl
  rw [finishCall_answer?, same, if_pos rfl, Option.none_or]

theorem stance_removed (session : Session) {engine : Engine} (failure : Option EngineError)
    (answers : engine.answers = session.engine.answers) :
    stance { session with engine := engine.finishCall removalTicket failure } = session.stance := by
  apply stance_eq rfl
  rw [finishCall_answer?, if_neg (by decide), Option.or_none]
  exact congrArg (List.lookup loopTicket) answers

theorem stance_endRemoval (session : Session) :
    stanceOf session.loop.point ((session.engine.takeAnswer removalTicket).answer? loopTicket) =
      session.stance := by
  rw [takeAnswer_answer? session.engine (by decide)]
  rfl

/-- Whoever prepares or launches is the loop, where it waits for an instance. -/
theorem Orderly.stance_launching (orderly : session.Orderly) {work : Work}
    (held : session.engine.busy = some work) (stage : work.stage = .preparing ∨ work.stage = .launching) :
    work.operation ≠ .remove stopChannel ∧
      (session.loop.point = .starting ∧ session.stance = .unstarted ∨
        session.loop.point = .recovering ∧ session.stance = .crashed ∨
        session.loop.point = .restarting ∧ session.stance = .between ∧ session.engine.current = none) := by
  have launches := (orderly.steady.launching held stage).2
  have other : work.operation ≠ .remove stopChannel := by
    intro same
    rw [same] at launches
    exact launches
  refine ⟨other, ?_⟩
  obtain ⟨-, -, places⟩ := orderly.stance_of_pending (mem_pending_of_busy held) other
  rcases places with ⟨-, places⟩ | ⟨-, places⟩ | ⟨operation, -⟩ | ⟨operation, point, stance⟩
  · exact .inl places
  · exact .inr (.inl places)
  · rw [operation] at launches
    exact launches.elim
  · have fits := orderly.steady.fits work held
    rcases stage with stage | stage
    all_goals
      rw [operation, stage] at fits
      exact .inr (.inr ⟨point, stance, fits.2⟩)

theorem Orderly.stance_unlaunched (orderly : session.Orderly) {work : Work} {error : EngineError}
    (held : session.engine.busy = some work) (stage : work.stage = .preparing ∨ work.stage = .launching) :
    stance { session with engine := session.engine.finishCall work.ticket (some error) } = .ended := by
  have other := (orderly.stance_launching held stage).1
  obtain ⟨loop, unanswered, -⟩ := orderly.stance_of_pending (mem_pending_of_busy held) other
  have failed : (session.engine.finishCall work.ticket (some error)).answer? loopTicket =
      some (some error) := by
    rw [finishCall_answer?, unanswered, if_pos loop.symm, Option.none_or]
  exact stance_of_failed failed

theorem Orderly.stance_adopt (orderly : session.Orderly) {work : Work}
    (held : session.engine.busy = some work) (stage : work.stage = .launching) (launched : Launched) :
    stance { session with engine := session.engine.adopt work launched } = .unarmed := by
  obtain ⟨other, places⟩ := orderly.stance_launching held (.inr stage)
  have served : stance { session with engine := session.engine.adopt work launched } =
      stanceOf session.loop.point (some none) := by
    unfold adopt
    exact orderly.stance_served (mem_pending_of_busy held) other rfl
  rw [served]
  rcases places with ⟨point, -⟩ | ⟨point, -⟩ | ⟨point, -⟩ <;> rw [point] <;> rfl

theorem Fresh.stance (fresh : session.Fresh) : session.stance = .unstarted :=
  stance_eq fresh.point (fresh.orderly.unanswered fresh.called)

theorem Fresh.holding (fresh : session.Fresh) : session.Holding session.engine.nextSynthetic :=
  ⟨fun _ _ _ started => absurd fresh.stance started, fun _ => rfl⟩

private theorem Holding.same (holding : session.Holding first)
    (current : after.engine.current = session.engine.current)
    (removed : after.engine.removed = session.engine.removed)
    (busy : after.engine.busy = session.engine.busy)
    (synthetic : after.engine.nextSynthetic = session.engine.nextSynthetic)
    (unasked : after.removal = .unasked → session.removal = .unasked)
    (stance : session.stance = after.stance ∨ session.stance = .armed) : after.Holding first := by
  refine ⟨?_, ?_⟩
  · intro kept free going started
    rw [current]
    rw [removed] at kept
    rw [busy] at free
    rcases stance with same | armed
    · exact holding.held kept free (same ▸ going) (same ▸ started)
    · exact holding.held kept free (by simp [armed]) (by simp [armed])
  · intro asked
    rw [synthetic]
    exact holding.numbered (unasked asked)

/-- A restart that nobody removed the engine under finds its instance. -/
theorem Holding.restarts (holding : session.Holding first) (orderly : session.Orderly)
    (free : session.engine.busy = none) {ticket : Ticket} {operation : Operation}
    (waits : (ticket, operation) ∈ session.engine.pending)
    (other : operation ≠ .start ∧ operation ≠ .remove stopChannel)
    (kept : session.engine.removed = false) : ∃ index, session.engine.current = some index := by
  obtain ⟨-, -, places⟩ := orderly.stance_of_pending waits other.2
  rcases places with ⟨start, -⟩ | ⟨start, -⟩ | ⟨-, -, stance⟩ | ⟨-, -, stance⟩
  · exact absurd start other.1
  · exact absurd start other.1
  · exact holding.held kept free (by simp [stance]) (by simp [stance])
  · exact holding.held kept free (by simp [stance]) (by simp [stance])

private theorem Holding.takes (holding : session.Holding first) (orderly : session.Orderly)
    {position : Nat} {ticket : Ticket} {operation : Operation} {engine : Engine}
    (free : session.engine.busy = none)
    (waits : session.engine.waiting[position]? = some (ticket, operation))
    (takes : Takes (session.engine.without position) ticket operation engine) :
    Holding first { session with engine } := by
  have pending := mem_pending_of_waiting waits
  cases takes with
  | startRefused refused =>
    refine ⟨?_, holding.numbered⟩
    intro kept _ _ _
    rcases refused with removed | running
    · cases kept.symm.trans removed
    · obtain ⟨index, running⟩ := Option.isSome_iff_exists.mp running
      exact ⟨index, (runningCurrent_eq_some.mp running).1⟩
  | startLaunch =>
    obtain ⟨stage, call, -, equal⟩ := beginLaunch_eq (session.engine.without position) ticket .start
    rw [equal]
    exact ⟨(fun _ working => by cases working), holding.numbered⟩
  | restartOld | removeRunning => exact ⟨(fun _ working => by cases working), holding.numbered⟩
  | restartRefused bare removed =>
    refine ⟨?_, ?_⟩
    · intro kept
      cases kept.symm.trans removed
    · intro unasked
      rcases orderly.removed removed with called | done
      · cases unasked.symm.trans called
      · cases unasked.symm.trans done
  | restartBare bare kept =>
    obtain ⟨index, current⟩ := holding.restarts orderly free pending (by simp) kept
    cases bare.symm.trans current
  | removeBare =>
    refine ⟨(fun kept => by cases kept), ?_⟩
    intro unasked
    obtain ⟨rfl, rfl⟩ := orderly.of_removal pending
    have called := orderly.removal.mpr (mem_tickets_of_pending pending)
    cases unasked.symm.trans called
  | @watchCurrent channel index held => exact ⟨fun _ _ _ _ => ⟨index, held⟩, holding.numbered⟩
  | watchNone bare =>
    refine ⟨?_, holding.numbered⟩
    intro kept _ _ _
    exact holding.restarts orderly free pending (by simp) kept

private theorem Holding.engine (holding : session.Holding first) (orderly : session.Orderly)
    {event : EngineEvent} {engine : Engine} (moved : session.engine.Moves event engine) :
    Holding first { session with engine } := by
  have ended : ∀ {work : Work} {error : EngineError}, session.engine.busy = some work →
      work.stage = .preparing ∨ work.stage = .launching →
      Holding first { session with engine := session.engine.finishCall work.ticket (some error) } :=
    fun held stage => ⟨fun _ _ going => absurd (orderly.stance_unlaunched held stage) going, holding.numbered⟩
  cases moved with
  | begin free waits takes => exact holding.takes orderly free waits takes
  | @relaunched work | @prepared work =>
    obtain ⟨stage, call, -, equal⟩ := beginLaunch_eq _ work.ticket work.operation
    rw [equal]
    exact ⟨(fun _ working => by cases working), holding.numbered⟩
  | released held stage gone settled =>
    refine ⟨?_, holding.numbered⟩
    intro kept
    have removed := (orderly.steady.released held stage settled).1
    cases kept.symm.trans removed
  | unprepared held stage => exact ended held (.inl stage)
  | unlaunched held stage => exact ended held (.inr stage)
  | launched => exact ⟨fun _ _ _ _ => ⟨_, rfl⟩, holding.numbered⟩
  | ended | killed | examined | reported | elsewhere =>
    exact holding.same rfl rfl rfl rfl (fun unasked => unasked) (.inl rfl)

theorem Moves.holding {event : SessionEvent} (moved : session.Moves event after)
    (orderly : session.Orderly) (holding : session.Holding first) : after.Holding first := by
  cases moved with
  | run stands =>
    exact holding.same rfl rfl rfl rfl (fun unasked => unasked) (.inl (orderly.stance_run stands).symm)
  | call | change | closeWatcher | interruptLate =>
    exact holding.same rfl rfl rfl rfl (fun unasked => unasked) (.inl rfl)
  | resume called answered resumes =>
    exact holding.same rfl rfl rfl rfl (fun unasked => unasked)
      (.inl (orderly.stance_resume answered resumes).symm)
  | pickChange watching taken stands | noticeClosed watching taken stands | receive queued stands =>
    exact holding.same rfl rfl rfl rfl (fun unasked => unasked) (.inr (orderly.stance_awaiting stands))
  | leave => exact ⟨fun _ _ going => absurd rfl going, holding.numbered⟩
  | interruptFirst | callRemoval =>
    exact holding.same rfl rfl rfl rfl (by simp) (.inl rfl)
  | endRemoval called answered =>
    exact holding.same rfl rfl rfl rfl (by simp) (.inl (session.stance_endRemoval).symm)
  | engine moved => exact holding.engine orderly moved

theorem run_holding {initial final : Session} {events : List SessionEvent} (fresh : initial.Fresh)
    (ran : initial.run events = some final) : final.Holding initial.engine.nextSynthetic := by
  have kept (before : Session) (event : SessionEvent) (after : Session) (stepped : before.step event = some after)
      (both : before.Orderly ∧ before.Holding initial.engine.nextSynthetic) :
      after.Orderly ∧ after.Holding initial.engine.nextSynthetic :=
    ⟨(step_moves stepped).orderly both.1, (step_moves stepped).holding both.1 both.2⟩
  exact (runAll_keeps kept ran ⟨fresh.orderly, fresh.holding⟩).2

end MockKeeper.Session
