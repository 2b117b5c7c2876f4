import MockKeeper.Proofs.SessionHolding

/-! A restart that was decided on leads to a launch, unless the loop ends or is interrupted.
So a change that the loop took is served by an instance that is launched after it. -/

namespace MockKeeper.Session
open Engine

variable {session after : Session}

/-- Each launch that was asked for gave an instance or is under way. -/
def Tallied (session : Session) : Prop :=
  session.stance ≠ .ended →
    session.engine.launchedCount = session.engine.instances.length + session.engine.launching

theorem Moves.ended {event : SessionEvent} (moved : session.Moves event after) (orderly : session.Orderly)
    (ended : session.stance = .ended) : after.stance = .ended := by
  have elsewhere := orderly.not_awaiting (by simp [ended])
  cases moved with
  | run stands => exact (orderly.stance_run stands).trans ended
  | call | change | closeWatcher | interruptLate | interruptFirst | callRemoval => exact ended
  | resume called answered resumes => exact (orderly.stance_resume answered resumes).trans ended
  | pickChange watching taken stands | noticeClosed watching taken stands | receive queued stands =>
    exact absurd stands elsewhere
  | leave => rfl
  | endRemoval => exact session.stance_endRemoval.trans ended
  | engine moved =>
    cases answer : session.engine.answer? loopTicket with
    | some failure =>
      have still := moved.serves.answer?_mono answer
      rw [← ended]
      unfold stance
      rw [answer, still]
    | none =>
      rw [stance_eq rfl answer] at ended
      cases point : session.loop.point with
      | leaving failure | returned result => simp only [stance, point, stanceOf]
      | ready | starting | arming | awaiting | restarting | recovering => rw [point] at ended; cases ended

theorem Fresh.tallied (fresh : session.Fresh) : session.Tallied := by
  intro _
  simp [launchedCount, launching, fresh.calls, fresh.instances, fresh.busy]

theorem Moves.tallied {event : SessionEvent} (moved : session.Moves event after) (orderly : session.Orderly)
    (tallied : session.Tallied) : after.Tallied := by
  intro going
  have going : session.stance ≠ .ended := fun ended => going (moved.ended orderly ended)
  have even := tallied going
  cases moved with
  | @engine event engine moved =>
    have count := moved.launching (by
      rintro error rfl
      cases moved with
      | unlaunched held stage => exact absurd (orderly.stance_unlaunched held (.inr stage)) ‹_›)
    have later : engine.launchedCount = engine.instances.length + engine.launching := by omega
    exact later
  | _ => exact even

/-- The loop waits for a restart whose launch was not asked for yet. -/
structure Relaunching (session : Session) : Prop where
  between : session.stance = .between
  early : ∀ work, session.engine.busy = some work → work.stage ≠ .launching

/-- What keeps a loop from serving a change. -/
def Excused (session : Session) : Prop :=
  session.removal ≠ .unasked ∨ session.watching = false ∨ session.stance = .ended

theorem Moves.excused {event : SessionEvent} (moved : session.Moves event after) (orderly : session.Orderly)
    (excused : session.Excused) : after.Excused := by
  rcases excused with asked | unwatched | ended
  · refine .inl ?_
    cases moved with
    | interruptFirst | callRemoval | endRemoval => simp
    | _ => exact asked
  · refine .inr (.inl ?_)
    cases moved with
    | noticeClosed => rfl
    | _ => exact unwatched
  · exact .inr (.inr (moved.ended orderly ended))

private theorem relaunching_beginLaunch {before : Engine} {ticket : Ticket} {operation : Operation}
    (count : before.launchedCount = session.engine.launchedCount)
    (answers : before.answers = session.engine.answers) (between : session.stance = .between) :
    Relaunching { session with engine := before.beginLaunch ticket operation } ∨
      session.engine.launchedCount < (before.beginLaunch ticket operation).launchedCount := by
  obtain ⟨stage, call, choice, equal⟩ := beginLaunch_eq before ticket operation
  rw [equal]
  rcases choice with ⟨-, rfl, rfl⟩ | ⟨-, rfl, rfl⟩
  · refine .inr ?_
    rw [← count]
    simp [launchedCount]
  · refine .inl ⟨?_, ?_⟩
    · rw [← between]
      exact stance_eq rfl (congrArg (List.lookup loopTicket) answers)
    · intro work held
      cases held
      simp

/-- The only call of an uninterrupted session that waits for a restart is that restart. -/
private theorem Orderly.restart_of_between (orderly : session.Orderly) (unasked : session.removal = .unasked)
    (between : session.stance = .between) {ticket : Ticket} {operation : Operation}
    (waits : (ticket, operation) ∈ session.engine.pending) : ∃ channel, operation = .restart channel := by
  have other : operation ≠ .remove stopChannel := by
    rintro rfl
    obtain ⟨rfl, -⟩ := orderly.of_removal waits
    cases unasked.symm.trans (orderly.removal.mpr (mem_tickets_of_pending waits))
  obtain ⟨-, -, places⟩ := orderly.stance_of_pending waits other
  rcases places with ⟨-, -, stance⟩ | ⟨-, -, stance⟩ | ⟨-, -, stance⟩ | ⟨restart, -⟩
  · cases between.symm.trans stance
  · cases between.symm.trans stance
  · cases between.symm.trans stance
  · exact ⟨stopChannel, restart⟩

private theorem Relaunching.engine (relaunching : session.Relaunching) (orderly : session.Orderly)
    (unasked : session.removal = .unasked) {event : EngineEvent} {engine : Engine}
    (moved : session.engine.Moves event engine) :
    Relaunching { session with engine } ∨ session.engine.launchedCount < engine.launchedCount ∨
      stance { session with engine } = .ended := by
  obtain ⟨between, early⟩ := relaunching
  have kept := orderly.kept unasked
  have begins : ∀ {before : Engine} {ticket operation}, before.launchedCount = session.engine.launchedCount →
      before.answers = session.engine.answers →
      Relaunching { session with engine := before.beginLaunch ticket operation } ∨
        session.engine.launchedCount < (before.beginLaunch ticket operation).launchedCount ∨
        stance { session with engine := before.beginLaunch ticket operation } = .ended := by
    intro before ticket operation count answers
    rcases relaunching_beginLaunch count answers between with still | now
    · exact .inl still
    · exact .inr (.inl now)
  cases moved with
  | begin free waits takes =>
    obtain ⟨channel, rfl⟩ := orderly.restart_of_between unasked between (mem_pending_of_waiting waits)
    cases takes with
    | restartOld =>
      refine .inl ⟨between, ?_⟩
      rintro work held launching
      cases held
      cases launching
    | restartRefused bare removed => cases kept.symm.trans removed
    | restartBare => exact begins rfl rfl
  | relaunched | prepared => exact begins rfl rfl
  | released held stage gone settled =>
    cases kept.symm.trans (orderly.steady.released held stage settled).1
  | unprepared held stage => exact .inr (.inr (orderly.stance_unlaunched held (.inl stage)))
  | unlaunched held stage => exact .inr (.inr (orderly.stance_unlaunched held (.inr stage)))
  | launched held stage => exact absurd stage (early _ held)
  | ended | killed | examined | reported | elsewhere => exact .inl ⟨between, early⟩

theorem Moves.relaunching {event : SessionEvent} (moved : session.Moves event after)
    (orderly : session.Orderly) (relaunching : session.Relaunching) :
    after.Relaunching ∨ session.engine.launchedCount < after.engine.launchedCount ∨ after.Excused := by
  by_cases unasked : session.removal = .unasked
  · have between := relaunching.between
    have elsewhere := orderly.not_awaiting (by simp [between])
    cases moved with
    | run stands => exact .inl ⟨(orderly.stance_run stands).trans between, relaunching.early⟩
    | resume called answered resumes =>
      exact .inl ⟨(orderly.stance_resume answered resumes).trans between, relaunching.early⟩
    | call | change | closeWatcher | interruptLate | interruptFirst | callRemoval =>
      exact .inl ⟨between, relaunching.early⟩
    | pickChange watching taken stands | noticeClosed watching taken stands | receive queued stands =>
      exact absurd stands elsewhere
    | leave stands =>
      rw [stance_eq stands rfl] at between
      cases between
    | endRemoval => exact .inl ⟨session.stance_endRemoval.trans between, relaunching.early⟩
    | engine moved =>
      rcases relaunching.engine orderly unasked moved with still | now | ended
      · exact .inl still
      · exact .inr (.inl now)
      · exact .inr (.inr (.inr (.inr ended)))
  · exact .inr (.inr (moved.excused orderly (.inl unasked)))

/-- The flag is taken by an interrupt, or by the loop as it returns. -/
def Flagged (session : Session) : Prop :=
  session.loop.terminating = true →
    session.removal ≠ .unasked ∨ ∃ result, session.loop.point = .returned result

theorem Fresh.flagged (fresh : session.Fresh) : session.Flagged := by
  intro ending
  cases fresh.terminating.symm.trans ending

theorem Moves.flagged {event : SessionEvent} (moved : session.Moves event after)
    (flagged : session.Flagged) : after.Flagged := by
  have stays : ∀ {point : LoopPoint}, session.loop.point = point → (∀ result, point ≠ .returned result) →
      session.loop.terminating = true → session.removal ≠ .unasked := by
    intro point stands other ending
    rcases flagged ending with asked | ⟨result, returned⟩
    · exact asked
    · exact absurd (stands.symm.trans returned) (other result)
  cases moved with
  | run stands => exact fun ending => .inl (stays stands nofun ending)
  | call | change | closeWatcher | interruptLate | engine => exact flagged
  | resume called answered resumes =>
    cases resumes with
    | started stands | refused stands | armed stands => exact fun ending => .inl (stays stands nofun ending)
    | relaunched stands | failed stands =>
      rcases stands with stands | stands <;> exact fun ending => .inl (stays stands nofun ending)
  | pickChange watching taken stands steps =>
    cases steps <;> exact fun ending => .inl (stays stands nofun ending)
  | noticeClosed watching ended stands => exact fun ending => .inl (stays stands nofun ending)
  | receive queued stands stops => cases stops <;> exact fun ending => .inl (stays stands nofun ending)
  | leave => exact fun _ => .inr ⟨_, rfl⟩
  | interruptFirst | callRemoval | endRemoval => exact fun _ => .inl (by simp)

theorem Flagged.going (flagged : session.Flagged) (unasked : session.removal = .unasked)
    (stands : session.loop.point = .awaiting) : session.loop.terminating = false := by
  cases ending : session.loop.terminating with
  | false => rfl
  | true =>
    rcases flagged ending with asked | ⟨result, returned⟩
    · exact absurd unasked asked
    · cases stands.symm.trans returned

theorem Moves.picked (moved : session.Moves .pickChange after) (orderly : session.Orderly)
    (flagged : session.Flagged) : after.Relaunching ∨ after.Excused := by
  cases moved with
  | pickChange watching taken stands steps =>
    have free := orderly.free (by simp [operation?, stands])
    cases steps with
    | ignored _ ending =>
      rcases flagged ending with asked | ⟨result, returned⟩
      · exact .inr (.inl asked)
      · cases stands.symm.trans returned
    | changed =>
      refine .inl ⟨?_, ?_⟩
      · change stanceOf .restarting (session.engine.answer? loopTicket) = .between
        rw [orderly.unanswered free]
        rfl
      · intro work held launching
        have removal := orderly.removals free _ (mem_pending_of_busy held)
        have launches := (orderly.steady.launching held (.inr launching)).2
        rw [(Prod.mk.inj removal).2] at launches
        exact launches

theorem Moves.changes {event : SessionEvent} (moved : session.Moves event after) :
    after.Excused ∨ after.changes.receiverOpen = session.changes.receiverOpen ∧
      after.changes.capacity = session.changes.capacity ∧
      (event = .pickChange ∨ session.changes.waiting ≤ after.changes.waiting) := by
  have ended : after.stance = .ended → after.Excused := fun ended => .inr (.inr ended)
  have same : after.changes = session.changes →
      after.changes.receiverOpen = session.changes.receiverOpen ∧
        after.changes.capacity = session.changes.capacity ∧
        (event = .pickChange ∨ session.changes.waiting ≤ after.changes.waiting) := by
    intro changes
    rw [changes]
    exact ⟨rfl, rfl, .inr (Nat.le_refl _)⟩
  cases moved with
  | run | call | interruptFirst | interruptLate | receive | callRemoval | endRemoval | engine =>
    exact .inr (same rfl)
  | resume called answered resumes settles =>
    cases resumes with
    | refused => exact .inl (ended rfl)
    | started | armed | relaunched | failed => exact .inr (same (settles rfl))
  | pickChange watching taken =>
    refine .inr ?_
    unfold ChangeStream.take at taken
    split at taken <;> cases taken
    exact ⟨rfl, rfl, .inl rfl⟩
  | noticeClosed => exact .inl (.inr (.inl rfl))
  | leave => exact .inl (ended rfl)
  | change offered =>
    refine .inr ?_
    unfold ChangeStream.offer at offered
    split at offered
    · cases offered
    · split at offered <;> cases offered
      exact ⟨rfl, rfl, .inr (Nat.le_succ _)⟩
  | closeWatcher => exact .inr ⟨rfl, rfl, .inr (Nat.le_refl _)⟩

structure Regular (session : Session) : Prop where
  orderly : session.Orderly
  tallied : session.Tallied
  flagged : session.Flagged

theorem Fresh.regular (fresh : session.Fresh) : session.Regular :=
  ⟨fresh.orderly, fresh.tallied, fresh.flagged⟩

theorem run_regular {initial final : Session} {events : List SessionEvent}
    (ran : initial.run events = some final) (regular : initial.Regular) : final.Regular := by
  refine runAll_keeps ?_ ran regular
  intro before event after stepped regular
  have moved := step_moves stepped
  exact ⟨moved.orderly regular.orderly, moved.tallied regular.orderly regular.tallied,
    moved.flagged regular.flagged⟩

theorem Moves.launches_mono {event : SessionEvent} (moved : session.Moves event after) :
    session.engine.launchedCount ≤ after.engine.launchedCount := by
  cases moved with
  | engine moved => exact moved.launches_mono
  | _ => exact Nat.le_refl _

end MockKeeper.Session
