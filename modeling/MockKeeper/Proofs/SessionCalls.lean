import MockKeeper.Proofs.EngineLaunches
import MockKeeper.Proofs.SessionMoves

/-! Who calls the engine in a session. The loop makes one call at a time, the one its point
asks for, and the first interrupt makes the only call for a removal. -/

namespace MockKeeper.Session
open Engine

/-- The calls of a session, and what they did to its engine. -/
structure Orderly (session : Session) : Prop where
  steady : session.engine.Steady
  unique : session.engine.tickets.Nodup
  called : session.called = true ↔ loopTicket ∈ session.engine.tickets
  removal : session.removal = .called ↔ removalTicket ∈ session.engine.tickets
  made : ∀ call ∈ session.engine.pending, call = (removalTicket, .remove stopChannel) ∨
    call.1 = loopTicket ∧ operation? session.loop = some call.2
  stands : session.called = true → (operation? session.loop).isSome = true
  failed : ∀ error, session.engine.answer? loopTicket = some (some error) →
    ∃ operation, operation? session.loop = some operation ∧ Launches operation
  ending : session.removal ≠ .unasked → session.loop.terminating = true
  removed : session.engine.removed = true → session.removal = .called ∨ session.removal = .done
  acted : session.removal = .done ∨ (session.engine.answer? removalTicket).isSome = true →
    session.engine.removed = true
  told : ∀ summary, session.loop.point = .returned (.ok summary) →
    session.loop.terminating = true ∧ (session.removal ≠ .unasked → summary.interrupted = true)

theorem point_of_operation {loop : ControlLoop} {operation : Operation}
    (asks : operation? loop = some operation) :
    operation = .start ∧ (loop.point = .starting ∨ loop.point = .recovering) ∨
      operation = .notifyOnStop stopChannel ∧ loop.point = .arming ∨
      operation = .restart stopChannel ∧ loop.point = .restarting := by
  unfold operation? at asks
  cases stands : loop.point <;> simp only [stands] at asks <;> cases asks <;> simp

namespace Orderly
variable {session : Session}

theorem free (orderly : session.Orderly) (stands : operation? session.loop = none) :
    session.called = false := by
  cases called : session.called with
  | false => rfl
  | true =>
    have asks := orderly.stands called
    rw [stands] at asks
    cases asks

theorem unanswered (orderly : session.Orderly) (free : session.called = false) :
    session.engine.answer? loopTicket = none := by
  apply Option.not_isSome_iff_eq_none.mp
  intro answered
  obtain ⟨failure, answered⟩ := Option.isSome_iff_exists.mp answered
  rw [orderly.called.mpr (mem_tickets_of_answer answered)] at free
  cases free

theorem removals (orderly : session.Orderly) (free : session.called = false) :
    ∀ call ∈ session.engine.pending, call = (removalTicket, .remove stopChannel) := by
  intro call waits
  rcases orderly.made call waits with removal | ⟨loop, -⟩
  · exact removal
  · have member := mem_tickets_of_pending waits
    rw [loop] at member
    rw [orderly.called.mpr member] at free
    cases free

theorem of_loop (orderly : session.Orderly) {ticket : Ticket} {operation : Operation}
    (waits : (ticket, operation) ∈ session.engine.pending) (other : operation ≠ .remove stopChannel) :
    ticket = loopTicket ∧ operation? session.loop = some operation := by
  rcases orderly.made _ waits with removal | loop
  · cases removal
    exact absurd rfl other
  · exact loop

theorem of_removal (orderly : session.Orderly) {ticket : Ticket} {channel : Nat}
    (waits : (ticket, .remove channel) ∈ session.engine.pending) :
    ticket = removalTicket ∧ channel = stopChannel := by
  rcases orderly.made _ waits with removal | ⟨-, asks⟩
  · cases removal
    exact ⟨rfl, rfl⟩
  · have places := point_of_operation asks
    simp at places

theorem kept (orderly : session.Orderly) (unasked : session.removal = .unasked) :
    session.engine.removed = false := by
  cases removed : session.engine.removed with
  | false => rfl
  | true =>
    rcases orderly.removed removed with called | done
    · cases unasked.symm.trans called
    · cases unasked.symm.trans done

theorem unasked (orderly : session.Orderly) (going : session.loop.terminating = false) :
    session.removal = .unasked := by
  apply Classical.byContradiction
  intro asked
  rw [orderly.ending asked] at going
  cases going

theorem lock_free (orderly : session.Orderly) (unasked : session.removal = .unasked)
    (stands : session.loop.point = .awaiting) : session.engine.busy = none := by
  cases held : session.engine.busy with
  | none => rfl
  | some work =>
    have waits := mem_pending_of_busy held
    rw [orderly.removals (orderly.free (by simp [operation?, stands])) _ waits] at waits
    cases unasked.symm.trans (orderly.removal.mpr (mem_tickets_of_pending waits))

private theorem withLoop (orderly : session.Orderly) (free : session.called = false)
    {loop : ControlLoop} {changes : ChangeStream} {watching : Bool}
    (ending : session.loop.terminating = true → loop.terminating = true)
    (told : ∀ summary, loop.point = .returned (.ok summary) →
      loop.terminating = true ∧ (session.removal ≠ .unasked → summary.interrupted = true)) :
    Orderly { session with loop, changes, watching } := by
  refine ⟨orderly.steady, orderly.unique, orderly.called, orderly.removal, ?_, ?_, ?_, ?_,
    orderly.removed, orderly.acted, told⟩
  · exact fun call waits => .inl (orderly.removals free call waits)
  · intro called
    rw [free] at called
    cases called
  · intro error failed
    have answered : session.engine.answer? loopTicket = some (some error) := failed
    rw [orderly.unanswered free] at answered
    cases answered
  · exact fun asked => ending (orderly.ending asked)

private theorem call (orderly : session.Orderly) (free : session.called = false) {operation : Operation}
    (stands : operation? session.loop = some operation) :
    Orderly { session with called := true, engine := session.engine.enqueue loopTicket operation } := by
  have tickets := session.engine.tickets_enqueue loopTicket operation
  refine ⟨orderly.steady.same rfl rfl rfl rfl, ?_, ?_, ?_, ?_, ?_, orderly.failed, orderly.ending,
    orderly.removed, orderly.acted, orderly.told⟩
  · refine tickets.nodup_iff.mpr (List.nodup_cons.mpr ⟨?_, orderly.unique⟩)
    intro member
    rw [orderly.called.mpr member] at free
    cases free
  · exact ⟨fun _ => tickets.mem_iff.mpr List.mem_cons_self, fun _ => rfl⟩
  · refine orderly.removal.trans (Iff.trans ?_ tickets.mem_iff.symm)
    simp [loopTicket, removalTicket]
  · intro call waits
    rcases mem_pending_enqueue.mp waits with old | rfl
    · exact orderly.made call old
    · exact .inr ⟨rfl, stands⟩
  · exact fun _ => by simp only [stands, Option.isSome_some]

private theorem answered (orderly : session.Orderly) {failure : Option EngineError}
    (answered : session.engine.answer? loopTicket = some failure) :
    Orderly { session with called := false, engine := session.engine.takeAnswer loopTicket } := by
  have gone := not_mem_tickets_takeAnswer orderly.unique answered
  have kept : (session.engine.takeAnswer loopTicket).answer? removalTicket =
    session.engine.answer? removalTicket := takeAnswer_answer? _ (by decide)
  refine ⟨orderly.steady.same rfl rfl rfl rfl, tickets_takeAnswer_nodup orderly.unique _, ?_, ?_, ?_, ?_,
    ?_, orderly.ending, orderly.removed, ?_, orderly.told⟩
  · exact ⟨(by simp), fun member => absurd member gone⟩
  · exact orderly.removal.trans (mem_tickets_takeAnswer (by decide)).symm
  · exact orderly.made
  · exact fun called => by cases called
  · intro error failed
    exact absurd (mem_tickets_of_answer failed) gone
  · rw [kept]
    exact orderly.acted

private theorem callRemoval (orderly : session.Orderly) (asked : session.removal = .asked) :
    Orderly { session with
      removal := .called, engine := session.engine.enqueue removalTicket (.remove stopChannel) } := by
  have tickets := session.engine.tickets_enqueue removalTicket (.remove stopChannel)
  refine ⟨orderly.steady.same rfl rfl rfl rfl, ?_, ?_, ?_, ?_, orderly.stands, orderly.failed, ?_,
    fun _ => .inl rfl, ?_, ?_⟩
  · refine tickets.nodup_iff.mpr (List.nodup_cons.mpr ⟨?_, orderly.unique⟩)
    intro member
    have called := orderly.removal.mpr member
    rw [asked] at called
    cases called
  · refine orderly.called.trans (Iff.trans ?_ tickets.mem_iff.symm)
    simp [loopTicket, removalTicket]
  · exact ⟨fun _ => tickets.mem_iff.mpr List.mem_cons_self, fun _ => rfl⟩
  · intro call waits
    rcases mem_pending_enqueue.mp waits with old | rfl
    · exact orderly.made call old
    · exact .inl rfl
  · exact fun _ => orderly.ending (by simp [asked])
  · rintro (done | answered)
    · cases done
    · exact orderly.acted (.inr answered)
  · intro summary returned
    obtain ⟨ending, told⟩ := orderly.told summary returned
    exact ⟨ending, fun _ => told (by simp [asked])⟩

private theorem endRemoval (orderly : session.Orderly) (called : session.removal = .called)
    {failure : Option EngineError} (answered : session.engine.answer? removalTicket = some failure) :
    Orderly { session with
      removal := .done, engine := session.engine.takeAnswer removalTicket } := by
  have removed := orderly.acted (.inr (by simp [answered]))
  have gone := not_mem_tickets_takeAnswer orderly.unique answered
  have kept : (session.engine.takeAnswer removalTicket).answer? loopTicket =
    session.engine.answer? loopTicket := takeAnswer_answer? _ (by decide)
  refine ⟨orderly.steady.same rfl rfl rfl rfl, tickets_takeAnswer_nodup orderly.unique _, ?_, ?_,
    orderly.made, orderly.stands, ?_, ?_, fun _ => .inr rfl, fun _ => removed, ?_⟩
  · exact orderly.called.trans (mem_tickets_takeAnswer (by decide)).symm
  · exact ⟨(by simp), fun member => absurd member gone⟩
  · rw [kept]
    exact orderly.failed
  · exact fun _ => orderly.ending (by simp [called])
  · intro summary returned
    obtain ⟨ending, told⟩ := orderly.told summary returned
    exact ⟨ending, fun _ => told (by simp [called])⟩

private theorem engine (orderly : session.Orderly) {event : EngineEvent} {engine : Engine}
    (moved : session.engine.Moves event engine) : Orderly { session with engine } := by
  have tickets := moved.serves.tickets_perm
  refine ⟨moved.steady orderly.steady, tickets.nodup_iff.mpr orderly.unique,
    orderly.called.trans tickets.mem_iff.symm, orderly.removal.trans tickets.mem_iff.symm,
    fun call waits => orderly.made call (moved.serves.pending_subset call waits), orderly.stands,
    ?_, orderly.ending, ?_, ?_, orderly.told⟩
  · intro error failed
    rcases moved.answers orderly.steady failed with earlier | ⟨operation, waits, launches, -⟩
    · exact orderly.failed error earlier
    · have launch := launches rfl
      refine ⟨operation, (orderly.of_loop waits ?_).2, launch⟩
      rintro rfl
      exact launch
  · intro removed
    rcases moved.removed with same | ⟨-, ticket, channel, waits⟩
    · exact orderly.removed (same ▸ removed)
    · obtain ⟨rfl, rfl⟩ := orderly.of_removal waits
      exact .inl (orderly.removal.mpr (mem_tickets_of_pending waits))
  · rintro (done | answered)
    · exact moved.removed_mono (orderly.acted (.inl done))
    · obtain ⟨failure, answered⟩ := Option.isSome_iff_exists.mp answered
      rcases moved.answers orderly.steady answered with earlier | ⟨operation, waits, -, took⟩
      · exact moved.removed_mono (orderly.acted (.inr (by simp [earlier])))
      · rcases orderly.made _ waits with removal | ⟨other, -⟩
        · cases removal
          exact took _ rfl
        · cases other

end Orderly

theorem Fresh.orderly {session : Session} (fresh : session.Fresh) : session.Orderly := by
  have nothing : session.engine.pending = [] := by
    simp [Engine.pending, fresh.waiting, fresh.busy]
  have tickets : session.engine.tickets = [] := by
    simp [Engine.tickets, nothing, fresh.answers]
  have unanswered : ∀ ticket, session.engine.answer? ticket = none := by
    simp [answer?, fresh.answers]
  refine ⟨⟨?_, ?_, ?_, ?_, ?_⟩, ?_, ?_, ?_, ?_, ?_, ?_, ?_, ?_, ?_, ?_⟩
  · simp [fresh.instances]
  · simp [fresh.current]
  · simp [fresh.instances]
  · simp [fresh.busy]
  · simp [fresh.removed]
  · simp [tickets]
  · simp [tickets, fresh.called]
  · simp [tickets, fresh.removal]
  · simp [nothing]
  · simp [fresh.called]
  · simp [unanswered]
  · simp [fresh.removal]
  · simp [fresh.removed]
  · simp [fresh.removal, unanswered]
  · simp [fresh.point]

theorem Moves.orderly {session after : Session} {event : SessionEvent} (moved : session.Moves event after)
    (orderly : session.Orderly) : after.Orderly := by
  cases moved with
  | run stands =>
    exact orderly.withLoop (orderly.free (by simp [operation?, stands])) (fun ending => ending) (by simp)
  | call free stands => exact orderly.call free stands
  | resume called answered resumes =>
    have taken := orderly.answered answered
    cases resumes with
    | started | armed | relaunched | failed =>
      exact taken.withLoop rfl (fun ending => ending) (by simp)
    | refused => exact taken.withLoop rfl (fun ending => ending) (by simp)
  | pickChange watching taken stands steps =>
    have free := orderly.free (by simp [operation?, stands])
    cases steps with
    | ignored | changed => exact orderly.withLoop free (fun ending => ending) (by simp)
  | noticeClosed watching ended stands =>
    exact orderly.withLoop (orderly.free (by simp [operation?, stands])) (fun ending => ending) (by simp)
  | receive queued stands stops =>
    have free := orderly.free (by simp [operation?, stands])
    have taken : Orderly { session with engine := received session.engine } :=
      ⟨orderly.steady.same rfl rfl rfl rfl, orderly.unique, orderly.called, orderly.removal, orderly.made,
        orderly.stands, orderly.failed, orderly.ending, orderly.removed, orderly.acted, orderly.told⟩
    cases stops with
    | settled | crashed | last => exact taken.withLoop free (fun ending => ending) (by simp)
  | @leave failure changes stands =>
    apply orderly.withLoop (orderly.free (by simp [operation?, stands]))
    · exact fun _ => rfl
    · intro summary returned
      refine ⟨rfl, ?_⟩
      intro asked
      have ending := orderly.ending asked
      cases failure with
      | none =>
        simp only [ControlLoop.finish, LoopPoint.returned.injEq, Except.ok.injEq] at returned
        rw [← returned]
        exact ending
      | some error => simp [ControlLoop.finish] at returned
  | change | closeWatcher =>
    exact ⟨orderly.steady, orderly.unique, orderly.called, orderly.removal, orderly.made, orderly.stands,
      orderly.failed, orderly.ending, orderly.removed, orderly.acted, orderly.told⟩
  | interruptLate => exact orderly
  | interruptFirst going =>
    have unasked := orderly.unasked going
    refine ⟨orderly.steady, orderly.unique, orderly.called, ?_, orderly.made, orderly.stands,
      orderly.failed, fun _ => rfl, ?_, ?_, ?_⟩
    · refine Iff.trans ?_ orderly.removal
      simp [unasked]
    · intro removed
      rcases orderly.removed removed with called | done
      · rw [unasked] at called
        cases called
      · rw [unasked] at done
        cases done
    · rintro (done | answered)
      · cases done
      · exact orderly.acted (.inr answered)
    · intro summary returned
      rw [(orderly.told summary returned).1] at going
      cases going
  | callRemoval asked => exact orderly.callRemoval asked
  | endRemoval called answered => exact orderly.endRemoval called answered
  | engine moved => exact orderly.engine moved

theorem run_orderly {initial final : Session} {events : List SessionEvent}
    (ran : initial.run events = some final) (orderly : initial.Orderly) : final.Orderly :=
  runAll_keeps (fun _ _ _ stepped orderly => (step_moves stepped).orderly orderly) ran orderly

end MockKeeper.Session
