import MockKeeper.Proofs.SessionBalance

/-! The balance over whole sessions. Each event keeps it while no two instances share an
id, so it holds wherever a run from a fresh session ends. -/

namespace MockKeeper.Session
open Engine

variable {first : Nat} {session after : Session}

theorem stops_received {event : StopEvent} {rest : List StopEvent} (queued : session.queue = event :: rest) :
    (received session.engine).stops stopChannel = rest := by
  cases there : session.engine.channels[stopChannel]? with
  | none => simp [queue, there] at queued
  | some channel =>
    simp only [queue, there, Option.map_some, Option.getD_some] at queued
    simp [stops, received, there, StopChannel.tryReceive, queued]

theorem owed_received (queued : session.queue ≠ []) :
    (received session.engine).owed stopChannel + 1 = session.engine.owed stopChannel := by
  obtain ⟨event, rest, queued⟩ := List.exists_cons_of_ne_nil queued
  have shorter : (received session.engine).queued stopChannel + 1 = session.engine.queued stopChannel := by
    rw [queued_eq_length, stops_received queued, queued_eq, queued, List.length_cons]
  have unreported : (received session.engine).unreported stopChannel =
    session.engine.unreported stopChannel := rfl
  unfold owed
  omega

namespace Balanced

private theorem rearms (balanced : session.Balanced) (orderly : session.Orderly)
    (stands : session.loop.point = .awaiting) (point : after.loop.point = .arming)
    (pending : after.loop.restartsPending = session.loop.restartsPending)
    (engine : after.engine = session.engine) : after.Balanced := by
  have armed := orderly.stance_awaiting stands
  have unarmed : after.stance = .unarmed := orderly.stance_from_awaiting stands (by rw [engine]) point
  have going : session.stance ≠ .ended := by simp [armed]
  have needs : after.needed = session.needed := by
    simp only [needed, armed, unarmed, pending, Stance.share]
  cases removed : session.engine.removed with
  | true =>
    refine of_removed (by rw [engine, removed]) (by simp [unarmed]) ?_ ?_
    · rw [needs, engine]
      exact (balanced.late removed going).1
    · rw [needs, engine]
      exact (balanced.late removed going).2
  | false =>
    apply of_kept (by rw [engine, removed]) (by simp [unarmed]) (by simp [unarmed]) (by simp [unarmed])
    rw [needs, engine]
    exact balanced.even removed going

private theorem restarts (balanced : session.Balanced) (orderly : session.Orderly)
    (stands : session.loop.point = .awaiting) (going : session.loop.terminating = false)
    (point : after.loop.point = .restarting)
    (pending : after.loop.restartsPending = session.loop.restartsPending + 1)
    (engine : after.engine = session.engine) : after.Balanced := by
  have armed := orderly.stance_awaiting stands
  have between : after.stance = .between := orderly.stance_from_awaiting stands (by rw [engine]) point
  have kept := orderly.kept (orderly.unasked going)
  have even := balanced.even kept (by simp [armed])
  rw [needed_eq rfl armed kept] at even
  apply of_kept (by rw [engine, kept]) (by simp [between]) (by simp [between]) (by simp [between])
  rw [needed_eq pending between (by rw [engine, kept]), engine, even]
  rfl

private theorem settles (balanced : session.Balanced) (orderly : session.Orderly)
    (stands : session.loop.point = .awaiting) (queued : session.queue ≠ [])
    (restarted : 0 < session.loop.restartsPending) (point : after.loop.point = .arming)
    (pending : after.loop.restartsPending = session.loop.restartsPending - 1)
    (engine : after.engine = received session.engine) : after.Balanced := by
  have armed := orderly.stance_awaiting stands
  have unarmed : after.stance = .unarmed := orderly.stance_from_awaiting stands (by rw [engine]; rfl) point
  have going : session.stance ≠ .ended := by simp [armed]
  have fewer : after.needed + 1 = session.needed := by
    simp only [needed, armed, unarmed, pending, Stance.share]
    omega
  have owed : after.engine.owed stopChannel + 1 = session.engine.owed stopChannel := by
    rw [engine]
    exact owed_received queued
  have removedSame : after.engine.removed = session.engine.removed := by rw [engine]; rfl
  cases removed : session.engine.removed with
  | true =>
    obtain ⟨enough, exactly⟩ := balanced.late removed going
    apply of_removed (removedSame.trans removed) (by simp [unarmed]) (by omega)
    intro working
    have equal := exactly (by rw [engine] at working; exact working)
    omega
  | false =>
    have even := balanced.even removed going
    have unwatched : after.engine.unwatched stopChannel = session.engine.unwatched stopChannel := by
      rw [engine]
      exact unwatched_congr rfl rfl
    apply of_kept (removedSame.trans removed) (by simp [unarmed]) (by simp [unarmed]) (by simp [unarmed])
    rw [promised] at even ⊢
    omega

private theorem recovers (balanced : session.Balanced) (orderly : session.Orderly)
    (stands : session.loop.point = .awaiting) (queued : session.queue ≠ [])
    (alone : session.loop.restartsPending = 0) (going : session.loop.terminating = false)
    (point : after.loop.point = .recovering) (pending : after.loop.restartsPending = 0)
    (engine : after.engine = received session.engine) : after.Balanced := by
  have armed := orderly.stance_awaiting stands
  have crashed : after.stance = .crashed := orderly.stance_from_awaiting stands (by rw [engine]; rfl) point
  have kept := orderly.kept (orderly.unasked going)
  have keptOn : after.engine.removed = false := by rw [engine]; exact kept
  have even := balanced.even kept (by simp [armed])
  -- The start that follows finds a current instance, but one that does not run.
  have gone := balanced.allGone_of_last orderly stands alone queued
  refine of_kept keptOn (by simp [crashed]) ?_ (by simp [crashed]) ?_
  · rw [engine]
    intro _ index held
    obtain ⟨entry, found⟩ := orderly.steady.found held
    exact ⟨goneAt_eq_true.mpr ⟨entry, found, gone entry (List.mem_of_getElem? found)⟩,
      watched_of_unwatched (balanced.watched kept armed) held⟩
  · have owed := owed_received queued
    have unwatched : (received session.engine).unwatched stopChannel =
      session.engine.unwatched stopChannel := unwatched_congr rfl rfl
    rw [needed_eq alone armed kept, promised, Stance.share] at even
    rw [needed_eq pending crashed keptOn, engine, promised, unwatched, Stance.share]
    simp only [Bool.false_eq_true, if_false]
    omega

end Balanced

theorem Moves.balanced {event : SessionEvent} (moved : session.Moves event after)
    (orderly : session.Orderly) (holding : session.Holding first)
    (recorded : session.engine.Recorded first stopChannel) (faithful : session.engine.Faithful first)
    (later : after.engine.Faithful first) (balanced : session.Balanced) : after.Balanced := by
  cases moved with
  | run stands => exact balanced.aside (orderly.stance_run stands) rfl rfl rfl rfl rfl .inl
  | call => exact balanced.aside rfl rfl rfl rfl rfl rfl .inl
  | resume called answered resumes =>
    have stance := orderly.stance_resume answered resumes
    cases resumes <;> exact balanced.aside stance rfl rfl rfl rfl rfl .inl
  | pickChange watching taken stands steps =>
    cases steps with
    | ignored => exact balanced.rearms orderly stands rfl rfl rfl
    | changed _ going => exact balanced.restarts orderly stands going rfl rfl rfl
  | noticeClosed watching ended stands => exact balanced.rearms orderly stands rfl rfl rfl
  | receive queued stands stops =>
    have waits : session.queue ≠ [] := by simp [queued]
    cases stops with
    | settled restarted => exact balanced.settles orderly stands waits restarted rfl rfl rfl
    | crashed alone going => exact balanced.recovers orderly stands waits alone going rfl alone rfl
    | last alone => exact .of_ended rfl (balanced.allGone_of_last orderly stands alone waits)
  | leave stands =>
    refine .of_ended rfl (balanced.ended ?_)
    rw [stance_eq stands rfl]
    rfl
  | change | closeWatcher | interruptLate | interruptFirst | callRemoval =>
    exact balanced.aside rfl rfl rfl rfl rfl rfl .inl
  | endRemoval => exact balanced.aside session.stance_endRemoval rfl rfl rfl rfl rfl .inl
  | engine moved => exact balanced.engine orderly holding recorded faithful later moved

/-- A session never takes back what its engine launched, nor a number. -/
theorem Moves.evolves {event : SessionEvent} (moved : session.Moves event after) :
    Evolves session.engine.instances after.engine.instances ∧
      session.engine.nextSynthetic ≤ after.engine.nextSynthetic := by
  cases moved with
  | engine moved => exact ⟨moved.evolves, moved.numbers⟩
  | _ => exact ⟨.refl _, Nat.le_refl _⟩

theorem Moves.recorded {event : SessionEvent} (moved : session.Moves event after)
    (orderly : session.Orderly) (recorded : session.engine.Recorded first stopChannel) :
    after.engine.Recorded first stopChannel := by
  cases moved with
  | engine moved => exact moved.recorded orderly.steady recorded
  | receive => exact recorded.receive stopChannel
  | _ => exact recorded.moved (.refl _) (Nat.le_refl _) rfl

structure Accounted (first : Nat) (session : Session) : Prop where
  orderly : session.Orderly
  holding : session.Holding first
  recorded : session.engine.Recorded first stopChannel
  balanced : session.Balanced

theorem Fresh.accounted (fresh : session.Fresh) : session.Accounted session.engine.nextSynthetic := by
  have bare : session.engine.promised stopChannel = session.engine.owed stopChannel :=
    promised_of_bare fresh.current
  have owed : session.engine.owed stopChannel = 0 := by
    simp [owed, Engine.queued, unreported, fresh.channel, fresh.instances, StopChannel.pending]
  refine ⟨fresh.orderly, fresh.holding, ⟨Nat.le_refl _, ⟨_, fresh.channel⟩, ?_⟩, ?_⟩
  · intro queue there id member
    cases fresh.channel.symm.trans there
    cases member
  · refine .of_kept fresh.removed (by simp [fresh.stance]) ?_ (by simp [fresh.stance]) ?_
    · simp [fresh.current]
    · rw [bare, owed, needed_eq fresh.pending fresh.stance fresh.removed]
      rfl

theorem run_accounted {initial final : Session} {events : List SessionEvent} (fresh : initial.Fresh)
    (ran : initial.run events = some final)
    (faithful : final.engine.Faithful initial.engine.nextSynthetic) :
    final.Accounted initial.engine.nextSynthetic := by
  have back (before : Session) (event : SessionEvent) (after : Session) (stepped : before.step event = some after)
      (later : after.engine.Faithful initial.engine.nextSynthetic) :
      before.engine.Faithful initial.engine.nextSynthetic := by
    obtain ⟨evolves, numbers⟩ := (step_moves stepped).evolves
    exact later.earlier evolves numbers
  refine runAll_keeps_of back ?_ ran faithful fresh.accounted
  intro before event after faithful later stepped accounted
  have moved := step_moves stepped
  exact ⟨moved.orderly accounted.orderly, moved.holding accounted.orderly accounted.holding,
    moved.recorded accounted.orderly accounted.recorded,
    moved.balanced accounted.orderly accounted.holding accounted.recorded faithful later
      accounted.balanced⟩

end MockKeeper.Session
