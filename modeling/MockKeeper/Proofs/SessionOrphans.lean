import MockKeeper.Proofs.SessionAccounts

/-! A loop that returned leaves nothing behind: everything its engine launched has ended,
and nobody is left who would launch again. -/

namespace MockKeeper.Session
open Engine

variable {session after : Session}

theorem Moves.launches_nothing {event : SessionEvent} (moved : session.Moves event after)
    (orderly : session.Orderly) (quiet : session.engine.Quiet) :
    after.engine.launchedCount = session.engine.launchedCount ∧
      after.engine.instances.length = session.engine.instances.length := by
  cases moved with
  | engine moved => exact moved.launches_nothing orderly.steady quiet
  | _ => exact ⟨rfl, rfl⟩

/-- Nobody asks a removed engine, or one whose loop returned, for a launch. -/
def Finished (session : Session) : Prop :=
  session.engine.removed = true ∨ ∃ result, session.loop.point = .returned result

theorem Finished.quiet (finished : session.Finished) (orderly : session.Orderly) : session.engine.Quiet := by
  rcases finished with removed | ⟨result, returned⟩
  · exact .inl removed
  · refine .inr ?_
    intro call waits
    rw [orderly.removals (orderly.free (by simp [operation?, returned])) call waits]
    exact id

theorem Moves.finished {event : SessionEvent} (moved : session.Moves event after)
    (orderly : session.Orderly) (finished : session.Finished) : after.Finished := by
  rcases finished with removed | ⟨result, returned⟩
  · cases moved with
    | engine moved => exact .inl (moved.removed_mono removed)
    | _ => exact .inl removed
  · have free := orderly.free (by simp [operation?, returned])
    cases moved with
    | run stands | leave stands => cases returned.symm.trans stands
    | pickChange watching taken stands | noticeClosed watching taken stands | receive queued stands =>
      cases returned.symm.trans stands
    | resume called => cases free.symm.trans called
    | call | change | closeWatcher | interruptLate | interruptFirst | callRemoval | endRemoval | engine =>
      exact .inr ⟨result, returned⟩

theorem run_launches_nothing {final : Session} {events : List SessionEvent}
    (ran : session.run events = some final) (orderly : session.Orderly) (finished : session.Finished) :
    final.engine.launchedCount = session.engine.launchedCount ∧
      final.engine.instances.length = session.engine.instances.length ∧
      Evolves session.engine.instances final.engine.instances := by
  refine (runAll_keeps (motive := fun before => before.Orderly ∧ before.Finished ∧
    before.engine.launchedCount = session.engine.launchedCount ∧
    before.engine.instances.length = session.engine.instances.length ∧
    Evolves session.engine.instances before.engine.instances) ?_ ran ⟨orderly, finished, rfl, rfl, .refl _⟩).2.2
  rintro before event after stepped ⟨orderly, finished, count, length, evolves⟩
  have moved := step_moves stepped
  obtain ⟨sameCount, sameLength⟩ := moved.launches_nothing orderly (finished.quiet orderly)
  exact ⟨moved.orderly orderly, moved.finished orderly finished, sameCount.trans count,
    sameLength.trans length, evolves.trans moved.evolves.1⟩

theorem result?_eq_some {loop : ControlLoop} {result : Except EngineError Summary} :
    loop.result? = some result ↔ loop.point = .returned result := by
  unfold ControlLoop.result?
  cases loop.point <;> simp

/-- When the loop has returned, with a failure or without, no instance that its engine ever
launched is running, and none is launched by whatever happens afterwards. -/
theorem returned_leaves_none_running {initial session : Session} {events : List SessionEvent}
    {result : Except EngineError Summary} (fresh : initial.Fresh)
    (ran : initial.run events = some session)
    (faithful : session.engine.Faithful initial.engine.nextSynthetic)
    (returned : session.loop.result? = some result) :
    (∀ entry ∈ session.engine.instances, entry.isRunning = false) ∧
      ∀ later final, session.run later = some final →
        final.engine.launchedCount = session.engine.launchedCount ∧
        final.engine.instances.length = session.engine.instances.length ∧
        ∀ entry ∈ final.engine.instances, entry.isRunning = false := by
  have accounted := run_accounted fresh ran faithful
  have point := result?_eq_some.mp returned
  have gone : session.engine.AllGone := accounted.balanced.ended (by rw [stance_eq point rfl]; rfl)
  have stopped : ∀ entry ∈ session.engine.instances, entry.isRunning = false :=
    fun entry member => Instance.stopped_of_gone (gone entry member) (faithful.kept entry member)
  refine ⟨stopped, ?_⟩
  intro later final goes
  obtain ⟨count, length, evolves⟩ := run_launches_nothing goes accounted.orderly (.inr ⟨result, point⟩)
  refine ⟨count, length, ?_⟩
  intro entry member
  obtain ⟨index, found⟩ := List.mem_iff_getElem?.mp member
  obtain ⟨earlier, foundEarlier, grows⟩ := evolves.origin length found
  obtain ⟨error, published⟩ :=
    Instance.isRunning_eq_false.mp (stopped earlier (List.mem_of_getElem? foundEarlier))
  exact Instance.isRunning_eq_false.mpr ⟨error, grows.published error published⟩

def crashing : List SessionEvent :=
  .run :: asks ++ arms "one" ++ ends 0 (.failure "exit status: 1") ++
    [.engine (.report 0 stopChannel), .receive, .leave]

theorem crash_leaves_none_running : ∃ session, unused.run crashing = some session ∧
    session.engine.launchedCount = 1 ∧ (∀ entry ∈ session.engine.instances, entry.isRunning = false) ∧
    ∀ later final, session.run later = some final → final.engine.launchedCount = 1 := by
  have facts : (unused.run crashing).any (fun session => session.loop.result?.isSome && decide (
      (session.engine.instances.map Instance.id).Nodup ∧
        (∀ entry ∈ session.engine.instances, ¬ entry.Abandoned) ∧
        session.engine.nextSynthetic = 1 ∧ session.engine.launchedCount = 1)) = true := by
    decide +kernel
  simp only [Option.any_eq_true, Bool.and_eq_true, decide_eq_true_eq] at facts
  obtain ⟨session, ran, ended, distinct, kept, numbered, count⟩ := facts
  obtain ⟨result, returned⟩ := Option.isSome_iff_exists.mp ended
  have reliable : session.engine.Reliable := ⟨distinct, kept⟩
  obtain ⟨stopped, later⟩ := returned_leaves_none_running unused_fresh ran
    (reliable.faithful numbered) returned
  exact ⟨session, ran, count, stopped, fun events final goes => ((later events final goes).1).trans count⟩

end MockKeeper.Session
