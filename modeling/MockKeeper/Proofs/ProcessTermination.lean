import MockKeeper.Engine.Process
import MockKeeper.Proofs.InstanceEndings

/-! The termination of a process, from the mark on its instance to its return. The process is asked
to end, and killed only where it cannot be asked or has not ended when its grace is over. -/

namespace MockKeeper.ProcessRun

inductive Moves (run : ProcessRun) (grace : Elapsed) : ProcessEvent → ProcessRun → Prop
  | exited {result : Except String ExitStatus} {entry : Instance}
      (finished : run.entry.finish (outcomeOf result) = some entry) : Moves run grace (.exited result) { run with entry }
  | noticed (asked : run.entry.killRequested = true) :
      Moves run grace .noticeKill { run with noticed := true, signals := run.signals ++ [.kill] }
  | examined {entry : Instance} (examined : run.entry.examine = some entry) : Moves run grace .examine { run with entry }
  | asked {now : Nat} {delivered : Bool} (unasked : run.teardown = .unasked) (runs : run.entry.isRunning = true)
      (told : delivered = true → ∀ pid ∈ run.entry.pid, pidFits pid = true) :
      Moves run grace (.terminate now delivered)
        ({ run with entry := run.entry.markStopping }.beginTeardown grace now delivered)
  | late {now : Nat} {delivered : Bool} (unasked : run.teardown = .unasked) (ended : run.entry.isRunning = false) :
      Moves run grace (.terminate now delivered) { run with entry := run.entry.markStopping, teardown := .done }
  | gone (begun : run.teardown ≠ .unasked) (gone : run.entry.gone?.isSome = true) :
      Moves run grace .gone { run with teardown := .done }
  | insisted {now deadline : Nat} (waits : run.teardown = .waiting deadline) (passed : deadline ≤ now) :
      Moves run grace (.graceOver now)
        { run with
          teardown := .insisting, entry := run.entry.requestKill
          log := run.log ++ [graceOverLine run.entry.id grace] }

variable {run after : ProcessRun} {grace : Elapsed} {event : ProcessEvent}

theorem step_moves (moved : run.step grace event = some after) : run.Moves grace event after := by
  cases event with
  | exited result =>
    obtain ⟨entry, finished, rfl⟩ := Option.map_eq_some_iff.mp moved
    exact .exited finished
  | noticeKill =>
    simp only [step, Bool.and_eq_true] at moved
    split at moved
    next asked =>
      cases moved
      exact .noticed asked.1.1
    next => cases moved
  | examine =>
    obtain ⟨entry, examined, rfl⟩ := Option.map_eq_some_iff.mp moved
    exact .examined examined
  | terminate now delivered =>
    simp only [step] at moved
    split at moved
    next => cases moved
    next unasked =>
      split at moved
      next => cases moved
      next told =>
        split at moved
        next runs =>
          cases moved
          refine .asked (by simpa using unasked) runs fun delivered => ?_
          simpa [delivered, Option.any_eq_true] using told
        next ended =>
          cases moved
          exact .late (by simpa using unasked) (by simpa [Instance.isRunning, Instance.markStopping] using ended)
  | gone =>
    simp only [step] at moved
    split at moved
    next waits gone =>
      cases moved
      exact .gone (by simp [waits]) (by simp [gone])
    next insists gone =>
      cases moved
      exact .gone (by simp [insists]) (by simp [gone])
    next => cases moved
  | graceOver now =>
    simp only [step] at moved
    split at moved
    next deadline waits _ =>
      split at moved
      next passed =>
        cases moved
        exact .insisted waits passed
      next => cases moved
    next => cases moved

theorem beginTeardown_evolves (run : ProcessRun) (grace : Elapsed) (now : Nat) (delivered : Bool) :
    run.entry.Evolves (run.beginTeardown grace now delivered).entry := by
  unfold beginTeardown
  dsimp only
  split
  next => exact .killed
  next pid _ => cases pidFits pid <;> cases delivered <;> first | exact .killed | exact .same

theorem beginTeardown_teardown (run : ProcessRun) (grace : Elapsed) (now : Nat) (delivered : Bool) :
    (run.beginTeardown grace now delivered).teardown = .waiting (now + grace.nanoseconds) := by
  unfold beginTeardown
  dsimp only
  split
  next => rfl
  next pid _ => cases pidFits pid <;> cases delivered <;> rfl

/-- A process that the system cannot tell by its number is killed, and sent no signal before. -/
theorem beginTeardown_unfit {pid now : Nat} (known : run.entry.pid = some pid) (unfit : pidFits pid = false) :
    (run.beginTeardown grace now false).signals = run.signals ∧
      (run.beginTeardown grace now false).entry.killRequested = true := by
  simp [beginTeardown, known, unfit, Instance.requestKill]

theorem Moves.evolves (moved : run.Moves grace event after) : run.entry.Evolves after.entry := by
  cases moved with
  | @exited result _ finished =>
    refine .finished ?_ finished
    rcases result with reason | ⟨_ | number⟩ | _ <;> exact nofun
  | examined examined => exact .examined examined
  | asked => exact .trans .marked (beginTeardown_evolves { run with entry := run.entry.markStopping } _ _ _)
  | late => exact .marked
  | insisted => exact .killed
  | noticed | gone => exact .same

def KillAsked (run : ProcessRun) : Prop := run.entry.killRequested = true ∨ .kill ∈ run.signals

theorem beginTeardown_kill_asked {now : Nat} {delivered : Bool}
    (asked : (run.beginTeardown grace now delivered).KillAsked) :
    run.KillAsked ∨ run.entry.pid = none ∨ delivered = false := by
  unfold beginTeardown at asked
  dsimp only at asked
  split at asked
  next none => exact .inr (.inl none)
  next =>
    cases delivered with
    | false => exact .inr (.inr rfl)
    | true =>
      left
      simp only [if_true] at asked
      split at asked
      next => exact asked.imp_right fun sent => (List.mem_append.mp sent).resolve_right (by simp)
      next => exact asked

theorem Moves.kill_asked (moved : run.Moves grace event after) (asked : after.KillAsked) :
    run.KillAsked ∨ (∃ now delivered, event = .terminate now delivered ∧ (run.entry.pid = none ∨ delivered = false)) ∨
      ∃ now deadline, event = .graceOver now ∧ run.teardown = .waiting deadline ∧ deadline ≤ now := by
  cases moved with
  | exited finished =>
    obtain ⟨-, rfl⟩ := Instance.finish_eq_some finished
    exact .inl asked
  | examined examined =>
    obtain ⟨outcome, -, rfl⟩ := Instance.examine_eq_some examined
    exact .inl asked
  | noticed requested => exact .inl (.inl requested)
  | asked => exact (beginTeardown_kill_asked asked).imp_right fun cause => .inl ⟨_, _, rfl, cause⟩
  | late | gone => exact .inl asked
  | insisted waits passed => exact .inr (.inr ⟨_, _, rfl, waits, passed⟩)

/-- A termination from the mark on the instance on. Events may come between the mark and the look
at the instance, at which the process is asked to end. -/
structure Terminates (grace : Elapsed) (called : ProcessRun) (early : List ProcessEvent) (looked : ProcessRun)
    (now : Nat) (delivered : Bool) (late : List ProcessEvent) (after : ProcessRun) : Prop where
  marked : runAll (step · grace) { called with entry := called.entry.markStopping } early = some looked
  begun : runAll (step · grace) looked (.terminate now delivered :: late) = some after

/-- A termination that goes on until its instance has stopped, or returned then. -/
structure Underway (due : Nat) (run : ProcessRun) : Prop where
  kept : ¬ run.entry.Abandoned
  begun : run.teardown ≠ .unasked
  due : ∀ deadline, run.teardown = .waiting deadline → deadline = due
  ended : run.teardown = .done → run.entry.isRunning = false

theorem Moves.unasked (moved : run.Moves grace event after) (unasked : after.teardown = .unasked) :
    run.teardown = .unasked ∧ (∀ now delivered, event ≠ .terminate now delivered) ∧
      ∀ now, event ≠ .graceOver now := by
  cases moved with
  | exited | noticed | examined => exact ⟨unasked, nofun, nofun⟩
  | asked => exact absurd unasked (by simp [beginTeardown_teardown])
  | late | gone | insisted => cases unasked

theorem Moves.unkilled (moved : run.Moves grace event after) (unasked : after.teardown = .unasked)
    (unkilled : ¬ run.KillAsked) : ¬ after.KillAsked := by
  obtain ⟨-, begun, early⟩ := moved.unasked unasked
  intro asked
  obtain before | ⟨now, delivered, terminates, -⟩ | ⟨now, -, insisted, -⟩ := moved.kill_asked asked
  · exact unkilled before
  · exact begun now delivered terminates
  · exact early now insisted

section Beginning
variable {now : Nat} {delivered : Bool}

theorem Moves.begins_unasked (moved : run.Moves grace (.terminate now delivered) after) :
    run.teardown = .unasked := by
  cases moved with
  | asked unasked | late unasked => exact unasked

theorem Moves.begins (moved : run.Moves grace (.terminate now delivered) after) (kept : ¬ run.entry.Abandoned) :
    Underway (now + grace.nanoseconds) after := by
  have kept := moved.evolves.kept kept
  cases moved with
  | asked unasked runs =>
    refine ⟨kept, ?_, ?_, ?_⟩
    · simp [beginTeardown_teardown]
    · intro deadline waits
      rw [beginTeardown_teardown] at waits
      cases waits
      rfl
    · simp [beginTeardown_teardown]
  | late unasked ended => exact ⟨kept, nofun, nofun, fun _ => ended⟩

end Beginning

theorem Moves.underway {due : Nat} (moved : run.Moves grace event after) (underway : Underway due run) :
    Underway due after := by
  have evolves := moved.evolves
  have kept := evolves.kept underway.kept
  cases moved with
  | exited | examined | noticed =>
    exact ⟨kept, underway.begun, underway.due, fun done => evolves.stopped (underway.ended done)⟩
  | asked unasked | late unasked => exact absurd unasked underway.begun
  | gone begun gone => exact ⟨kept, nofun, nofun, fun _ => Instance.stopped_of_gone gone underway.kept⟩
  | insisted => exact ⟨kept, nofun, nofun, nofun⟩

theorem Moves.insists {due : Nat} (moved : run.Moves grace event after) (underway : Underway due run)
    (unkilled : ¬ run.KillAsked) (asked : after.KillAsked) : ∃ now, event = .graceOver now ∧ due ≤ now := by
  obtain before | ⟨now, delivered, rfl, -⟩ | ⟨now, deadline, same, waits, passed⟩ := moved.kill_asked asked
  · exact absurd before unkilled
  · exact absurd moved.begins_unasked underway.begun
  · exact ⟨now, same, underway.due deadline waits ▸ passed⟩

section Termination
variable {entry : Instance} {called looked : ProcessRun} {before early late : List ProcessEvent} {now : Nat}
  {delivered : Bool}

private theorem step_evolves : ∀ run event after, step run grace event = some after → run.entry.Evolves after.entry :=
  fun _ _ _ moved => (step_moves moved).evolves

theorem Terminates.evolves (terminates : called.Terminates grace early looked now delivered late after) :
    called.entry.markStopping.Evolves looked.entry ∧ looked.entry.Evolves after.entry :=
  ⟨.of_run step_evolves terminates.marked, .of_run step_evolves terminates.begun⟩

theorem Terminates.looked_unkilled (unkilled : entry.killRequested = false)
    (lived : runAll (step · grace) { entry } before = some called)
    (terminates : called.Terminates grace early looked now delivered late after) : ¬ looked.KillAsked := by
  -- What was asked for is never taken back, so a run that ends unasked was unasked all along.
  have kept : ∀ run event after, step run grace event = some after →
      (run.teardown = .unasked → ¬ run.KillAsked) → after.teardown = .unasked → ¬ after.KillAsked := by
    intro run event after moved unkilled unasked
    have moved := step_moves moved
    exact moved.unkilled unasked (unkilled (moved.unasked unasked).1)
  have first := runAll_keeps kept lived fun _ => by simp [KillAsked, unkilled]
  obtain ⟨begun, begins, -⟩ := Option.bind_eq_some_iff.mp terminates.begun
  exact runAll_keeps kept terminates.marked first (step_moves begins).begins_unasked

theorem Terminates.kill_caused (kept : ¬ looked.entry.Abandoned) (unkilled : ¬ looked.KillAsked)
    (terminates : called.Terminates grace early looked now delivered late after) (asked : after.KillAsked) :
    looked.entry.pid = none ∨ delivered = false ∨
      ∃ later, .graceOver later ∈ late ∧ now + grace.nanoseconds ≤ later := by
  obtain ⟨begun, begins, rest⟩ := Option.bind_eq_some_iff.mp terminates.begun
  have begins := step_moves begins
  refine Classical.byContradiction fun none => ?_
  have within := (not_or.mp (not_or.mp none).2).2
  have first : ¬ begun.KillAsked := by
    intro asked
    obtain before | ⟨_, _, ⟨rfl, rfl⟩, cause⟩ | ⟨_, _, insisted, -⟩ := begins.kill_asked asked
    · exact unkilled before
    · exact none (cause.imp_right .inl)
    · cases insisted
  have last : ¬ after.KillAsked ∧ Underway (now + grace.nanoseconds) after := by
    refine runAll_keeps_within (motive := fun run => ¬ run.KillAsked ∧ Underway (now + grace.nanoseconds) run) ?_
      rest ⟨first, begins.begins kept⟩
    rintro run event member next moved ⟨unkilled, underway⟩
    have moved := step_moves moved
    refine ⟨fun asked => ?_, moved.underway underway⟩
    obtain ⟨later, rfl, passed⟩ := moved.insists underway unkilled asked
    exact within ⟨later, member, passed⟩
  exact last.1 asked

/-- When the termination of a process returns, its instance has stopped, quietly unless it had
ended before. It was killed only if it could not be asked to end or its grace was over. -/
theorem Terminates.contract (runs : entry.supervision = .running) (unkilled : entry.killRequested = false)
    (lived : runAll (step · grace) { entry } before = some called)
    (terminates : called.Terminates grace early looked now delivered late after) (returned : after.teardown = .done) :
    after.entry.isRunning = false ∧ (called.entry.supervision = .running → after.entry.gone? = some none) ∧
      (after.KillAsked → entry.pid = none ∨ delivered = false ∨
        ∃ later, .graceOver later ∈ late ∧ now + grace.nanoseconds ≤ later) := by
  have reached : entry.Evolves looked.entry :=
    (Instance.Evolves.of_run step_evolves lived).trans (.trans .marked terminates.evolves.1)
  have kept := reached.kept (Instance.kept_of_running runs)
  obtain ⟨begun, begins, rest⟩ := Option.bind_eq_some_iff.mp terminates.begun
  have goes : ∀ run event after, step run grace event = some after →
      Underway (now + grace.nanoseconds) run → Underway (now + grace.nanoseconds) after :=
    fun _ _ _ moved => (step_moves moved).underway
  have stopped := (runAll_keeps goes rest ((step_moves begins).begins kept)).ended returned
  refine ⟨stopped, fun running => ?_, fun asked => ?_⟩
  · have evolves := terminates.evolves.1.trans terminates.evolves.2
    exact (evolves.stopping (Instance.stopping_of_running running)).told stopped
  · rw [← reached.pid]
    exact terminates.kill_caused kept (terminates.looked_unkilled unkilled lived) asked

end Termination

def settling (run : ProcessRun) (result : Except String ExitStatus) : List ProcessEvent :=
  match run.entry.supervision with
  | .running => [.exited result, .examine]
  | .ended _ => [.examine]
  | .published _ | .lost => []

/-- What is left to happen until a termination returns once its instance is gone. -/
def finishing (run : ProcessRun) : List ProcessEvent :=
  match run.teardown with
  | .waiting _ | .insisting => [.gone]
  | .unasked | .done => []

theorem examine_settles {outcome : Outcome} (ended : run.entry.supervision = .ended outcome) :
    ∃ after, runAll (step · grace) run [.examine] = some after ∧ after.teardown = run.teardown ∧
      after.entry.gone?.isSome = true := by
  obtain ⟨entry, examined, gone⟩ := Instance.examine_gone ended
  exact ⟨{ run with entry }, by simp [runAll, step, examined], rfl, gone⟩

theorem settles (grace : Elapsed) (run : ProcessRun) (result : Except String ExitStatus) :
    ∃ after, runAll (step · grace) run (run.settling result) = some after ∧ after.teardown = run.teardown ∧
      after.entry.gone?.isSome = true := by
  unfold settling
  split
  next runs =>
    have exited : run.step grace (.exited result) =
        some { run with entry := { run.entry with supervision := .ended (outcomeOf result) } } := by
      simp [step, Instance.finish_running _ runs]
    rw [runAll, exited]
    exact examine_settles rfl
  next ended => exact examine_settles ended
  next published => exact ⟨run, rfl, rfl, by simp [Instance.gone?, published]⟩
  next lost => exact ⟨run, rfl, rfl, by simp [Instance.gone?, lost]⟩

theorem finishes (grace : Elapsed) (begun : run.teardown ≠ .unasked) (gone : run.entry.gone?.isSome = true) :
    ∃ after, runAll (step · grace) run run.finishing = some after ∧ after.teardown = .done := by
  obtain ⟨error, known⟩ := Option.isSome_iff_exists.mp gone
  unfold finishing
  split
  next waits => simp [runAll, step, waits, known]
  next insists => simp [runAll, step, insists, known]
  next unasked => exact absurd unasked begun
  next done => exact ⟨run, rfl, done⟩

end MockKeeper.ProcessRun
