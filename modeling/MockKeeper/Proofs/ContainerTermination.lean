import MockKeeper.Proofs.ContainerLife
import MockKeeper.Proofs.InstanceEndings

/-! The termination of a container, from the mark on its instance to the command that removes it.
Whatever the tool answers, the container is stopped at most once, killed only when that failed,
and removed last, when the supervisor gives no more commands. -/

namespace MockKeeper

def ContainerCommand.isStop : ContainerCommand → Bool
  | .stop .. => true
  | _ => false

namespace ContainerRun
variable {run after : ContainerRun} {grace : Elapsed} {event : ContainerEvent} {id : String}
  {stops : List ContainerCommand}

@[simp] theorem command_commands (command : ContainerCommand) :
    (run.command command).commands = run.commands ++ [command] := rfl

theorem Moves.evolves (moved : run.Moves grace event after) : run.entry.Evolves after.entry := by
  cases moved with
  | @waited result _ _ finished =>
    refine .finished ?_ finished
    cases result with
    | error => exact nofun
    | ok output =>
      unfold outcomeOf waitOutcome
      dsimp only
      split
      next => split <;> exact nofun
      next => exact nofun
  | examined examined => exact .examined examined
  | asked | late => exact .marked
  | unstopped => exact .killed
  | noticed | killed | stopped | gone | removed => exact .same

/-- The supervisor lives, and kills the container only while the instance runs. -/
structure Supervised (run : ContainerRun) : Prop where
  kept : ¬ run.entry.Abandoned
  kills : run.following = .killing → run.entry.supervision = .running

theorem launched_supervised {entry : Instance} (runs : entry.supervision = .running) : (launched entry).Supervised :=
  ⟨Instance.kept_of_running runs, nofun⟩

theorem Moves.supervised (moved : run.Moves grace event after) (supervised : run.Supervised) : after.Supervised := by
  refine ⟨moved.evolves.kept supervised.kept, ?_⟩
  cases moved with
  | waited listens finished => exact fun kills => absurd kills listens
  | noticed asked waits runs => exact fun _ => runs
  | killed => exact nofun
  | examined examined =>
    intro kills
    obtain ⟨outcome, ended, -⟩ := Instance.examine_eq_some examined
    exact absurd (supervised.kills kills) (by simp [ended])
  | asked | late | stopped | unstopped | gone | removed => exact supervised.kills

def KillAsked (run : ContainerRun) : Prop :=
  run.entry.killRequested = true ∨ .kill run.entry.id ∈ run.commands

theorem Moves.kill_asked (moved : run.Moves grace event after) (asked : after.KillAsked) :
    run.KillAsked ∨ ∃ error, event = .stopped (.error error) := by
  have frame (requested : after.entry.killRequested = run.entry.killRequested)
      (commands : .kill after.entry.id ∈ after.commands → .kill run.entry.id ∈ run.commands) : run.KillAsked :=
    asked.imp (fun asked => requested ▸ asked) commands
  cases moved with
  | unstopped => exact .inr ⟨_, rfl⟩
  | noticed requested => exact .inl (.inl requested)
  | waited listens finished =>
    obtain ⟨-, rfl⟩ := Instance.finish_eq_some finished
    exact .inl (frame rfl id)
  | examined examined =>
    obtain ⟨outcome, -, rfl⟩ := Instance.examine_eq_some examined
    exact .inl (frame rfl id)
  | stopped | removed => exact .inl (frame rfl id)
  | killed | asked | late | gone =>
    refine .inl (frame rfl fun member => ?_)
    exact (List.mem_append.mp member).resolve_right (by simp [Instance.markStopping])

structure Unremoved (id : String) (stops commands : List ContainerCommand) : Prop where
  kept : .remove id ∉ commands
  stops : commands.filter ContainerCommand.isStop = stops

theorem Unremoved.snoc {commands : List ContainerCommand} {command : ContainerCommand}
    (unremoved : Unremoved id stops commands) (other : command ≠ .remove id) :
    Unremoved id (stops ++ [command].filter ContainerCommand.isStop) (commands ++ [command]) := by
  refine ⟨?_, by rw [List.filter_append, unremoved.stops]⟩
  intro member
  rcases List.mem_append.mp member with before | last
  · exact unremoved.kept before
  · exact other (List.mem_singleton.mp last).symm

/-- The container is removed last, when its instance has stopped. -/
structure Orderly (id : String) (stops : List ContainerCommand) (run : ContainerRun) : Prop where
  named : run.entry.id = id
  standing : run.teardown ≠ .removing → run.teardown ≠ .done → Unremoved id stops run.commands
  removed : run.teardown = .removing ∨ run.teardown = .done → run.entry.isRunning = false ∧
    ∃ earlier, run.commands = earlier ++ [.remove id] ∧ Unremoved id stops earlier

private theorem Orderly.supervisor {command : ContainerCommand} {following : ContainerFollowing}
    (orderly : Orderly id stops run) (runs : run.entry.supervision = .running)
    (other : command ≠ .remove id) (harmless : command.isStop = false) :
    Orderly id stops ({ run with following }.command command) := by
  refine ⟨orderly.named, ?_, ?_⟩
  · intro unremoved unfinished
    simpa [harmless] using (orderly.standing unremoved unfinished).snoc other
  · intro removed
    have stopped := (orderly.removed removed).1
    simp [Instance.isRunning, runs] at stopped

private theorem Orderly.evolved {entry : Instance} (orderly : Orderly id stops run)
    (evolves : run.entry.Evolves entry) : Orderly id stops { run with entry } := by
  refine ⟨evolves.grows.id.trans orderly.named, orderly.standing, ?_⟩
  intro removed
  obtain ⟨stopped, commands⟩ := orderly.removed removed
  exact ⟨evolves.stopped stopped, commands⟩

private theorem Orderly.removal (orderly : Orderly id stops run)
    (stopped : run.entry.isRunning = false) (unremoved : Unremoved id stops run.commands) :
    Orderly id stops run.beginRemoval := by
  refine ⟨orderly.named, fun standing => absurd rfl standing, fun _ => ⟨stopped, run.commands, ?_, unremoved⟩⟩
  rw [← orderly.named]
  rfl

theorem Moves.orderly (moved : run.Moves grace event after) (begun : event ≠ .terminate) (supervised : run.Supervised)
    (orderly : Orderly id stops run) : Orderly id stops after := by
  have evolves := moved.evolves
  cases moved with
  | waited | examined => exact orderly.evolved evolves
  | noticed asked waits runs => exact orderly.supervisor runs nofun rfl
  | killed kills => exact orderly.supervisor (supervised.kills kills) nofun rfl
  | asked | late => exact absurd rfl begun
  | stopped stops | unstopped stops =>
    refine ⟨orderly.named, fun _ _ => orderly.standing ?_ ?_, by simp⟩ <;> simp [stops]
  | gone waits gone =>
    exact orderly.removal (Instance.stopped_of_gone gone supervised.kept)
      (orderly.standing (by simp [waits]) (by simp [waits]))
  | removed removes =>
    exact ⟨orderly.named, fun _ unfinished => absurd rfl unfinished, fun _ => orderly.removed (.inl removes)⟩

/-- Before its termination begins a container is neither stopped nor killed. -/
structure Untouched (id : String) (run : ContainerRun) : Prop where
  supervised : run.Supervised
  orderly : Orderly id [] run
  unkilled : ¬ run.KillAsked

def stopsOf (grace : Elapsed) (id : String) (looked : Instance) : List ContainerCommand :=
  if looked.isRunning then [.stop id grace.seconds] else []

structure Underway (id : String) (stops : List ContainerCommand) (run : ContainerRun) : Prop where
  begun : run.teardown ≠ .unasked
  supervised : run.Supervised
  orderly : Orderly id stops run

theorem launched_untouched {entry : Instance} (runs : entry.supervision = .running)
    (unkilled : entry.killRequested = false) : Untouched entry.id (launched entry) := by
  refine ⟨launched_supervised runs, ⟨rfl, fun _ _ => ⟨by simp [launched], rfl⟩, by simp [launched]⟩, ?_⟩
  simp [KillAsked, launched, unkilled]

theorem Untouched.marked (untouched : Untouched id run) :
    Untouched id { run with entry := run.entry.markStopping } :=
  ⟨⟨untouched.supervised.kept, untouched.supervised.kills⟩, untouched.orderly.evolved .marked, untouched.unkilled⟩

theorem Moves.unasked (moved : run.Moves grace event after) (unasked : after.teardown = .unasked) :
    run.teardown = .unasked ∧ event ≠ .terminate ∧ ∀ result, event ≠ .stopped result := by
  cases moved with
  | waited | examined => exact ⟨unasked, nofun, nofun⟩
  | noticed | killed => exact ⟨unasked, nofun, nofun⟩
  | asked | late | stopped | unstopped | gone | removed => cases unasked

theorem Moves.untouched (moved : run.Moves grace event after) (unasked : after.teardown = .unasked)
    (untouched : Untouched id run) : Untouched id after := by
  obtain ⟨-, begun, unstopped⟩ := moved.unasked unasked
  refine ⟨moved.supervised untouched.supervised, moved.orderly begun untouched.supervised untouched.orderly, ?_⟩
  intro asked
  obtain before | ⟨error, stopped⟩ := moved.kill_asked asked
  · exact untouched.unkilled before
  · exact unstopped _ stopped

theorem Moves.begins_unasked (moved : run.Moves grace .terminate after) : run.teardown = .unasked := by
  cases moved with
  | asked unasked | late unasked => exact unasked

theorem Moves.begins (moved : run.Moves grace .terminate after) (untouched : Untouched id run) :
    Underway id (stopsOf grace id run.entry) after := by
  have supervised := moved.supervised untouched.supervised
  have orderly := untouched.orderly
  have standing := orderly.standing (by simp [moved.begins_unasked]) (by simp [moved.begins_unasked])
  cases moved with
  | asked unasked runs =>
    refine ⟨by simp [command], supervised, ⟨orderly.named, fun _ _ => ?_, by simp [command]⟩⟩
    rw [stopsOf, if_pos runs, ← orderly.named]
    rw [← orderly.named] at standing
    exact standing.snoc (show ContainerCommand.stop run.entry.id grace.seconds ≠ .remove run.entry.id from nofun)
  | late unasked ended =>
    refine ⟨by simp [beginRemoval, command], supervised, ?_⟩
    simp only [stopsOf, ended]
    exact (orderly.evolved .marked).removal ended standing

theorem Moves.underway (moved : run.Moves grace event after) (underway : Underway id stops run) :
    Underway id stops after := by
  have again : event ≠ .terminate := by
    rintro rfl
    exact underway.begun moved.begins_unasked
  exact ⟨fun unasked => underway.begun (moved.unasked unasked).1, moved.supervised underway.supervised,
    moved.orderly again underway.supervised underway.orderly⟩

/-- A termination from the mark on the instance on. Events may come between the mark and the look
at the instance with which the commands begin. -/
structure Terminates (grace : Elapsed) (called : ContainerRun) (early : List ContainerEvent) (looked : ContainerRun)
    (late : List ContainerEvent) (after : ContainerRun) : Prop where
  marked : runAll (step · grace) { called with entry := called.entry.markStopping } early = some looked
  begun : runAll (step · grace) looked (.terminate :: late) = some after

section Termination
variable {called looked : ContainerRun} {before early late : List ContainerEvent} {entry : Instance}

theorem Terminates.evolves (terminates : called.Terminates grace early looked late after) :
    called.entry.markStopping.Evolves after.entry := by
  have each : ∀ run event after, step run grace event = some after → run.entry.Evolves after.entry :=
    fun _ _ _ moved => (step_moves moved).evolves
  exact (Instance.Evolves.of_run each terminates.marked).trans (Instance.Evolves.of_run each terminates.begun)

theorem Terminates.looked_untouched (runs : entry.supervision = .running) (unkilled : entry.killRequested = false)
    (lived : runAll (step · grace) (launched entry) before = some called)
    (terminates : called.Terminates grace early looked late after) : Untouched entry.id looked := by
  -- What was asked for is never taken back, so a run that ends unasked was unasked all along.
  have kept : ∀ run event after, step run grace event = some after →
      (run.teardown = .unasked → Untouched entry.id run) → after.teardown = .unasked → Untouched entry.id after := by
    intro run event after moved untouched unasked
    have moved := step_moves moved
    exact moved.untouched unasked (untouched (moved.unasked unasked).1)
  have first := runAll_keeps kept lived fun _ => launched_untouched runs unkilled
  obtain ⟨begun, begins, -⟩ := Option.bind_eq_some_iff.mp terminates.begun
  exact runAll_keeps kept terminates.marked (fun unasked => (first unasked).marked) (step_moves begins).begins_unasked

theorem Terminates.underway (untouched : Untouched id looked)
    (terminates : called.Terminates grace early looked late after) :
    Underway id (stopsOf grace id looked.entry) after := by
  obtain ⟨begun, begins, rest⟩ := Option.bind_eq_some_iff.mp terminates.begun
  exact runAll_keeps (fun _ _ _ moved => (step_moves moved).underway) rest ((step_moves begins).begins untouched)

theorem Terminates.kill_caused (unkilled : ¬ looked.KillAsked)
    (terminates : called.Terminates grace early looked late after) (asked : after.KillAsked) :
    ∃ error, .stopped (.error error) ∈ late := by
  refine Classical.byContradiction fun none => ?_
  have never : ¬ after.KillAsked := by
    refine runAll_keeps_within (motive := fun run => ¬ run.KillAsked) ?_ terminates.begun unkilled
    intro run event member next moved unkilled asked
    obtain before | ⟨error, rfl⟩ := (step_moves moved).kill_asked asked
    · exact unkilled before
    · exact none ⟨error, (List.mem_cons.mp member).resolve_left nofun⟩
  exact never asked

/-- When the termination of a container returns, its instance has stopped, quietly unless it had
ended before. It was stopped at most once, if it ran, killed only if that failed, and removed last. -/
theorem Terminates.contract (runs : entry.supervision = .running) (unkilled : entry.killRequested = false)
    (lived : runAll (step · grace) (launched entry) before = some called)
    (terminates : called.Terminates grace early looked late after) (returned : after.teardown = .done) :
    after.entry.isRunning = false ∧ (called.entry.supervision = .running → after.entry.gone? = some none) ∧
      (after.KillAsked → ∃ error, .stopped (.error error) ∈ late) ∧
      ∃ earlier, after.commands = earlier ++ [.remove entry.id] ∧
        Unremoved entry.id (stopsOf grace entry.id looked.entry) earlier := by
  have untouched := terminates.looked_untouched runs unkilled lived
  obtain ⟨stopped, commands⟩ := (terminates.underway untouched).orderly.removed (.inr returned)
  refine ⟨stopped, fun running => ?_, terminates.kill_caused untouched.unkilled, commands⟩
  exact (terminates.evolves.stopping (Instance.stopping_of_running running)).told stopped

end Termination

/-- What is left to happen until the supervisor publishes the end: what the tool answers to the
commands that it gave, and what it does then. -/
def settling (run : ContainerRun) (kill wait : Except EngineError String) : List ContainerEvent :=
  match run.entry.supervision with
  | .running => (if run.following = .killing then [.killed kill] else []) ++ [.waited wait, .examine]
  | .ended _ => [.examine]
  | .published _ | .lost => []

/-- What is left to happen until a termination returns once its instance is gone. -/
def finishing (run : ContainerRun) (stop removal : Except EngineError String) : List ContainerEvent :=
  match run.teardown with
  | .stopping => [.stopped stop, .gone, .removed removal]
  | .waiting => [.gone, .removed removal]
  | .removing => [.removed removal]
  | .unasked | .done => []

theorem examine_settles {outcome : Outcome} (ended : run.entry.supervision = .ended outcome) :
    ∃ after, runAll (step · grace) run [.examine] = some after ∧ after.teardown = run.teardown ∧
      after.entry.gone?.isSome = true := by
  obtain ⟨entry, examined, gone⟩ := Instance.examine_gone ended
  exact ⟨{ run with entry }, by simp [runAll, step, examined], rfl, gone⟩

theorem wait_settles (runs : run.entry.supervision = .running) (listens : run.following ≠ .killing)
    (wait : Except EngineError String) :
    ∃ after, runAll (step · grace) run [.waited wait, .examine] = some after ∧ after.teardown = run.teardown ∧
      after.entry.gone?.isSome = true := by
  have waited : run.step grace (.waited wait) =
      some { run with entry := { run.entry with supervision := .ended (outcomeOf wait) } } := by
    simp [step, listens, Instance.finish_running _ runs]
  rw [runAll, waited]
  exact examine_settles rfl

theorem settles (grace : Elapsed) (run : ContainerRun) (kill wait : Except EngineError String) :
    ∃ after, runAll (step · grace) run (run.settling kill wait) = some after ∧ after.teardown = run.teardown ∧
      after.entry.gone?.isSome = true := by
  unfold settling
  split
  next runs =>
    split
    next kills =>
      let killed := { run with following := .waitingAgain }.command (.wait run.entry.id)
      have stepped : run.step grace (.killed kill) = some killed := by simp [step, kills, killed]
      have listens : killed.following ≠ .killing := by simp [killed, command]
      have waits : killed.entry.supervision = .running := runs
      rw [List.singleton_append, runAll, stepped]
      exact wait_settles waits listens wait
    next listens => exact wait_settles runs listens wait
  next ended => exact examine_settles ended
  next published => exact ⟨run, rfl, rfl, by simp [Instance.gone?, published]⟩
  next lost => exact ⟨run, rfl, rfl, by simp [Instance.gone?, lost]⟩

/-- Whatever the tool answers, a termination returns once its instance is gone. -/
theorem finishes (grace : Elapsed) (begun : run.teardown ≠ .unasked) (gone : run.entry.gone?.isSome = true)
    (stop removal : Except EngineError String) :
    ∃ after, runAll (step · grace) run (run.finishing stop removal) = some after ∧ after.teardown = .done := by
  have ends (run : ContainerRun) (waits : run.teardown = .waiting) (gone : run.entry.gone?.isSome = true) :
      ∃ after, runAll (step · grace) run [.gone, .removed removal] = some after ∧ after.teardown = .done := by
    simp [runAll, step, waits, gone, beginRemoval, command]
  unfold finishing
  split
  next stops =>
    cases stop with
    | ok output =>
      have stepped : run.step grace (.stopped (.ok output)) = some { run with teardown := .waiting } := by
        simp [step, stops]
      rw [runAll, stepped]
      exact ends _ rfl gone
    | error error =>
      let killing := { run with
        teardown := .waiting, entry := run.entry.requestKill, log := run.log ++ [stopFailedLine run.entry.id error] }
      have stepped : run.step grace (.stopped (.error error)) = some killing := by simp [step, stops, killing]
      have still : killing.entry.gone?.isSome = true := gone
      rw [runAll, stepped]
      exact ends killing rfl still
  next waits => exact ends run waits gone
  next removes => simp [runAll, step, removes]
  next unasked => exact absurd unasked begun
  next done => exact ⟨run, rfl, done⟩

end ContainerRun

end MockKeeper
