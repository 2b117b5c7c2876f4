import MockKeeper.Engine.Container
import MockKeeper.Proofs.InstanceLife
import MockKeeper.Proofs.Traces

/-! What happens to a container between its launch and the end of its termination, told as
the ways an event can go. Whatever became of the container, its termination removes it. -/

namespace MockKeeper.ContainerRun

inductive Moves (run : ContainerRun) (grace : Elapsed) : ContainerEvent → ContainerRun → Prop
  | waited {result : Except EngineError String} {entry : Instance} (listens : run.following ≠ .killing)
      (finished : run.entry.finish (outcomeOf result) = some entry) :
      Moves run grace (.waited result) { run with entry }
  | noticed (asked : run.entry.killRequested = true) (waits : run.following = .waiting)
      (runs : run.entry.supervision = .running) :
      Moves run grace .noticeKill ({ run with following := .killing }.command (.kill run.entry.id))
  | killed {result : Except EngineError String} (kills : run.following = .killing) :
      Moves run grace (.killed result)
        ({ run with following := .waitingAgain }.command (.wait run.entry.id))
  | examined {entry : Instance} (examined : run.entry.examine = some entry) :
      Moves run grace .examine { run with entry }
  | asked (unasked : run.teardown = .unasked) (runs : run.entry.isRunning = true) :
      Moves run grace .terminate
        ({ run with entry := run.entry.markStopping, teardown := .stopping }.command
          (.stop run.entry.id grace.seconds))
  | late (unasked : run.teardown = .unasked) (ended : run.entry.isRunning = false) :
      Moves run grace .terminate { run with entry := run.entry.markStopping }.beginRemoval
  | stopped {output : String} (stops : run.teardown = .stopping) :
      Moves run grace (.stopped (.ok output)) { run with teardown := .waiting }
  | unstopped {error : EngineError} {log : Log} (stops : run.teardown = .stopping) :
      Moves run grace (.stopped (.error error))
        { run with teardown := .waiting, entry := run.entry.requestKill, log }
  | gone (waits : run.teardown = .waiting) (gone : run.entry.gone?.isSome = true) :
      Moves run grace .gone run.beginRemoval
  | removed {result : Except EngineError String} (removes : run.teardown = .removing) :
      Moves run grace (.removed result) { run with teardown := .done }

theorem step_moves {run after : ContainerRun} {grace : Elapsed} {event : ContainerEvent}
    (moved : run.step grace event = some after) : run.Moves grace event after := by
  cases event with
  | waited result =>
    simp only [step] at moved
    split at moved
    next => cases moved
    next listens =>
      obtain ⟨entry, finished, rfl⟩ := Option.map_eq_some_iff.mp moved
      exact .waited (by simpa using listens) finished
  | noticeKill =>
    simp only [step, Bool.and_eq_true, beq_iff_eq] at moved
    split at moved
    next asked =>
      cases moved
      exact .noticed asked.1.1 asked.1.2 asked.2
    next => cases moved
  | killed result =>
    simp only [step, beq_iff_eq] at moved
    split at moved
    next kills =>
      cases moved
      exact .killed kills
    next => cases moved
  | examine =>
    obtain ⟨entry, examined, rfl⟩ := Option.map_eq_some_iff.mp moved
    exact .examined examined
  | terminate =>
    simp only [step] at moved
    split at moved
    next => cases moved
    next unasked =>
      split at moved
      next runs =>
        cases moved
        exact .asked (by simpa using unasked) runs
      next ended =>
        cases moved
        exact .late (by simpa using unasked) (by simpa [Instance.isRunning, Instance.markStopping] using ended)
  | stopped result =>
    simp only [step] at moved
    split at moved
    next => cases moved
    next stops =>
      cases result <;> cases moved
      · exact .unstopped (by simpa using stops)
      · exact .stopped (by simpa using stops)
  | gone =>
    simp only [step, Bool.and_eq_true, beq_iff_eq] at moved
    split at moved
    next ended =>
      cases moved
      exact .gone ended.1 ended.2
    next => cases moved
  | removed result =>
    simp only [step, beq_iff_eq] at moved
    split at moved
    next removes =>
      cases moved
      exact .removed removes
    next => cases moved

/-- The command that removes the container was given once, or the termination did not come
that far. -/
structure Tidy (id : String) (run : ContainerRun) : Prop where
  named : run.entry.id = id
  once : run.commands.count (.remove id) =
    if run.teardown = .removing ∨ run.teardown = .done then 1 else 0

theorem launched_tidy (entry : Instance) : Tidy entry.id (launched entry) :=
  ⟨rfl, by simp [launched]⟩

private theorem count_remove_command (commands : List ContainerCommand) {id : String}
    (command : ContainerCommand) (other : command ≠ .remove id) :
    (commands ++ [command]).count (.remove id) = commands.count (.remove id) := by
  rw [List.count_append, List.count_singleton, beq_false_of_ne other]
  rfl

private theorem Tidy.beginRemoval {id : String} {run : ContainerRun} (tidy : run.Tidy id)
    (before : run.teardown = .unasked ∨ run.teardown = .waiting) : run.beginRemoval.Tidy id := by
  have none : run.commands.count (.remove id) = 0 := by
    rw [tidy.once]
    rcases before with stands | stands <;> rw [stands] <;> rfl
  refine ⟨tidy.named, ?_⟩
  change (run.commands ++ [ContainerCommand.remove run.entry.id]).count (ContainerCommand.remove id) = 1
  rw [tidy.named, List.count_append, none, List.count_singleton_self]

theorem Moves.tidy {run after : ContainerRun} {grace : Elapsed} {event : ContainerEvent} {id : String}
    (moved : run.Moves grace event after) (tidy : run.Tidy id) : after.Tidy id := by
  have marked : Tidy id { run with entry := run.entry.markStopping } := ⟨tidy.named, tidy.once⟩
  cases moved with
  | waited listens finished => exact ⟨(Instance.finish_grows finished).id.trans tidy.named, tidy.once⟩
  | examined examined => exact ⟨(Instance.examine_grows examined).id.trans tidy.named, tidy.once⟩
  | noticed => exact ⟨tidy.named, (count_remove_command _ (.kill _) nofun).trans tidy.once⟩
  | killed => exact ⟨tidy.named, (count_remove_command _ (.wait _) nofun).trans tidy.once⟩
  | asked unasked runs =>
    refine ⟨tidy.named, (count_remove_command _ (.stop _ _) nofun).trans ?_⟩
    rw [tidy.once, unasked]
    rfl
  | late unasked ended => exact marked.beginRemoval (.inl unasked)
  | stopped stops | unstopped stops =>
    refine ⟨tidy.named, tidy.once.trans ?_⟩
    rw [stops]
    rfl
  | gone waits gone => exact tidy.beginRemoval (.inr waits)
  | removed removes =>
    refine ⟨tidy.named, tidy.once.trans ?_⟩
    rw [removes]
    rfl

/-- Once the termination of a container is through, the container was removed once, whether
or not it had ended before. -/
theorem run_tidy {run after : ContainerRun} {grace : Elapsed} {events : List ContainerEvent} {id : String}
    (ran : runAll (step · grace) run events = some after) (tidy : run.Tidy id) : after.Tidy id :=
  runAll_keeps (fun _ _ _ moved tidy => (step_moves moved).tidy tidy) ran tidy

end MockKeeper.ContainerRun
