import MockKeeper.Proofs.ContainerTermination
import MockKeeper.Proofs.ProcessTermination

/-! What an engine may rely on when a backend's termination of an instance returns, and that it does
return once the instance is gone. -/

namespace MockKeeper

/-- Whatever the container tool or the system does: a termination that returned leaves an instance
that has stopped, and told no error of it unless it had ended before. It is killed only where it
could not be stopped politely, or was not in time. A container is stopped at most once, if its
instance still ran, and removed once, which is the last of its commands. Once an instance is gone,
which is up to the tool or the system, its termination comes to its end. -/
theorem terminations_honour_contract (grace : Elapsed) (entry : Instance)
    (runs : entry.supervision = .running) (unkilled : entry.killRequested = false) :
    (∀ before called early looked late after,
      runAll (ContainerRun.step · grace) (.launched entry) before = some called →
      called.Terminates grace early looked late after → after.teardown = .done →
        after.entry.isRunning = false ∧ (called.entry.supervision = .running → after.entry.gone? = some none) ∧
        (after.KillAsked → ∃ error, .stopped (.error error) ∈ late) ∧
        ∃ earlier, after.commands = earlier ++ [.remove entry.id] ∧ .remove entry.id ∉ earlier ∧
          earlier.filter ContainerCommand.isStop =
            if looked.entry.isRunning then [.stop entry.id grace.seconds] else []) ∧
    (∀ run : ContainerRun, run.teardown ≠ .unasked → ∀ stop kill wait removal, ∃ gone after,
      runAll (ContainerRun.step · grace) run (run.settling kill wait) = some gone ∧
        runAll (ContainerRun.step · grace) gone (gone.finishing stop removal) = some after ∧
        after.teardown = .done) ∧
    (∀ before called early looked now delivered late after,
      runAll (ProcessRun.step · grace) { entry } before = some called →
      called.Terminates grace early looked now delivered late after → after.teardown = .done →
        after.entry.isRunning = false ∧ (called.entry.supervision = .running → after.entry.gone? = some none) ∧
        (after.KillAsked → entry.pid = none ∨ delivered = false ∨
          ∃ later, .graceOver later ∈ late ∧ now + grace.nanoseconds ≤ later)) ∧
    ∀ run : ProcessRun, run.teardown ≠ .unasked → ∀ result, ∃ gone after,
      runAll (ProcessRun.step · grace) run (run.settling result) = some gone ∧
        runAll (ProcessRun.step · grace) gone gone.finishing = some after ∧ after.teardown = .done := by
  refine ⟨?_, ?_, ?_, ?_⟩
  · intro before called early looked late after lived terminates returned
    obtain ⟨stopped, quiet, killed, earlier, commands, unremoved⟩ :=
      terminates.contract runs unkilled lived returned
    exact ⟨stopped, quiet, killed, earlier, commands, unremoved.kept, unremoved.stops⟩
  · intro run begun stop kill wait removal
    obtain ⟨gone, settled, same, isGone⟩ := ContainerRun.settles grace run kill wait
    obtain ⟨after, finished, done⟩ := gone.finishes grace (same ▸ begun) isGone stop removal
    exact ⟨gone, after, settled, finished, done⟩
  · intro before called early looked now delivered late after lived terminates returned
    exact terminates.contract runs unkilled lived returned
  · intro run begun result
    obtain ⟨gone, settled, same, isGone⟩ := ProcessRun.settles grace run result
    obtain ⟨after, finished, done⟩ := gone.finishes grace (same ▸ begun) isGone
    exact ⟨gone, after, settled, finished, done⟩

def stubborn : Instance := { id := "engine", pid := some 7 }

/-- A container that the tool fails to stop and a process that ignores its signal are killed, and
nobody is told of an error. -/
theorem stubborn_instances_stop_quietly :
    (∃ late after, (ContainerRun.launched stubborn).Terminates ⟨10⟩ []
        { ContainerRun.launched stubborn with entry := stubborn.markStopping } late after ∧
      after.KillAsked ∧ after.entry.gone? = some none ∧
      ∃ earlier, after.commands = earlier ++ [.remove "engine"] ∧
        earlier.filter ContainerCommand.isStop = [.stop "engine" 0]) ∧
    ∃ late after, ProcessRun.Terminates ⟨10⟩ { entry := stubborn } [] { entry := stubborn.markStopping } 5 true late after ∧
      after.KillAsked ∧ after.entry.gone? = some none ∧ ∃ later, .graceOver later ∈ late ∧ 15 ≤ later := by
  obtain ⟨container, -, process, -⟩ := terminations_honour_contract ⟨10⟩ stubborn rfl rfl
  constructor
  · let late : List ContainerEvent := [.stopped (.error (.command "docker stop" "no answer")), .noticeKill,
      .killed (.ok ""), .waited (.ok "137"), .examine, .gone, .removed (.ok "")]
    have terminates : (ContainerRun.launched stubborn).Terminates ⟨10⟩ []
        { ContainerRun.launched stubborn with entry := stubborn.markStopping } late _ := ⟨rfl, rfl⟩
    obtain ⟨-, quiet, -, earlier, commands, -, stops⟩ := container [] _ _ _ late _ rfl terminates rfl
    exact ⟨late, _, terminates, .inl rfl, quiet rfl, earlier, commands, stops⟩
  · let late : List ProcessEvent := [.graceOver 15, .noticeKill, .exited (.ok (.signal 9)), .examine, .gone]
    have terminates : ProcessRun.Terminates ⟨10⟩ { entry := stubborn } [] { entry := stubborn.markStopping } 5 true late _ :=
      ⟨rfl, rfl⟩
    obtain ⟨-, quiet, killed⟩ := process [] _ _ _ 5 true late _ rfl terminates rfl
    have outlasted := ((killed (.inl rfl)).resolve_left nofun).resolve_left nofun
    exact ⟨late, _, terminates, .inl rfl, quiet rfl, outlasted⟩

end MockKeeper
