import MockKeeper.Engine.Process
import MockKeeper.Proofs.EngineLaunches
import MockKeeper.Proofs.StopOrigins

/-! What is left of an engine that was removed. It asks nothing of its backend any more, and a
call that takes the lock is answered at once. -/

namespace MockKeeper.Engine

/-- What can still happen to an engine that was removed. -/
inductive Lingers (engine : Engine) : EngineEvent → Engine → Prop
  | refused {position : Nat} {ticket : Ticket} {operation : Operation} (free : engine.busy = none)
      (waits : engine.waiting[position]? = some (ticket, operation))
      (silent : ∀ channel, ¬ AsksStop channel operation) :
      Lingers engine (.begin position) ((engine.without position).finishCall ticket none)
  | told {position channel : Nat} {ticket : Ticket} {operation : Operation} (free : engine.busy = none)
      (waits : engine.waiting[position]? = some (ticket, operation)) (asks : AsksStop channel operation) :
      Lingers engine (.begin position)
        (((engine.without position).countSynthetic.deliver channel
          ⟨engine.ownStopId operation, none⟩).finishCall ticket none)
  | released {work : Work} {channel index : Nat} (held : engine.busy = some work)
      (stage : work.stage = .terminating index) (operation : work.operation = .remove channel) :
      Lingers engine .terminated (engine.finishCall work.ticket none)
  | ended {index : Nat} {outcome : Outcome} {later : Instance} :
      Lingers engine (.ended index outcome) (engine.changeInstance index fun _ => later)
  | killed {index : Nat} : Lingers engine (.kill index) (engine.changeInstance index Instance.requestKill)
  | examined {index : Nat} {later : Instance} :
      Lingers engine (.examine index) (engine.changeInstance index fun _ => later)
  | reported {index channel : Nat} {later : Instance} {event : StopEvent} :
      Lingers engine (.report index channel) ((engine.changeInstance index fun _ => later).deliver channel event)
  | elsewhere : Lingers engine .elsewhere { engine with elsewhere := engine.elsewhere + 1 }

theorem removed_eq (engine : Engine) (removed : engine.removed = true) (bare : engine.current = none) :
    { engine with removed := true, current := none } = engine := by
  cases engine
  cases removed
  cases bare
  rfl

theorem Moves.lingers {engine after : Engine} {event : EngineEvent} (moved : engine.Moves event after)
    (steady : engine.Steady) (removed : engine.removed = true) : engine.Lingers event after := by
  -- It has no current instance, so nothing that launches or stops one is left.
  have bare := steady.bare removed
  have idle : engine.runningCurrent = none := by
    unfold runningCurrent
    rw [bare]
    rfl
  cases moved with
  | @begin position ticket operation _ free waits takes =>
    cases takes with
    | startRefused | watchNone => exact .refused free waits fun channel asks => asks
    | @restartRefused channel =>
      have told := Lingers.told free waits (rfl : AsksStop channel (.restart channel))
      exact told
    | @removeBare channel =>
      have told := Lingers.told free waits (rfl : AsksStop channel (.remove channel))
      rw [removed_eq (engine.without position) removed bare]
      exact told
    | startLaunch kept | restartBare _ kept => cases removed.symm.trans kept
    | restartOld held | watchCurrent held => cases bare.symm.trans held
    | removeRunning running => cases idle.symm.trans running
  | relaunched held stage gone operation kept => cases removed.symm.trans kept
  | released held stage gone settled =>
    obtain ⟨-, channel, operation⟩ := steady.released held stage settled
    exact .released held stage operation
  | prepared held stage | unprepared held stage | launched held stage | unlaunched held stage =>
    have kept := (steady.launching held (by simp [stage])).1
    cases removed.symm.trans kept
  | ended => exact .ended
  | killed => exact .killed
  | examined => exact .examined
  | reported => exact .reported
  | elsewhere => exact .elsewhere

/-- What an input leaves as it is once the engine is removed, and what it may add. -/
structure Rests (before after : Engine) : Prop where
  calls : after.calls = before.calls
  busy : after.busy = none ∨ after.busy = before.busy
  answers : ∀ answer ∈ after.answers, answer ∈ before.answers ∨ answer.2 = none

theorem Rests.refl (engine : Engine) : Rests engine engine := ⟨rfl, .inr rfl, fun _ member => .inl member⟩

theorem Rests.trans {before middle after : Engine} (first : Rests before middle) (last : Rests middle after) :
    Rests before after := by
  refine ⟨last.calls.trans first.calls, ?_, ?_⟩
  · rcases last.busy with free | same
    · exact .inl free
    · rw [same]
      exact first.busy
  · intro answer member
    rcases last.answers answer member with old | ok
    · exact first.answers answer old
    · exact .inr ok

theorem Rests.answered (before other : Engine) (calls : other.calls = before.calls)
    (answers : other.answers = before.answers) (ticket : Ticket) : Rests before (other.finishCall ticket none) := by
  refine ⟨calls, .inl rfl, ?_⟩
  intro answer member
  rcases List.mem_append.mp member with old | new
  · rw [answers] at old
    exact .inl old
  · rw [List.mem_singleton.mp new]
    exact .inr rfl

theorem Lingers.rests {engine after : Engine} {event : EngineEvent} (lingers : engine.Lingers event after) :
    Rests engine after := by
  cases lingers with
  | @refused position => exact .answered engine (engine.without position) rfl rfl _
  | @told position channel _ operation =>
    exact .answered engine ((engine.without position).countSynthetic.deliver channel
      ⟨engine.ownStopId operation, none⟩) rfl rfl _
  | released => exact .answered engine engine rfl rfl _
  | ended | killed | examined | reported | elsewhere => exact ⟨rfl, .inr rfl, fun _ member => .inl member⟩

theorem Acts.rests {engine after : Engine} {input : EngineInput} (acts : engine.Acts input after)
    (steady : engine.Steady) (removed : engine.removed = true) : Rests engine after ∧ after.removed = true := by
  cases acts with
  | called | received => exact ⟨⟨rfl, .inr rfl, fun _ member => .inl member⟩, removed⟩
  | took => exact ⟨⟨rfl, .inr rfl, fun _ member => .inl (List.mem_filter.mp member).1⟩, removed⟩
  | moved moved => exact ⟨(moved.lingers steady removed).rests, moved.removed_mono removed⟩

variable {initial middle final : Engine} {past inputs : List EngineInput}

theorem run_rests (ran : initial.run inputs = some final) (steady : initial.Steady)
    (removed : initial.removed = true) : Rests initial final ∧ final.removed = true := by
  induction inputs generalizing initial with
  | nil =>
    cases ran
    exact ⟨.refl _, removed⟩
  | cons input rest ih =>
    obtain ⟨next, acted, onwards⟩ := runAll_cons_eq_some.mp ran
    have acts := act_acts acted
    obtain ⟨rests, still⟩ := acts.rests steady removed
    obtain ⟨later, last⟩ := ih onwards (acts.steady steady) still
    exact ⟨rests.trans later, last⟩

theorem Acts.removes {engine after : Engine} {input : EngineInput} (acts : engine.Acts input after) {channel : Nat}
    (served : Turn.served ⟨engine, input, after⟩ = some (.remove channel)) : after.removed = true := by
  cases acts with
  | called | took | received => cases served
  | moved moved =>
    cases moved with
    | @begin position ticket operation _ free waits takes =>
      have same : operation = .remove channel := by simpa [Turn.served, waits] using served
      subst same
      cases takes with
      | removeRunning | removeBare => rfl
    | _ => cases served

theorem removed_of_served (ran : initial.run inputs = some final) {turn : Turn}
    (member : turn ∈ initial.trace inputs) {channel : Nat} (served : turn.served = some (.remove channel)) :
    final.removed = true := by
  obtain ⟨acted, first, last, -, -, onwards⟩ := runAll_around ran member
  have removed : turn.after.removed = true := (act_acts acted).removes served
  refine run_induction (fun engine => engine.removed = true) ?_ onwards removed
  intro before after input still acts
  cases acts with
  | called | took | received => exact still
  | moved moved => exact moved.removed_mono still

/-- A call that takes the lock of a removed engine is answered at once. It registers no channel,
and if it is for a stop that stop is all that is reported. -/
theorem removed_begins {engine : Engine} (steady : engine.Steady) (removed : engine.removed = true)
    (free : engine.busy = none) {position : Nat} {ticket : Ticket} {operation : Operation}
    (waits : engine.waiting[position]? = some (ticket, operation)) :
    ∃ after, engine.step (.begin position) = some after ∧ after.busy = none ∧
      after.answers = engine.answers ++ [(ticket, none)] ∧ after.instances = engine.instances ∧
      ∀ channel, Turn.reports channel ⟨engine, .event (.begin position), after⟩ =
        if AsksStop channel operation then [⟨engine.ownStopId operation, none⟩] else [] := by
  have bare := steady.bare removed
  have reports (channel : Nat) (after : Engine) :
      Turn.reports channel ⟨engine, .event (.begin position), after⟩ =
        if AsksStop channel operation then [⟨engine.ownStopId operation, none⟩] else [] := by
    have none : engine.target operation = none := by
      cases operation with
      | start | notifyOnStop => rfl
      | restart => exact bare
      | remove =>
        unfold target runningCurrent
        rw [bare]
        rfl
    simp only [Turn.reports, Turn.ownStops, Turn.served, waits, Option.map_some, ownStops, none, and_true]
  have begins : ∃ after, engine.step (.begin position) = some after := by
    simp [step, free, waits]
  obtain ⟨after, begins⟩ := begins
  refine ⟨after, begins, ?_⟩
  cases (step_moves begins).lingers steady removed with
  | refused _ same | told _ same =>
    cases waits.symm.trans same
    exact ⟨rfl, rfl, rfl, fun channel => reports channel _⟩

/-- Whoever holds the lock of a removed engine removed it, and is answered when the instance is gone. -/
theorem Steady.removal_holds {engine : Engine} (steady : engine.Steady) (removed : engine.removed = true)
    {work : Work} (held : engine.busy = some work) :
    ∃ channel index, work.operation = .remove channel ∧ work.stage = .terminating index ∧
      (engine.goneAt index = true → ∃ after, engine.step .terminated = some after ∧ after.busy = none ∧
        after.answers = engine.answers ++ [(work.ticket, none)]) := by
  have fits := steady.fits work held
  cases operation : work.operation with
  | remove channel =>
    cases stage : work.stage with
    | terminating index =>
      refine ⟨channel, index, rfl, rfl, ?_⟩
      intro gone
      refine ⟨engine.finishCall work.ticket none, ?_, rfl, rfl⟩
      simp [step, held, stage, gone, afterTermination, operation]
    | preparing | launching =>
      rw [operation, stage] at fits
      exact fits.elim
  | start | restart | notifyOnStop =>
    rw [operation] at fits
    cases stage : work.stage <;> simp [stage, Fits, removed] at fits

theorem Recorded.accepts {engine after : Engine} {input : EngineInput} {first channel : Nat} {operation : Operation}
    (recorded : engine.Recorded first channel) (acted : engine.act input = some after)
    (other : ∀ receiver, input ≠ .receive receiver)
    (reports : Turn.reports channel ⟨engine, input, after⟩ = [⟨engine.ownStopId operation, none⟩])
    (fresh : ¬ engine.Used (engine.ownStopId operation)) :
    after.stops channel = engine.stops channel ++ [⟨engine.ownStopId operation, none⟩] := by
  obtain ⟨queue, there⟩ := recorded.there
  have unknown : engine.ownStopId operation ∉ queue.delivered :=
    fun known => fresh (recorded.known queue there _ known).used
  have told : after.channels[channel]? =
      (engine.channels[channel]?).map (told · (Turn.reports channel ⟨engine, input, after⟩)) := act_told acted other
  rw [reports, there] at told
  simp only [stops, told, there, Option.map_some, Option.getD_some]
  exact StopChannel.notify_new unknown

/-- No instance has an id that a stop without an instance could be reported under. -/
def NamesApart (engine : Engine) : Prop := ∀ entry ∈ engine.instances, ∀ number, ¬ IsSynthetic number entry.id

theorem IsSynthetic.head {number : Nat} {id : String} (synthetic : IsSynthetic number id) :
    id.toList.head? = some 'r' := by
  rcases synthetic with rfl | rfl <;> simp [String.toList_append]

theorem processId_apart (sequence : Nat) (pid : Option Nat) (number : Nat) :
    ¬ IsSynthetic number (processId sequence pid) := by
  intro synthetic
  have head := synthetic.head
  have front : toString "process-" = "process-" := rfl
  cases pid <;> simp [processId, String.toList_append, front] at head

/-- Once a removal has taken effect, whatever is called afterwards: the backend is not asked for
anything, there is no current instance, and each call is answered without an error. Only the call
that removed the engine may still hold the lock, until its instance is gone. A call that takes the
lock is answered at once, registers no channel, and reports one stop if it is a restart or a
removal, and nothing else. No instance has the id of that stop, no engine of the process has
reported under it, and so a channel that only this engine reports to accepts it. -/
theorem removal_is_permanent (unused : initial.Unused) (reached : initial.run past = some middle)
    (removal : ∃ turn ∈ initial.trace past, ∃ channel, turn.served = some (.remove channel))
    (ran : middle.run inputs = some final) (apart : final.NamesApart) :
    final.calls = middle.calls ∧ final.current = none ∧ final.currentId = none ∧
      (∀ answer ∈ final.answers, answer ∈ middle.answers ∨ answer.2 = none) ∧
      (∀ work, final.busy = some work → middle.busy = some work ∧
        ∃ channel index, work.operation = .remove channel ∧ work.stage = .terminating index ∧
          (final.goneAt index = true → ∃ after, final.step .terminated = some after ∧ after.busy = none ∧
            after.answers = final.answers ++ [(work.ticket, none)])) ∧
      ∀ position ticket operation, final.busy = none → final.waiting[position]? = some (ticket, operation) →
        ∃ after, final.step (.begin position) = some after ∧ after.busy = none ∧
          after.answers = final.answers ++ [(ticket, none)] ∧ after.instances = final.instances ∧
          (∀ channel, Turn.reports channel ⟨final, .event (.begin position), after⟩ =
            if AsksStop channel operation then [⟨final.ownStopId operation, none⟩] else []) ∧
          ¬ final.Used (final.ownStopId operation) ∧
          (∀ turn ∈ initial.trace (past ++ inputs), ∀ channel, ∀ event ∈ turn.reports channel,
            event.id ≠ final.ownStopId operation) ∧
          ∀ channel, AsksStop channel operation → initial.channels[channel]? = some {} →
            after.stops channel = final.stops channel ++ [⟨final.ownStopId operation, none⟩] := by
  obtain ⟨turn, member, channel, served⟩ := removal
  have removed := removed_of_served reached member served
  have steadyMiddle := run_steady reached unused.steady
  have steady := run_steady ran steadyMiddle
  obtain ⟨rests, still⟩ := run_rests ran steadyMiddle removed
  have bare := steady.bare still
  refine ⟨rests.calls, bare, ?_, rests.answers, ?_, ?_⟩
  · simp [currentId, runningCurrent, bare]
  · intro work held
    refine ⟨?_, steady.removal_holds still held⟩
    rcases rests.busy with free | same
    · cases free.symm.trans held
    · exact same.symm.trans held
  · intro position ticket operation free waits
    obtain ⟨after, begins, freed, answers, instances, reports⟩ := removed_begins steady still free waits
    have whole := runAll_append_eq_some.mpr ⟨middle, reached, ran⟩
    have fresh : ¬ final.Used (final.ownStopId operation) := by
      intro used
      obtain ⟨entry, member, same⟩ := used.instance_of_own
      exact apart entry member _ (same ▸ ownStopId_synthetic final operation)
    refine ⟨after, begins, freed, answers, instances, reports, fresh, ?_, ?_⟩
    · intro turn member channel event reported same
      exact fresh (same ▸ run_used whole member reported)
    · intro channel asks new
      have recorded := run_recorded whole unused.steady (recorded_new new)
      have reported := reports channel
      rw [if_pos asks] at reported
      have acted : final.act (.event (.begin position)) = some after := begins
      exact recorded.accepts acted (by simp) reported fresh

def removing (id : String) : List EngineInput :=
  launches 0 id ++ asks 1 (.remove 0) ++ ends 0 .success ++ [.event .terminated, .event (.report 0 0)]

/-- A restart and a start that come too late, and a second removal that waits for the lock. Another
engine of the process is removed in between. -/
def late : List EngineInput :=
  asks 2 (.restart 0) ++ .event .elsewhere :: asks 3 .start ++ [.call 4 (.remove 0)]

theorem late_calls_launch_nothing : ∃ middle final after,
    unused.run (removing (processId 1 (some 4711))) = some middle ∧
    middle.run late = some final ∧ final.launchedCount = 1 ∧ final.currentId = none ∧
    final.answers = [(0, none), (1, none), (2, none), (3, none)] ∧ final.step (.begin 0) = some after ∧
    after.answers = final.answers ++ [(4, none)] ∧
    after.stops 0 = [⟨"process-1-pid-4711", none⟩, ⟨"restart-1", none⟩, ⟨"removal-3", none⟩] := by
  have facts : ((unused.run (removing (processId 1 (some 4711)))).bind (·.run late)).any (fun final =>
      decide (final.busy = none ∧ final.waiting = [(4, .remove 0)] ∧ final.launchedCount = 1 ∧
        final.answers = [(0, none), (1, none), (2, none), (3, none)] ∧
        final.stops 0 = [⟨"process-1-pid-4711", none⟩, ⟨"restart-1", none⟩] ∧
        final.ownStopId (.remove 0) = "removal-3" ∧
        final.instances.map Instance.id = [processId 1 (some 4711)]) &&
      (unused.trace (removing (processId 1 (some 4711)))).any fun turn =>
        decide (turn.served = some (.remove 0))) = true := by
    decide +kernel
  simp only [Option.any_eq_true, Bool.and_eq_true, decide_eq_true_eq, List.any_eq_true] at facts
  obtain ⟨final, ran, ⟨free, waits, launched, answers, stops, own, names⟩, turn, member, served⟩ := facts
  obtain ⟨middle, reached, ran⟩ := Option.bind_eq_some_iff.mp ran
  have apart : final.NamesApart := by
    intro entry member number
    have named : entry.id ∈ final.instances.map Instance.id := List.mem_map_of_mem member
    rw [names, List.mem_singleton] at named
    rw [named]
    exact processId_apart 1 (some 4711) number
  obtain ⟨-, -, idle, -, -, begins⟩ :=
    removal_is_permanent unused_unused reached ⟨turn, member, 0, served⟩ ran apart
  obtain ⟨after, stepped, -, answered, -, -, -, -, accepts⟩ := begins 0 4 (.remove 0) free (by rw [waits]; rfl)
  have accepted := accepts 0 rfl rfl
  rw [own, stops] at accepted
  exact ⟨middle, final, after, reached, ran, launched, idle, answers, stepped, answered, accepted⟩

end MockKeeper.Engine
