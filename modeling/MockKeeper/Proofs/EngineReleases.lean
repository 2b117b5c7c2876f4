import MockKeeper.Proofs.ContainerLife
import MockKeeper.Proofs.EngineRuns

/-! What becomes of an instance that is not the current one any more. A restart and a removal
have it terminated. A start that launches beside a dead instance, and a removal that finds
the current one dead, forget it: its backend is never asked to clean up after it. -/

namespace MockKeeper.Engine

def terminations (engine : Engine) (index : Nat) : Nat := engine.calls.count (.terminate index)

/-- One for an instance that was launched and is not the current one any more. -/
def letGo (engine : Engine) (index : Nat) : Nat :=
  if index < engine.instances.length ∧ engine.current ≠ some index then 1 else 0

def droppedFor (engine : Engine) : Operation → List Nat
  | .remove _ => if engine.runningCurrent.isNone then engine.current.toList else []
  | _ => []

/-- The instance that an input makes the engine forget without a termination. -/
def droppedBy (engine : Engine) : EngineInput → List Nat
  | .event (.launched (.ok _)) => engine.current.toList
  | .event (.begin position) =>
    ((engine.waiting[position]?).map fun call => engine.droppedFor call.2).getD []
  | _ => []

def dropped (engine : Engine) : List EngineInput → List Nat
  | [] => []
  | input :: rest =>
    engine.droppedBy input ++ ((engine.act input).map fun next => next.dropped rest).getD []

theorem letGo_all {engine after : Engine} (steady : engine.Steady)
    (all : ∀ index, index < after.instances.length ∧ after.current ≠ some index ↔
      index < engine.instances.length) (index : Nat) :
    after.letGo index = engine.letGo index + engine.current.toList.count index := by
  simp only [letGo, all]
  cases held : engine.current with
  | none => simp
  | some last =>
    have latest := steady.latest last held
    by_cases same : last = index
    · subst same
      simp [show last < engine.instances.length by omega]
    · simp [same]

theorem letGo_emptied {engine after : Engine} (steady : engine.Steady)
    (length : after.instances.length = engine.instances.length) (bare : after.current = none) (index : Nat) :
    after.letGo index = engine.letGo index + engine.current.toList.count index :=
  letGo_all steady (fun _ => by simp [length, bare]) index

theorem letGo_adopt {engine : Engine} (steady : engine.Steady) (work : Work) (launched : Launched)
    (index : Nat) :
    (engine.adopt work launched).letGo index = engine.letGo index + engine.current.toList.count index := by
  refine letGo_all steady (fun other => ?_) index
  have current : (engine.adopt work launched).current = some engine.instances.length := rfl
  rw [adopt_instances, current, List.length_append, List.length_singleton, ne_eq, Option.some.injEq]
  omega

theorem letGo_same {engine after : Engine} (length : after.instances.length = engine.instances.length)
    (current : after.current = engine.current) (index : Nat) : after.letGo index = engine.letGo index := by
  rw [letGo, letGo, length, current]

theorem beginLaunch_terminations (engine : Engine) (ticket : Ticket) (operation : Operation) (index : Nat) :
    (engine.beginLaunch ticket operation).terminations index = engine.terminations index := by
  unfold beginLaunch
  split <;> simp [terminations]

theorem beginTermination_terminations (engine : Engine) (ticket : Ticket) (operation : Operation)
    (index other : Nat) :
    (engine.beginTermination ticket operation index).terminations other =
      engine.terminations other + [index].count other := by
  simp only [terminations, beginTermination, changeInstance, List.count_append, List.count_singleton]
  congr 1
  by_cases same : index = other <;> simp [same]

theorem Takes.balance {engine after : Engine} {ticket : Ticket} {operation : Operation}
    (takes : engine.Takes ticket operation after) (steady : engine.Steady) (index : Nat) :
    after.terminations index + (engine.droppedFor operation).count index + engine.letGo index =
      engine.terminations index + after.letGo index := by
  have length := takes.instances.2
  cases takes with
  | startRefused | restartRefused | watchNone => rfl
  | watchCurrent =>
    rw [letGo_same length rfl index]
    rfl
  | startLaunch =>
    obtain ⟨stage, call, -, equal⟩ := beginLaunch_eq engine ticket .start
    have current : (engine.beginLaunch ticket .start).current = engine.current := by rw [equal]
    rw [letGo_same length current index, beginLaunch_terminations]
    rfl
  | @restartBare channel =>
    obtain ⟨stage, call, -, equal⟩ :=
      beginLaunch_eq (engine.reportSynthetic channel "restart") ticket (.restart channel)
    have current : ((engine.reportSynthetic channel "restart").beginLaunch ticket
      (.restart channel)).current = engine.current := by rw [equal]; rfl
    rw [letGo_same length current index, beginLaunch_terminations]
    rfl
  | @restartOld channel last held =>
    have released := letGo_emptied steady length rfl index
    rw [held, Option.toList_some] at released
    rw [beginTermination_terminations, released]
    change engine.terminations index + [last].count index + 0 + engine.letGo index = _
    omega
  | @removeRunning channel last line running =>
    have released := letGo_emptied steady length rfl index
    rw [(runningCurrent_eq_some.mp running).1, Option.toList_some] at released
    have dropped : engine.droppedFor (.remove channel) = [] := by simp [droppedFor, running]
    rw [beginTermination_terminations, released, dropped]
    change engine.terminations index + [last].count index + 0 + engine.letGo index = _
    omega
  | @removeBare channel idle =>
    have released := letGo_emptied steady length rfl index
    have dropped : engine.droppedFor (.remove channel) = engine.current.toList := by
      simp [droppedFor, idle]
    rw [released, dropped]
    change engine.terminations index + engine.current.toList.count index + engine.letGo index = _
    omega

/-- An input that lets go of an instance has it terminated or drops it, and no other input
does either. -/
theorem Acts.balance {engine after : Engine} {input : EngineInput} (acts : engine.Acts input after)
    (steady : engine.Steady) (index : Nat) :
    after.terminations index + (engine.droppedBy input).count index + engine.letGo index =
      engine.terminations index + after.letGo index := by
  cases acts with
  | called | took | received => rfl
  | moved moved =>
    have length := moved.length
    cases moved with
    | @begin position ticket operation _ free waits takes =>
      have taken := takes.balance (steady.same rfl rfl rfl rfl) index
      have same : engine.droppedBy (.event (.begin position)) = (engine.without position).droppedFor operation := by
        simp only [droppedBy, waits]
        rfl
      rw [same]
      exact taken
    | @relaunched work =>
      obtain ⟨stage, call, -, equal⟩ := beginLaunch_eq engine work.ticket work.operation
      rw [letGo_same (length nofun) (by rw [equal]) index, beginLaunch_terminations]
      rfl
    | @prepared work =>
      obtain ⟨stage, call, -, equal⟩ :=
        beginLaunch_eq { engine with prepared := true } work.ticket work.operation
      rw [letGo_same (length nofun) (by rw [equal]) index, beginLaunch_terminations]
      rfl
    | released | unprepared | unlaunched => rfl
    | @launched work launched held stage =>
      rw [letGo_adopt steady work launched index]
      change engine.terminations index + engine.current.toList.count index + engine.letGo index = _
      omega
    | ended | killed | examined | reported | elsewhere =>
      rw [letGo_same (length nofun) rfl index]
      rfl

theorem run_balance {initial final : Engine} {inputs : List EngineInput}
    (ran : initial.run inputs = some final) (steady : initial.Steady) (index : Nat) :
    final.terminations index + (initial.dropped inputs).count index + initial.letGo index =
      initial.terminations index + final.letGo index := by
  induction inputs generalizing initial with
  | nil =>
    cases ran
    rfl
  | cons input rest ih =>
    obtain ⟨next, acted, ran⟩ := runAll_cons_eq_some.mp ran
    have acts := act_acts acted
    have first := acts.balance steady index
    have later := ih ran (acts.steady steady)
    have parts : initial.dropped (input :: rest) = initial.droppedBy input ++ next.dropped rest := by
      simp [dropped, acted]
    rw [parts, List.count_append]
    omega

theorem Acts.dropped_gone {engine after : Engine} {input : EngineInput} (acts : engine.Acts input after)
    (steady : engine.Steady) {index : Nat} (dropped : index ∈ engine.droppedBy input) :
    engine.goneAt index = true := by
  have gone : engine.current = some index → (∀ entry, engine.instances[index]? = some entry →
      entry.gone?.isSome = true) → engine.goneAt index = true := by
    intro held ended
    obtain ⟨entry, found⟩ := steady.found held
    exact goneAt_eq_true.mpr ⟨entry, found, ended entry found⟩
  cases acts with
  | called | took | received => cases dropped
  | moved moved =>
    cases moved with
    | @begin position ticket operation _ free waits takes =>
      cases operation with
      | start | restart | notifyOnStop => simp [droppedBy, droppedFor, waits] at dropped
      | remove channel =>
        simp only [droppedBy, droppedFor, waits, Option.map_some, Option.getD_some] at dropped
        split at dropped
        next idle =>
          have held := Option.mem_toList.mp dropped
          exact gone held fun entry found => gone_of_idle (Option.isNone_iff_eq_none.mp idle) held found
        next => cases dropped
    | launched held stage =>
      refine gone (Option.mem_toList.mp dropped) fun entry found => ?_
      exact steady.allGone_of_launch held (.inr stage) entry (List.mem_of_getElem? found)
    | relaunched | released | prepared | unprepared | unlaunched | ended | killed | examined | reported | elsewhere =>
      cases dropped

theorem run_dropped_gone {initial final : Engine} {inputs : List EngineInput}
    (ran : initial.run inputs = some final) (steady : initial.Steady) {index : Nat}
    (dropped : index ∈ initial.dropped inputs) : final.goneAt index = true := by
  induction inputs generalizing initial with
  | nil => cases dropped
  | cons input rest ih =>
    obtain ⟨next, acted, ran⟩ := runAll_cons_eq_some.mp ran
    have acts := act_acts acted
    rcases List.mem_append.mp dropped with now | later
    · exact goneAt_mono (acts.evolves.trans (run_evolves ran)) (acts.dropped_gone steady now)
    · rw [acted] at later
      exact ih ran (acts.steady steady) later

/-- An instance that is not the current one any more was given to the backend to be stopped
once, or it was dropped once, when it was gone already; the current one was neither. Where
nothing was dropped every such instance was terminated once. A container is removed once by
its termination, whether or not it had ended before. -/
theorem instances_terminated_or_dropped_once {initial final : Engine} {inputs : List EngineInput}
    (unused : initial.Unused) (ran : initial.run inputs = some final) :
    (∀ index < final.instances.length,
      final.terminations index + (initial.dropped inputs).count index =
        if final.current = some index then 0 else 1) ∧
      (∀ index ∈ initial.dropped inputs, final.goneAt index = true ∧ final.terminations index = 0) ∧
      ∀ (entry : Instance) (grace : Elapsed) (events : List ContainerEvent) (container : ContainerRun),
        runAll (ContainerRun.step · grace) (.launched entry) events = some container →
        container.commands.count (.remove entry.id) =
          if container.teardown = .removing ∨ container.teardown = .done then 1 else 0 := by
  have steady := unused.steady
  have total : ∀ index, final.terminations index + (initial.dropped inputs).count index =
      final.letGo index := by
    intro index
    have balance := run_balance ran steady index
    have none : initial.terminations index = 0 := by simp [terminations, unused.calls]
    have nothing : initial.letGo index = 0 := by simp [letGo, unused.instances]
    omega
  refine ⟨?_, ?_, ?_⟩
  · intro index inside
    rw [total index, letGo]
    by_cases held : final.current = some index <;> simp [held, inside]
  · intro index dropped
    refine ⟨run_dropped_gone ran steady dropped, ?_⟩
    have once := List.count_pos_iff.mpr dropped
    have most : final.letGo index ≤ 1 := by
      unfold letGo
      split <;> omega
    have balance := total index
    omega
  · intro entry grace events container ended
    exact (ContainerRun.run_tidy ended (ContainerRun.launched_tidy entry)).once

def recovering : List EngineInput :=
  launches 0 "one" ++ ends 0 (.failure "exit code 1") ++ launches 1 "two"

theorem recovered_instance_is_dropped : ∃ final, unused.run recovering = some final ∧
    final.current = some 1 ∧ final.goneAt 0 = true ∧ final.terminations 0 = 0 := by
  have facts : (unused.run recovering).any (fun final =>
      decide (final.current = some 1 ∧ 0 ∈ unused.dropped recovering)) = true := by
    decide +kernel
  simp only [Option.any_eq_true, decide_eq_true_eq] at facts
  obtain ⟨final, ran, current, dropped⟩ := facts
  obtain ⟨-, left, -⟩ := instances_terminated_or_dropped_once unused_unused ran
  exact ⟨final, ran, current, left 0 dropped⟩

/-- An instance that crashed and gave way to another one was not terminated. -/
theorem crashed_instance_is_not_terminated :
    ¬ ∀ (initial final : Engine) (inputs : List EngineInput), initial.Unused →
      initial.run inputs = some final → ∀ index < final.instances.length,
        final.current ≠ some index → final.terminations index = 1 := by
  intro terminated
  have facts : (unused.run recovering).any (fun final =>
      decide (final.instances.length = 2 ∧ final.current = some 1 ∧ final.terminations 0 = 0)) = true := by
    decide +kernel
  simp only [Option.any_eq_true, decide_eq_true_eq] at facts
  obtain ⟨final, ran, length, current, none⟩ := facts
  have once := terminated unused final recovering unused_unused ran 0 (by omega) (by simp [current])
  omega

end MockKeeper.Engine
