import MockKeeper.Engine.Basic
import MockKeeper.Proofs.InstanceLife

/-! One engine event, told as the ways it can go. Proofs about an engine split over these
moves and never look into the step function again. -/

namespace MockKeeper.Engine

def watchedAt (engine : Engine) (channel index : Nat) : Bool :=
  (engine.instances[index]?).any fun entry => decide (channel ∈ entry.watchers)

theorem changeInstance_found {engine : Engine} {index : Nat} {entry : Instance}
    (found : engine.instances[index]? = some entry) (change : Instance → Instance) :
    (engine.changeInstance index change).instances[index]? = some (change entry) := by
  simp [changeInstance, found]

def without (engine : Engine) (position : Nat) : Engine :=
  { engine with waiting := engine.waiting.eraseIdx position }

inductive Takes (engine : Engine) (ticket : Ticket) : Operation → Engine → Prop
  | startRefused (refused : engine.removed = true ∨ engine.runningCurrent.isSome = true) :
      Takes engine ticket .start (engine.finishCall ticket none)
  | startLaunch (kept : engine.removed = false) (idle : engine.runningCurrent = none) :
      Takes engine ticket .start (engine.beginLaunch ticket .start)
  | restartOld {channel index : Nat} (held : engine.current = some index) :
      Takes engine ticket (.restart channel)
        (({ engine with current := none }.changeInstance index (·.watch channel)).beginTermination
          ticket (.restart channel) index)
  | restartRefused {channel : Nat} (bare : engine.current = none) (removed : engine.removed = true) :
      Takes engine ticket (.restart channel)
        ((engine.reportSynthetic channel "restart").finishCall ticket none)
  | restartBare {channel : Nat} (bare : engine.current = none) (kept : engine.removed = false) :
      Takes engine ticket (.restart channel)
        ((engine.reportSynthetic channel "restart").beginLaunch ticket (.restart channel))
  | removeRunning {channel index : Nat} {line : LogLine}
      (running : engine.runningCurrent = some index) :
      Takes engine ticket (.remove channel)
        ((({ engine with removed := true, current := none }.changeInstance index
          (·.watch channel)).note line).beginTermination ticket (.remove channel) index)
  | removeBare {channel : Nat} (idle : engine.runningCurrent = none) :
      Takes engine ticket (.remove channel)
        (({ engine with removed := true, current := none }.reportSynthetic channel
          "removal").finishCall ticket none)
  | watchCurrent {channel index : Nat} (held : engine.current = some index) :
      Takes engine ticket (.notifyOnStop channel)
        ((engine.changeInstance index (·.watch channel)).finishCall ticket none)
  | watchNone {channel : Nat} (bare : engine.current = none) :
      Takes engine ticket (.notifyOnStop channel) (engine.finishCall ticket none)

theorem takeLock_takes (engine : Engine) (ticket : Ticket) (operation : Operation) :
    engine.Takes ticket operation (engine.takeLock ticket operation) := by
  cases operation with
  | start =>
    simp only [takeLock]
    split
    next removed => exact .startRefused (.inl removed)
    next kept =>
      split
      next running => exact .startRefused (.inr running)
      next idle => exact .startLaunch (by simpa using kept) (by simpa using idle)
  | restart channel =>
    cases held : engine.current with
    | some index =>
      simp only [takeLock, held]
      exact .restartOld held
    | none =>
      simp only [takeLock, held]
      split
      next removed => exact .restartRefused held removed
      next kept => exact .restartBare held (by simpa [reportSynthetic, countSynthetic, deliver] using kept)
  | remove channel =>
    cases running : engine.runningCurrent with
    | some index =>
      simp only [takeLock, running]
      exact .removeRunning running
    | none =>
      simp only [takeLock, running]
      exact .removeBare running
  | notifyOnStop channel =>
    cases held : engine.current with
    | some index =>
      simp only [takeLock, held]
      exact .watchCurrent held
    | none =>
      simp only [takeLock, held]
      exact .watchNone held

theorem nextSynthetic_le (engine : Engine) : engine.nextSynthetic ≤ engine.syntheticNumber := Nat.le_add_right _ _

inductive Moves (engine : Engine) : EngineEvent → Engine → Prop
  | begin {position : Nat} {ticket : Ticket} {operation : Operation} {after : Engine}
      (free : engine.busy = none) (waits : engine.waiting[position]? = some (ticket, operation))
      (takes : Takes (engine.without position) ticket operation after) :
      Moves engine (.begin position) after
  | relaunched {work : Work} {index channel : Nat} (held : engine.busy = some work)
      (stage : work.stage = .terminating index) (gone : engine.goneAt index = true)
      (operation : work.operation = .restart channel) (kept : engine.removed = false) :
      Moves engine .terminated (engine.beginLaunch work.ticket work.operation)
  | released {work : Work} {index : Nat} (held : engine.busy = some work)
      (stage : work.stage = .terminating index) (gone : engine.goneAt index = true)
      (settled : engine.removed = true ∨ ∀ channel, work.operation ≠ .restart channel) :
      Moves engine .terminated (engine.finishCall work.ticket none)
  | prepared {work : Work} (held : engine.busy = some work) (stage : work.stage = .preparing) :
      Moves engine (.prepared none)
        ({ engine with prepared := true }.beginLaunch work.ticket work.operation)
  | unprepared {work : Work} {error : EngineError} (held : engine.busy = some work)
      (stage : work.stage = .preparing) :
      Moves engine (.prepared (some error)) (engine.finishCall work.ticket (some error))
  | launched {work : Work} {launched : Launched} (held : engine.busy = some work)
      (stage : work.stage = .launching) :
      Moves engine (.launched (.ok launched)) (engine.adopt work launched)
  | unlaunched {work : Work} {error : EngineError} (held : engine.busy = some work)
      (stage : work.stage = .launching) :
      Moves engine (.launched (.error error)) (engine.finishCall work.ticket (some error))
  | ended {index : Nat} {outcome : Outcome} {entry later : Instance}
      (found : engine.instances[index]? = some entry) (finished : entry.finish outcome = some later) :
      Moves engine (.ended index outcome) (engine.changeInstance index fun _ => later)
  | killed {index : Nat} (running : engine.runningAt index = true) :
      Moves engine (.kill index) (engine.changeInstance index Instance.requestKill)
  | examined {index : Nat} {entry later : Instance}
      (found : engine.instances[index]? = some entry) (examined : entry.examine = some later) :
      Moves engine (.examine index) (engine.changeInstance index fun _ => later)
  | reported {index channel : Nat} {entry later : Instance} {event : StopEvent}
      (found : engine.instances[index]? = some entry)
      (reported : entry.report channel = some (event, later)) :
      Moves engine (.report index channel)
        ((engine.changeInstance index fun _ => later).deliver channel event)
  | elsewhere : Moves engine .elsewhere { engine with elsewhere := engine.elsewhere + 1 }

private theorem terminated_moves {engine after : Engine}
    (moved : engine.step .terminated = some after) : engine.Moves .terminated after := by
  cases held : engine.busy with
  | none => simp [step, held] at moved
  | some work =>
    cases stage : work.stage with
    | preparing | launching => simp [step, held, stage] at moved
    | terminating index =>
      simp only [step, held, stage] at moved
      split at moved
      next gone =>
        cases moved
        cases operation : work.operation with
        | restart channel =>
          simp only [afterTermination, operation]
          split
          next removed => exact .released held stage gone (.inl removed)
          next kept =>
            rw [← operation]
            exact .relaunched held stage gone operation (by simpa using kept)
        | start | remove channel | notifyOnStop channel =>
          simp only [afterTermination, operation]
          exact .released held stage gone (.inr (by simp [operation]))
      next => cases moved

theorem step_moves {engine after : Engine} {event : EngineEvent}
    (moved : engine.step event = some after) : engine.Moves event after := by
  cases event with
  | begin position =>
    cases free : engine.busy with
    | some work => simp [step, free] at moved
    | none =>
      cases waits : engine.waiting[position]? with
      | none => simp [step, free, waits] at moved
      | some call =>
        obtain ⟨ticket, operation⟩ := call
        simp only [step, free, waits] at moved
        cases moved
        exact .begin free waits (takeLock_takes _ ticket operation)
  | terminated => exact terminated_moves moved
  | prepared failure =>
    cases held : engine.busy with
    | none => simp [step, held] at moved
    | some work =>
      cases stage : work.stage <;> cases failure <;> simp only [step, held, stage] at moved
      all_goals cases moved
      · exact .prepared held stage
      · exact .unprepared held stage
  | launched result =>
    cases held : engine.busy with
    | none => simp [step, held] at moved
    | some work =>
      cases stage : work.stage <;> cases result <;> simp only [step, held, stage] at moved
      all_goals cases moved
      · exact .unlaunched held stage
      · exact .launched held stage
  | ended index outcome =>
    simp only [step, Option.map_eq_some_iff, Option.bind_eq_some_iff] at moved
    obtain ⟨later, ⟨entry, found, finished⟩, rfl⟩ := moved
    exact .ended found finished
  | kill index =>
    simp only [step] at moved
    split at moved
    next running => cases moved; exact .killed running
    next => cases moved
  | examine index =>
    simp only [step, Option.map_eq_some_iff, Option.bind_eq_some_iff] at moved
    obtain ⟨later, ⟨entry, found, examined⟩, rfl⟩ := moved
    exact .examined found examined
  | report index channel =>
    simp only [step, Option.map_eq_some_iff, Option.bind_eq_some_iff] at moved
    obtain ⟨⟨event, later⟩, ⟨entry, found, reported⟩, rfl⟩ := moved
    exact .reported found reported
  | elsewhere =>
    cases moved
    exact .elsewhere

theorem beginLaunch_eq (engine : Engine) (ticket : Ticket) (operation : Operation) :
    ∃ stage call, (engine.prepared = true ∧ stage = .launching ∧ call = .launch ∨
        engine.prepared = false ∧ stage = .preparing ∧ call = .prepare) ∧
      engine.beginLaunch ticket operation =
        { engine with
          busy := some ⟨ticket, operation, stage⟩, calls := engine.calls ++ [call] } := by
  unfold beginLaunch
  split
  next done => exact ⟨.launching, .launch, .inl ⟨done, rfl, rfl⟩, rfl⟩
  next todo => exact ⟨.preparing, .prepare, .inr ⟨by simpa using todo, rfl, rfl⟩, rfl⟩

section
variable (engine : Engine) (ticket : Ticket) (operation : Operation)

-- A launch that begins takes the lock and asks the backend. All else stays.
@[simp] theorem beginLaunch_instances : (engine.beginLaunch ticket operation).instances = engine.instances := by
  unfold beginLaunch
  split <;> rfl

@[simp] theorem beginLaunch_channels : (engine.beginLaunch ticket operation).channels = engine.channels := by
  unfold beginLaunch
  split <;> rfl

@[simp] theorem beginLaunch_waiting : (engine.beginLaunch ticket operation).waiting = engine.waiting := by
  unfold beginLaunch
  split <;> rfl

@[simp] theorem beginLaunch_answers : (engine.beginLaunch ticket operation).answers = engine.answers := by
  unfold beginLaunch
  split <;> rfl

@[simp] theorem beginLaunch_prepared : (engine.beginLaunch ticket operation).prepared = engine.prepared := by
  unfold beginLaunch
  split <;> rfl

@[simp] theorem beginLaunch_nextSynthetic :
    (engine.beginLaunch ticket operation).nextSynthetic = engine.nextSynthetic := by
  unfold beginLaunch
  split <;> rfl

@[simp] theorem beginLaunch_syntheticNumber :
    (engine.beginLaunch ticket operation).syntheticNumber = engine.syntheticNumber := by
  unfold beginLaunch
  split <;> rfl

@[simp] theorem beginLaunch_runningCurrent :
    (engine.beginLaunch ticket operation).runningCurrent = engine.runningCurrent := by
  unfold beginLaunch
  split <;> rfl

end

end MockKeeper.Engine
