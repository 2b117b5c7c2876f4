import MockKeeper.Proofs.EngineCalls
import MockKeeper.Proofs.EngineRoster

/-! What makes an engine launch, and what keeps it from launching. A removal is for good:
once it took effect nothing is launched, whoever is still waiting for the lock. -/

namespace MockKeeper.Engine

def Launches : Operation → Prop
  | .start | .restart _ => True
  | .remove _ | .notifyOnStop _ => False

/-- An engine that launches nothing while no further call is made. -/
def Quiet (engine : Engine) : Prop :=
  engine.removed = true ∨ ∀ call ∈ engine.pending, ¬ Launches call.2

/-- A removed engine stays removed, and only a call for its removal removes it. -/
theorem Moves.removed {engine after : Engine} {event : EngineEvent} (moved : engine.Moves event after) :
    after.removed = engine.removed ∨
      after.removed = true ∧ ∃ ticket channel, (ticket, .remove channel) ∈ engine.pending := by
  cases moved with
  | @begin position ticket operation after free waits takes =>
    have pending := mem_pending_of_waiting waits
    cases takes with
    | startRefused | restartOld | restartRefused | watchCurrent | watchNone => exact .inl rfl
    | startLaunch | restartBare =>
      obtain ⟨stage, call, -, equal⟩ := beginLaunch_eq _ ticket _
      rw [equal]
      exact .inl rfl
    | removeRunning | removeBare => exact .inr ⟨rfl, ticket, _, pending⟩
  | @relaunched work | @prepared work =>
    obtain ⟨stage, call, -, equal⟩ := beginLaunch_eq _ work.ticket work.operation
    rw [equal]
    exact .inl rfl
  | released | unprepared | launched | unlaunched | ended | killed | examined | reported | elsewhere => exact .inl rfl

theorem Moves.removed_mono {engine after : Engine} {event : EngineEvent} (moved : engine.Moves event after)
    (removed : engine.removed = true) : after.removed = true := by
  rcases moved.removed with same | ⟨now, -⟩
  · rw [same]
    exact removed
  · exact now

theorem Steady.launching {engine : Engine} (steady : engine.Steady) {work : Work}
    (held : engine.busy = some work) (stage : work.stage = .preparing ∨ work.stage = .launching) :
    engine.removed = false ∧ Launches work.operation := by
  have fits := steady.fits work held
  rcases stage with stage | stage
  all_goals
    rw [stage] at fits
    cases operation : work.operation <;> simp only [operation, Fits] at fits
    · exact ⟨fits.1, trivial⟩
    · exact ⟨fits.1, trivial⟩

theorem Steady.not_quiet {engine : Engine} (steady : engine.Steady) {work : Work}
    (held : engine.busy = some work) (stage : work.stage = .preparing ∨ work.stage = .launching) :
    ¬ engine.Quiet := by
  obtain ⟨kept, launches⟩ := steady.launching held stage
  rintro (removed | idle)
  · rw [kept] at removed
    cases removed
  · exact idle _ (mem_pending_of_busy held) launches

theorem Steady.released {engine : Engine} (steady : engine.Steady) {work : Work} {index : Nat}
    (held : engine.busy = some work) (stage : work.stage = .terminating index)
    (settled : engine.removed = true ∨ ∀ channel, work.operation ≠ .restart channel) :
    engine.removed = true ∧ ∃ channel, work.operation = .remove channel := by
  have fits := steady.fits work held
  rw [stage] at fits
  cases operation : work.operation <;> simp only [operation, Fits] at fits
  · rcases settled with removed | other
    · rw [fits.1] at removed
      cases removed
    · exact absurd operation (other _)
  · exact ⟨fits.1, _, rfl⟩

private theorem launchedCount_append_terminate (calls : List BackendCall) (index : Nat) :
    (calls ++ [BackendCall.terminate index]).count .launch = calls.count BackendCall.launch := by
  simp

theorem Moves.launches_nothing {engine after : Engine} {event : EngineEvent}
    (moved : engine.Moves event after) (steady : engine.Steady) (quiet : engine.Quiet) :
    after.launchedCount = engine.launchedCount ∧ after.instances.length = engine.instances.length := by
  have length : after.instances.length = engine.instances.length := by
    rcases moved.instances with ⟨-, length⟩ | ⟨work, launched, -, held, stage, -⟩
    · exact length
    · exact absurd quiet (steady.not_quiet held (.inr stage))
  refine ⟨?_, length⟩
  cases moved with
  | begin free waits takes =>
    have pending := mem_pending_of_waiting waits
    cases takes with
    | startRefused | restartRefused | removeBare | watchCurrent | watchNone => rfl
    | startLaunch kept | restartBare _ kept =>
      rcases quiet with removed | idle
      · have still : engine.removed = false := kept
        rw [still] at removed
        cases removed
      · exact absurd trivial (idle _ pending)
    | restartOld | removeRunning => exact launchedCount_append_terminate _ _
  | relaunched held stage gone operation kept =>
    rcases quiet with removed | idle
    · rw [kept] at removed
      cases removed
    · have launches := idle _ (mem_pending_of_busy held)
      rw [operation] at launches
      exact absurd trivial launches
  | prepared held stage => exact absurd quiet (steady.not_quiet held (.inl stage))
  | launched held stage => exact absurd quiet (steady.not_quiet held (.inr stage))
  | released | unprepared | unlaunched | ended | killed | examined | reported | elsewhere => rfl

def launching (engine : Engine) : Nat :=
  match engine.busy with
  | some ⟨_, _, .launching⟩ => 1
  | _ => 0

theorem launching_of_stage {engine : Engine} {work : Work} (held : engine.busy = some work)
    (stage : work.stage ≠ .launching) : engine.launching = 0 := by
  obtain ⟨ticket, operation, other⟩ := work
  unfold launching
  rw [held]
  cases other with
  | launching => exact absurd rfl stage
  | terminating | preparing => rfl

theorem beginLaunch_launching (engine : Engine) (ticket : Ticket) (operation : Operation) :
    (engine.beginLaunch ticket operation).launchedCount =
      engine.launchedCount + (engine.beginLaunch ticket operation).launching := by
  unfold beginLaunch
  split <;> simp [launchedCount, launching]

/-- Each launch that was asked for gave an instance or is under way, unless it failed. -/
theorem Moves.launching {engine after : Engine} {event : EngineEvent} (moved : engine.Moves event after)
    (succeeds : ∀ error, event ≠ .launched (.error error)) :
    after.launchedCount + (engine.instances.length + engine.launching) =
      engine.launchedCount + (after.instances.length + after.launching) := by
  cases moved with
  | @begin position ticket operation _ free waits takes =>
    have idle : engine.launching = 0 := by simp [Engine.launching, free]
    have length := takes.instances.2
    have before : (engine.without position).instances.length = engine.instances.length := rfl
    cases takes with
    | startRefused | restartRefused | removeBare | watchCurrent | watchNone =>
      have same : ∀ {other : Engine} {failure : Option EngineError},
          (other.finishCall ticket failure).launching = 0 := rfl
      rw [length, idle, before, same]
      rfl
    | startLaunch =>
      have count := beginLaunch_launching (engine.without position) ticket .start
      have same : (engine.without position).launchedCount = engine.launchedCount := rfl
      omega
    | @restartBare channel =>
      have count := beginLaunch_launching ((engine.without position).reportSynthetic channel "restart")
        ticket (.restart channel)
      have same : ((engine.without position).reportSynthetic channel "restart").launchedCount =
        engine.launchedCount := rfl
      omega
    | restartOld | removeRunning =>
      have same : ∀ {other : Engine} {operation : Operation} {index : Nat},
          (other.beginTermination ticket operation index).launching = 0 := rfl
      rw [length, idle, before, same]
      congr 1
      exact launchedCount_append_terminate _ _
  | @relaunched work index channel held stage =>
    have count := beginLaunch_launching engine work.ticket work.operation
    have idle := launching_of_stage held (by simp [stage])
    have same := beginLaunch_instances engine work.ticket work.operation
    rw [same, idle]
    omega
  | @prepared work held stage =>
    have count := beginLaunch_launching { engine with prepared := true } work.ticket work.operation
    have idle := launching_of_stage held (by simp [stage])
    have same : (beginLaunch { engine with prepared := true } work.ticket work.operation).instances =
      engine.instances := beginLaunch_instances _ _ _
    have before : Engine.launchedCount { engine with prepared := true } = engine.launchedCount := rfl
    rw [same, idle]
    omega
  | released held stage | unprepared held stage =>
    rw [launching_of_stage held (by simp [stage])]
    rfl
  | @launched work launched held stage =>
    obtain ⟨ticket, operation, other⟩ := work
    cases stage
    have busy : engine.launching = 1 := by simp [Engine.launching, held]
    have free : (engine.adopt ⟨ticket, operation, .launching⟩ launched).launching = 0 := rfl
    have count : (engine.adopt ⟨ticket, operation, .launching⟩ launched).launchedCount =
      engine.launchedCount := rfl
    rw [busy, free, count, adopt_instances, List.length_append, List.length_singleton]
  | unlaunched => exact absurd rfl (succeeds _)
  | ended | killed | examined | reported | elsewhere =>
    simp only [changeInstance, deliver, List.length_modify]
    rfl

theorem Moves.launches_mono {engine after : Engine} {event : EngineEvent} (moved : engine.Moves event after) :
    engine.launchedCount ≤ after.launchedCount := by
  have begins : ∀ (other : Engine) (ticket : Ticket) (operation : Operation),
      other.launchedCount ≤ (other.beginLaunch ticket operation).launchedCount := by
    intro other ticket operation
    rw [beginLaunch_launching]
    exact Nat.le_add_right _ _
  cases moved with
  | @begin position ticket operation _ free waits takes =>
    cases takes with
    | startRefused | restartRefused | removeBare | watchCurrent | watchNone => exact Nat.le_refl _
    | startLaunch => exact begins (engine.without position) ticket _
    | restartBare => exact begins ((engine.without position).reportSynthetic _ _) ticket _
    | restartOld | removeRunning => exact Nat.le_of_eq (launchedCount_append_terminate _ _).symm
  | relaunched => exact begins engine _ _
  | prepared => exact begins { engine with prepared := true } _ _
  | released | unprepared | launched | unlaunched | ended | killed | examined | reported | elsewhere =>
    exact Nat.le_refl _

theorem AllGone.stays {before after : Engine} (gone : before.AllGone)
    (evolves : Evolves before.instances after.instances)
    (length : after.instances.length = before.instances.length) : after.AllGone := by
  intro later member
  obtain ⟨index, found⟩ := List.mem_iff_getElem?.mp member
  obtain ⟨entry, earlier, grows⟩ := evolves.origin length found
  exact grows.gone (gone entry (List.mem_of_getElem? earlier))

/-- A new answer is that of a call without one. Only a launch can fail, and a removal has
its answer once it took effect. -/
theorem Moves.answers {engine after : Engine} {event : EngineEvent} (moved : engine.Moves event after)
    (steady : engine.Steady) {ticket : Ticket} {failure : Option EngineError}
    (answered : after.answer? ticket = some failure) :
    engine.answer? ticket = some failure ∨
      ∃ operation, (ticket, operation) ∈ engine.pending ∧
        (failure.isSome = true → Launches operation) ∧
        ∀ channel, operation = .remove channel → after.removed = true := by
  have finished : ∀ {before : Engine} {owner : Ticket} {result : Option EngineError},
      (before.finishCall owner result).answer? ticket = some failure →
      before.answer? ticket = some failure ∨ ticket = owner ∧ result = failure := by
    intro before owner result answered
    rw [finishCall_answer?] at answered
    cases earlier : before.answer? ticket with
    | some old =>
      rw [earlier] at answered
      exact .inl answered
    | none =>
      rw [earlier, Option.none_or] at answered
      split at answered
      next same => exact .inr ⟨same, Option.some.inj answered⟩
      next => cases answered
  cases moved with
  | @begin position owner operation after free waits takes =>
    have pending := mem_pending_of_waiting waits
    cases takes with
    | removeRunning => exact .inl answered
    | removeBare | startRefused | restartRefused | watchCurrent | watchNone =>
      rcases finished answered with earlier | ⟨rfl, rfl⟩
      · exact .inl earlier
      · refine .inr ⟨_, pending, by simp, ?_⟩
        intro channel equal
        cases equal <;> rfl
    | restartOld => exact .inl answered
    | startLaunch | restartBare =>
      obtain ⟨stage, call, -, equal⟩ := beginLaunch_eq _ owner _
      rw [equal] at answered
      exact .inl answered
  | @relaunched work | @prepared work =>
    obtain ⟨stage, call, -, equal⟩ := beginLaunch_eq _ work.ticket work.operation
    rw [equal] at answered
    exact .inl answered
  | @released work index held stage =>
    rcases finished answered with earlier | ⟨rfl, rfl⟩
    · exact .inl earlier
    · refine .inr ⟨_, mem_pending_of_busy held, by simp, ?_⟩
      intro channel operation
      have fits := steady.fits work held
      rw [operation, stage] at fits
      exact fits.1
  | @unprepared work _ held stage | @unlaunched work _ held stage | @launched work _ held stage =>
    have launches := (steady.launching held (by simp [stage])).2
    rcases finished answered with earlier | ⟨rfl, rfl⟩
    · exact .inl earlier
    · refine .inr ⟨_, mem_pending_of_busy held, fun _ => launches, ?_⟩
      intro channel operation
      rw [operation] at launches
      exact launches.elim
  | ended | killed | examined | reported | elsewhere => exact .inl answered

end MockKeeper.Engine
