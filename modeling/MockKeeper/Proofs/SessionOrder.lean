import MockKeeper.Proofs.EngineReleases
import MockKeeper.Proofs.SessionFreshness
import MockKeeper.Proofs.SessionSettling
import MockKeeper.Proofs.StopOrder

/-! Which stop the loop takes for which instance. Its count of pending restarts bears no names.
As long as reports come in the order of the launches, the count is that of the replaced
instances whose stop is still to come, so it is lowered by their stops alone. A report that
overtakes an older one is taken for it. -/

namespace MockKeeper

namespace ControlLoop
variable {loop : ControlLoop}

theorem handleStop_settles (event : StopEvent) (restarted : 0 < loop.restartsPending) :
    (loop.handleStop event).restartsPending + 1 = loop.restartsPending ∧
      (loop.handleStop event).point = .arming := by
  simp only [handleStop, if_pos restarted]
  exact ⟨Nat.sub_add_cancel restarted, trivial⟩

theorem handleStop_recovers {event : StopEvent} (failed : event.isError = true)
    (alone : loop.restartsPending = 0) (going : loop.terminating = false) (policy : loop.policy = .restart) :
    (loop.handleStop event).restartsPending = 0 ∧ (loop.handleStop event).point = .recovering := by
  have crashed : (loop.crash? event).isSome = true := by
    simp only [crash?, going]
    exact failed
  have reported : (loop.reportCrash event).restartsPending = loop.restartsPending := by
    unfold reportCrash
    split <;> rfl
  simp [handleStop, alone, crashed, policy, note, reported]

def Finishes (loop : ControlLoop) : Prop :=
  loop.point = .leaving none ∨ ∃ summary, loop.point = .returned (.ok summary)

end ControlLoop

namespace Session
open Engine

/-- The stop that the loop would receive next is that of an instance. -/
def Hands (session : Session) (index : Nat) (stop : StopEvent) : Prop :=
  session.queue.head? = some stop ∧
    ∃ entry, session.engine.instances[index]? = some entry ∧ entry.id = stop.id

/-- The stops of the first instances were taken. A later instance is the current one or was
given to the backend to be stopped, and a loop that waits for a start has taken them all. -/
structure Lineup (session : Session) (taken : Nat) : Prop where
  lined : ∃ told, session.engine.Lined stopChannel taken told
  released : ∀ index, taken ≤ index → session.engine.terminations index = session.engine.letGo index
  idle : session.stance = .unstarted ∨ session.stance = .crashed →
    taken = session.engine.instances.length

variable {first taken : Nat} {session after : Session}

theorem Fresh.lineup (fresh : session.Fresh) : session.Lineup 0 := by
  refine ⟨⟨0, Nat.le_refl _, Nat.zero_le _, ?_, ?_⟩, ?_, ?_⟩
  · simp [toldAt, fresh.instances]
  · simp [stops, fresh.channel]
  · simp [terminations, letGo, fresh.calls, fresh.instances]
  · simp [fresh.instances]

namespace Lineup

private theorem aside (lineup : session.Lineup taken)
    (stance : after.stance = session.stance ∨ after.stance = .unarmed ∨ after.stance = .between ∨
      after.stance = .ended)
    (instances : after.engine.instances = session.engine.instances)
    (channels : after.engine.channels = session.engine.channels)
    (current : after.engine.current = session.engine.current)
    (calls : after.engine.calls = session.engine.calls) : after.Lineup taken := by
  obtain ⟨told, lined⟩ := lineup.lined
  refine ⟨⟨told, lined.kept (toldAt_congr instances) ?_ ?_⟩, ?_, ?_⟩
  · exact ⟨[], by rw [List.append_nil, instances]⟩
  · simp only [stops, channels]
  · intro index later
    rw [letGo_same (by rw [instances]) current, ← lineup.released index later]
    simp only [terminations, calls]
  · intro idle
    rw [instances]
    apply lineup.idle
    rcases stance with same | other | other | other
    · rwa [same] at idle
    all_goals
      rw [other] at idle
      rcases idle with idle | idle <;> cases idle

/-- Where the loop waits, the front of its queue is the stop of the first instance that is
not taken, and that is the current one if no restart is pending. -/
theorem front (lineup : session.Lineup taken) (accounted : session.Accounted first)
    (unasked : session.removal = .unasked) (stands : session.loop.point = .awaiting) {event : StopEvent}
    {rest : List StopEvent} (queued : session.queue = event :: rest) :
    session.Hands taken event ∧
      (session.engine.current = some taken ↔ session.loop.restartsPending = 0) := by
  obtain ⟨orderly, holding, -, balanced⟩ := accounted
  obtain ⟨told, lined⟩ := lineup.lined
  have ids : (event :: rest).map StopEvent.id =
      ((session.engine.instances.map Instance.id).take told).drop taken := by
    rw [← queued]
    exact lined.queue
  -- The queue holds what was told and not taken; the balance counts the same in another way.
  have waiting : (event :: rest).length = told - taken := by
    rw [← List.length_map, ids, List.length_drop, List.length_take, List.length_map,
      Nat.min_eq_left lined.launched]
  rw [List.length_cons] at waiting
  have launched := lined.launched
  have armed := orderly.stance_awaiting stands
  have kept := orderly.kept unasked
  have even := balanced.even kept (by simp [armed])
  have watched := balanced.watched kept armed
  rw [needed_eq rfl armed kept, promised, watched, owed, queued_eq, queued, List.length_cons,
    Stance.share] at even
  obtain ⟨last, held⟩ := holding.held kept (orderly.lock_free unasked stands) (by simp [armed])
    (by simp [armed])
  have latest := orderly.steady.latest last held
  refine ⟨⟨by rw [queued]; rfl, ?_⟩, ?_⟩
  · have inside : taken < session.engine.instances.length := by omega
    refine ⟨_, List.getElem?_eq_getElem inside, ?_⟩
    have head := congrArg List.head? ids
    simpa [List.head?_drop, List.getElem?_take, show taken < told by omega, inside] using head.symm
  · rw [held, Option.some.injEq]
    constructor
    · intro same
      -- Everything was reported, so that nothing is left to come but what is queued.
      have none : session.engine.unreported stopChannel = 0 := by
        refine List.countP_eq_zero.mpr fun entry member => ?_
        obtain ⟨index, found⟩ := List.mem_iff_getElem?.mp member
        have before := (List.getElem?_eq_some_iff.mp found).1
        have known := (lined.front index).mpr (by omega)
        rw [toldAt_of_found found, Instance.told, decide_eq_true_eq] at known
        simpa using known.2
      omega
    · intro alone
      obtain ⟨entry, found⟩ := orderly.steady.found held
      have reported : session.engine.unreported stopChannel = 0 := by omega
      have registered := watched_of_unwatched watched held
      obtain ⟨twin, foundTwin, member⟩ := watchedAt_eq_true.mp registered
      cases found.symm.trans foundTwin
      have silent := List.countP_eq_zero.mp reported entry (List.mem_of_getElem? found)
      have known : session.engine.toldAt stopChannel last = true := by
        rw [toldAt_of_found found, Instance.told, decide_eq_true_eq]
        exact ⟨member, by simpa using silent⟩
      have before := (lined.front last).mp known
      omega

private theorem dropped_taken (lineup : session.Lineup taken) (orderly : session.Orderly)
    (unasked : session.removal = .unasked) {event : EngineEvent} {engine : Engine}
    (moved : session.engine.Moves event engine) {index : Nat}
    (dropped : index ∈ session.engine.droppedBy (.event event)) : index < taken := by
  cases moved with
  | @begin position ticket operation _ free waits =>
    cases operation with
    | start | restart | notifyOnStop => simp [droppedBy, droppedFor, waits] at dropped
    | remove channel =>
      have pending := mem_pending_of_waiting waits
      obtain ⟨rfl, -⟩ := orderly.of_removal pending
      have called := orderly.removal.mpr (mem_tickets_of_pending pending)
      cases unasked.symm.trans called
  | @launched work launched held stage =>
    have current : session.engine.current = some index := Option.mem_toList.mp dropped
    have latest := orderly.steady.latest index current
    have idle : session.stance = .unstarted ∨ session.stance = .crashed := by
      obtain ⟨-, ⟨-, stance⟩ | ⟨-, stance⟩ | ⟨-, -, bare⟩⟩ := orderly.stance_launching held (.inr stage)
      · exact .inl stance
      · exact .inr stance
      · cases current.symm.trans bare
    have all := lineup.idle idle
    omega
  | relaunched | released | prepared | unprepared | unlaunched | ended | killed | examined | reported | elsewhere =>
    cases dropped

private theorem idle_before {engine : Engine}
    (serves : Serves session.engine engine)
    (idle : stance { session with engine } = .unstarted ∨ stance { session with engine } = .crashed) :
    session.stance = .unstarted ∨ session.stance = .crashed := by
  cases answered : session.engine.answer? loopTicket with
  | some failure =>
    have later := serves.answer?_mono answered
    rwa [stance_eq rfl later, ← stance_eq rfl answered] at idle
  | none =>
    rw [stance_eq rfl answered]
    unfold stance at idle
    cases later : engine.answer? loopTicket with
    | none => rwa [later] at idle
    | some failure =>
      rw [later] at idle
      cases failure <;> cases stands : session.loop.point <;> simp [stands, stanceOf] at idle ⊢

private theorem engine (lineup : session.Lineup taken) (orderly : session.Orderly)
    (recorded : session.engine.Recorded first stopChannel) (faithful : session.engine.Faithful first)
    (unasked : session.removal = .unasked) {event : EngineEvent} {engine : Engine}
    (numbered : engine.nextSynthetic = session.engine.nextSynthetic)
    (ordered : engine.InOrder stopChannel) (moved : session.engine.Moves event engine) :
    Lineup { session with engine } taken := by
  obtain ⟨told, lined⟩ := lineup.lined
  refine ⟨moved.lined lined orderly.steady recorded faithful numbered ordered, ?_, ?_⟩
  · intro index later
    have balance := (Acts.moved moved).balance orderly.steady index
    have kept : (session.engine.droppedBy (.event event)).count index = 0 := by
      refine List.count_eq_zero.mpr fun dropped => ?_
      have before := lineup.dropped_taken orderly unasked moved dropped
      omega
    have released := lineup.released index later
    change engine.terminations index = engine.letGo index
    omega
  · intro idle
    have all := lineup.idle (idle_before moved.serves idle)
    rcases moved.instances with ⟨-, length⟩ | ⟨work, launched, -, held, stage, rfl⟩
    · exact all.trans length.symm
    · -- A launch is answered, so the loop does not wait for a start any more.
      rw [orderly.stance_adopt held stage launched] at idle
      rcases idle with idle | idle <;> cases idle

private theorem receive (lineup : session.Lineup taken) {event : StopEvent} {rest : List StopEvent}
    (queued : session.queue = event :: rest) {loop : ControlLoop}
    (idle : stance { session with loop, engine := received session.engine } = .unstarted ∨
      stance { session with loop, engine := received session.engine } = .crashed →
      taken + 1 = session.engine.instances.length) :
    Lineup { session with loop, engine := received session.engine } (taken + 1) := by
  obtain ⟨told, lined⟩ := lineup.lined
  have before : session.engine.stops stopChannel = event :: rest := queued
  have ids := lined.queue
  rw [before, List.map_cons] at ids
  have within : taken < told := by
    have count := congrArg List.length ids
    rw [List.length_cons, List.length_drop, List.length_take] at count
    omega
  refine ⟨⟨told, within, lined.launched, lined.front, ?_⟩, ?_, idle⟩
  · rw [stops_received queued, ← List.tail_drop]
    exact congrArg List.tail ids
  · exact fun index later => lineup.released index (by omega)

end Lineup

theorem Moves.lineup {event : SessionEvent} (moved : session.Moves event after)
    (accounted : session.Accounted first) (holding : after.Holding first)
    (faithful : session.engine.Faithful first) (unasked : after.removal = .unasked)
    (ordered : after.engine.InOrder stopChannel) (lineup : session.Lineup taken) :
    ∃ later, after.Lineup later := by
  have asked : session.removal = .unasked := by
    apply Classical.byContradiction
    exact fun asked => moved.asked asked unasked
  have orderly := accounted.orderly
  have goes : ∀ {point : LoopPoint}, session.loop.point = .awaiting →
      after.engine.answers = session.engine.answers → after.loop.point = point →
      after.stance = stanceOf point none :=
    fun stands answers goes => orderly.stance_from_awaiting stands answers goes
  cases moved with
  | run stands => exact ⟨taken, lineup.aside (.inl (orderly.stance_run stands)) rfl rfl rfl rfl⟩
  | call | change | closeWatcher | interruptLate => exact ⟨taken, lineup.aside (.inl rfl) rfl rfl rfl rfl⟩
  | resume called answered resumes =>
    exact ⟨taken, lineup.aside (.inl (orderly.stance_resume answered resumes)) rfl rfl rfl rfl⟩
  | pickChange watching waits stands steps =>
    cases steps with
    | ignored => exact ⟨taken, lineup.aside (.inr (.inl (goes stands rfl rfl))) rfl rfl rfl rfl⟩
    | changed =>
      exact ⟨taken, lineup.aside (.inr (.inr (.inl (goes stands rfl rfl)))) rfl rfl rfl rfl⟩
  | noticeClosed watching ended stands =>
    exact ⟨taken, lineup.aside (.inr (.inl (goes stands rfl rfl))) rfl rfl rfl rfl⟩
  | receive queued stands stops =>
    refine ⟨taken + 1, lineup.receive queued fun idle => ?_⟩
    cases stops with
    | settled restarted =>
      rw [goes stands rfl rfl] at idle
      rcases idle with idle | idle <;> cases idle
    | crashed alone =>
      have current := (lineup.front accounted asked stands queued).2.mpr alone
      exact orderly.steady.latest taken current
    | last =>
      rw [goes stands rfl rfl] at idle
      rcases idle with idle | idle <;> cases idle
  | leave => exact ⟨taken, lineup.aside (.inr (.inr (.inr rfl))) rfl rfl rfl rfl⟩
  | interruptFirst | callRemoval | endRemoval => cases unasked
  | engine moved =>
    have numbered := (holding.numbered unasked).trans (accounted.holding.numbered asked).symm
    exact ⟨taken, lineup.engine orderly accounted.recorded faithful asked numbered ordered moved⟩

def Replaced (session : Session) (index : Nat) : Prop :=
  session.engine.current ≠ some index ∧ session.engine.terminations index = 1

/-- A step takes each stop for what it is: a replaced instance's for that of a pending
restart, a crash of the current one as the reason for a start, and a clean end of the current
one as the end. -/
structure Turn.Matched (turn : Turn) : Prop where
  lowered : turn.after.loop.restartsPending < turn.before.loop.restartsPending →
    turn.input = .receive ∧
      ∃ index stop, turn.before.Hands index stop ∧ turn.before.Replaced index
  settled : turn.input = .receive → ∀ index stop, turn.before.Hands index stop →
    turn.before.engine.current ≠ some index →
    turn.after.loop.restartsPending + 1 = turn.before.loop.restartsPending
  recovered : turn.input = .receive → ∀ index stop, turn.before.Hands index stop →
    turn.before.engine.current = some index → stop.isError = true →
    turn.after.loop.restartsPending = turn.before.loop.restartsPending ∧
      operation? turn.after.loop = some .start ∧ turn.after.engine.removed = false ∧
      turn.after.engine.runningCurrent = none
  finished : turn.after.loop.Finishes → ¬ turn.before.loop.Finishes →
    turn.input = .receive ∧ ∃ index stop, turn.before.Hands index stop ∧
      turn.before.engine.current = some index ∧ stop.error = none

/-- Only a receipt lowers the count or has the loop end well. -/
theorem Moves.unreceived {event : SessionEvent} (moved : session.Moves event after)
    (other : event ≠ .receive) : session.loop.restartsPending ≤ after.loop.restartsPending ∧
      (after.loop.Finishes → session.loop.Finishes) := by
  cases moved with
  | run | noticeClosed => exact ⟨Nat.le_refl _, by simp [ControlLoop.Finishes]⟩
  | call | change | closeWatcher | interruptLate | interruptFirst | callRemoval | endRemoval | engine =>
    exact ⟨Nat.le_refl _, fun finishes => finishes⟩
  | resume called answered resumes =>
    cases resumes <;> exact ⟨Nat.le_refl _, by simp [ControlLoop.Finishes]⟩
  | pickChange watching taken stands steps =>
    cases steps with
    | ignored => exact ⟨Nat.le_refl _, by simp [ControlLoop.Finishes]⟩
    | changed => exact ⟨Nat.le_succ _, by simp [ControlLoop.Finishes]⟩
  | receive => exact absurd rfl other
  | @leave failure _ stands =>
    refine ⟨Nat.le_refl _, fun finishes => .inl ?_⟩
    cases failure with
    | none => exact stands
    | some error => simp [ControlLoop.Finishes, ControlLoop.finish] at finishes

theorem receive_eq (moved : session.step .receive = some after) :
    ∃ event rest, session.queue = event :: rest ∧ session.loop.point = .awaiting ∧
      after = { session with
        loop := session.loop.handleStop event, engine := received session.engine } := by
  simp only [step] at moved
  split at moved
  next => cases moved
  next event rest queued =>
    obtain ⟨loop, stopped, rfl⟩ := Option.map_eq_some_iff.mp moved
    cases stands : session.loop.point <;> simp only [ControlLoop.step, stands] at stopped <;>
      cases stopped
    exact ⟨event, rest, queued, rfl, rfl⟩

theorem Hands.unique (reliable : session.engine.Reliable) {index other : Nat} {stop twin : StopEvent}
    (hands : session.Hands index stop) (handsTwin : session.Hands other twin) :
    index = other ∧ stop = twin := by
  obtain ⟨front, entry, found, named⟩ := hands
  obtain ⟨frontTwin, copy, foundTwin, namedTwin⟩ := handsTwin
  cases front.symm.trans frontTwin
  exact ⟨reliable.same_place found foundTwin (named.trans namedTwin.symm), rfl⟩

theorem Lineup.matched {event : SessionEvent} (lineup : session.Lineup taken)
    (moved : session.step event = some after) (accounted : session.Accounted first)
    (reliable : session.engine.Reliable) (unasked : session.removal = .unasked)
    (flagged : session.Flagged) (policy : session.loop.policy = .restart) :
    Turn.Matched ⟨session, event, after⟩ := by
  by_cases other : event ≠ .receive
  · obtain ⟨kept, stays⟩ := (step_moves moved).unreceived other
    exact ⟨fun lowered => absurd lowered (Nat.not_lt.mpr kept), fun same => absurd same other,
      fun same => absurd same other, fun ends going => absurd (stays ends) going⟩
  · obtain rfl := Classical.not_not.mp other
    obtain ⟨event, rest, queued, stands, rfl⟩ := receive_eq moved
    obtain ⟨hands, alone⟩ := lineup.front accounted unasked stands queued
    have same : ∀ {index stop}, session.Hands index stop → index = taken ∧ stop = event :=
      fun other => Hands.unique reliable other hands
    have going := flagged.going unasked stands
    rcases Nat.eq_zero_or_pos session.loop.restartsPending with none | restarted
    · have current := alone.mpr none
      refine ⟨?_, ?_, ?_, ?_⟩
      · intro lowered
        exact absurd lowered (by simp [none])
      · intro _ index stop other replaced
        obtain ⟨rfl, -⟩ := same other
        exact absurd current replaced
      · intro _ index stop other _ failed
        obtain ⟨-, rfl⟩ := same other
        obtain ⟨pending, point⟩ := ControlLoop.handleStop_recovers failed none going policy
        have gone := accounted.balanced.allGone_of_last accounted.orderly stands none (by simp [queued])
        exact ⟨pending.trans none.symm, by simp [operation?, point], accounted.orderly.kept unasked,
          gone.idle reliable⟩
      · intro ends _
        refine ⟨rfl, taken, event, hands, current, ?_⟩
        cases error : event.error with
        | none => rfl
        | some cause =>
          have failed : event.isError = true := by simp [StopEvent.isError, error]
          have point := (ControlLoop.handleStop_recovers failed none going policy).2
          simp [ControlLoop.Finishes, point] at ends
    · have replaced : session.engine.current ≠ some taken := fun current => by
        have := alone.mp current
        omega
      obtain ⟨lowered, point⟩ := ControlLoop.handleStop_settles event restarted
      refine ⟨?_, ?_, ?_, ?_⟩
      · intro _
        refine ⟨rfl, taken, event, hands, replaced, ?_⟩
        obtain ⟨-, entry, found, -⟩ := hands
        rw [lineup.released taken (Nat.le_refl _), letGo]
        exact if_pos ⟨(List.getElem?_eq_some_iff.mp found).1, replaced⟩
      · exact fun _ _ _ _ _ => lowered
      · intro _ index stop other current
        obtain ⟨rfl, -⟩ := same other
        exact absurd current replaced
      · intro ends
        simp [ControlLoop.Finishes, point] at ends

theorem Moves.policy {event : SessionEvent} (moved : session.Moves event after) :
    after.loop.policy = session.loop.policy := by
  cases moved with
  | run | call | noticeClosed | leave | change | closeWatcher | interruptFirst | interruptLate
  | callRemoval | endRemoval | engine => rfl
  | resume called answered resumes => cases resumes <;> rfl
  | pickChange watching taken stands steps => cases steps <;> rfl
  | receive queued stands stops => cases stops <;> rfl

theorem run_policy {initial final : Session} {events : List SessionEvent}
    (ran : initial.run events = some final) : final.loop.policy = initial.loop.policy :=
  runAll_keeps (motive := fun session => session.loop.policy = initial.loop.policy)
    (fun _ _ _ stepped same => (step_moves stepped).policy.trans same) ran rfl

/-- While the reports come in the order of the launches, a loop that recovers from crashes and
is not interrupted takes each stop for what it is, and it ends well only when it received a
clean end of the current instance. -/
theorem stops_matched_in_order {initial final : Session} {events : List SessionEvent}
    (fresh : initial.Fresh) (ran : initial.run events = some final)
    (policy : initial.loop.policy = .restart) (reliable : final.engine.Reliable)
    (unasked : final.removal = .unasked)
    (ordered : ∀ turn ∈ initial.trace events, turn.after.engine.InOrder stopChannel) :
    (∀ turn ∈ initial.trace events, turn.Matched) ∧
      ∀ summary, final.loop.result? = some (.ok summary) →
        ∃ turn ∈ initial.trace events, turn.input = .receive ∧
          ∃ index stop, turn.before.Hands index stop ∧
            turn.before.engine.current = some index ∧ stop.error = none := by
  have faithful := reliable.faithful ((run_holding fresh ran).numbered unasked)
  -- What is assumed of the end of the run was so at each step of it.
  have back (before : Session) (event : SessionEvent) (after : Session) (stepped : before.step event = some after)
      (later : after.engine.Faithful initial.engine.nextSynthetic ∧ after.removal = .unasked) :
      before.engine.Faithful initial.engine.nextSynthetic ∧ before.removal = .unasked := by
    have moved := step_moves stepped
    obtain ⟨evolves, numbers⟩ := moved.evolves
    exact ⟨later.1.earlier evolves numbers, Classical.byContradiction fun asked => moved.asked asked later.2⟩
  have kept {middle : Session} {rest : List SessionEvent} (onwards : middle.run rest = some final) :
      middle.engine.Faithful initial.engine.nextSynthetic ∧ middle.removal = .unasked :=
    runAll_back (motive := fun session : Session =>
      session.engine.Faithful initial.engine.nextSynthetic ∧ session.removal = .unasked) back onwards ⟨faithful, unasked⟩
  have lineups : ∀ turn ∈ initial.trace events, ∃ taken, turn.before.Lineup taken := by
    refine turns_keep (motive := fun session : Session => ∃ taken, session.Lineup taken) ⟨0, fresh.lineup⟩ ?_
    rintro ⟨before, event, after⟩ member ⟨taken, lineup⟩
    obtain ⟨stepped, start, rest, -, reached, onwards⟩ := runAll_around ran member
    have later := kept onwards
    have earlier := back _ _ _ stepped later
    have accounted := run_accounted fresh reached earlier.1
    have moved := step_moves stepped
    exact moved.lineup accounted (moved.holding accounted.orderly accounted.holding) earlier.1 later.2
      (ordered _ member) lineup
  have matched : ∀ turn ∈ initial.trace events, turn.Matched := by
    rintro ⟨before, event, after⟩ member
    obtain ⟨taken, lineup⟩ := lineups _ member
    obtain ⟨stepped, start, rest, -, reached, onwards⟩ := runAll_around ran member
    have earlier := back _ _ _ stepped (kept onwards)
    exact lineup.matched stepped (run_accounted fresh reached earlier.1) earlier.1.toReliable earlier.2
      (run_regular reached fresh.regular).flagged ((run_policy reached).trans policy)
  refine ⟨matched, fun summary returned => ?_⟩
  have first : ¬ initial.loop.Finishes := by simp [ControlLoop.Finishes, fresh.point]
  have last : final.loop.Finishes := .inr ⟨summary, result?_eq_some.mp returned⟩
  obtain ⟨turn, member, going, ends⟩ := turns_reach (motive := fun session : Session => session.loop.Finishes) ran first last
  obtain ⟨received, index, stop, hands, current, clean⟩ := (matched turn member).finished ends going
  exact ⟨turn, member, received, index, stop, hands, current, clean⟩

def steadfast : Session := { unused with loop := { policy := .restart } }

theorem steadfast_fresh : steadfast.Fresh := by
  constructor <;> rfl

/-- An instance is restarted, the next one crashes, and the one after that ends well. -/
def weathering : List SessionEvent :=
  .run :: asks ++ arms "one" ++ restarting ++ ends 1 (.failure "exit status: 1") ++
    [.engine (.report 1 stopChannel), .receive] ++ asks ++ arms "three" ++ ends 2 .success ++
    [.engine (.report 2 stopChannel), .receive, .leave]

theorem weathering_is_matched :
    (∃ final, steadfast.run weathering = some final ∧ final.loop.summary = ⟨1, 1, false⟩) ∧
      (∀ turn ∈ steadfast.trace weathering, turn.Matched) ∧
      ∃ turn ∈ steadfast.trace weathering, turn.input = .receive ∧
        ∃ index stop, turn.before.Hands index stop ∧
          turn.before.engine.current = some index ∧ stop.error = none := by
  have facts : (steadfast.run weathering).any (fun final => final.loop.result?.any (fun result =>
      result.toOption.isSome) && decide ((final.engine.instances.map Instance.id).Nodup ∧
        (∀ entry ∈ final.engine.instances, ¬ entry.Abandoned) ∧ final.removal = .unasked ∧
        final.loop.summary = ⟨1, 1, false⟩)) = true := by
    decide +kernel
  simp only [Option.any_eq_true, Bool.and_eq_true, decide_eq_true_eq] at facts
  obtain ⟨final, ran, ⟨result, returned, well⟩, distinct, kept, unasked, summary⟩ := facts
  have inOrder : (steadfast.trace weathering).all (fun turn =>
      decide (turn.after.engine.InOrder stopChannel)) = true := by
    decide +kernel
  have ordered : ∀ turn ∈ steadfast.trace weathering, turn.after.engine.InOrder stopChannel :=
    fun turn member => of_decide_eq_true (List.all_eq_true.mp inOrder turn member)
  obtain ⟨matched, ends⟩ :=
    stops_matched_in_order steadfast_fresh ran rfl ⟨distinct, kept⟩ unasked ordered
  refine ⟨⟨final, ran, summary⟩, matched, ?_⟩
  cases result with
  | error => cases well
  | ok told => exact ends told returned

/-- The instance that a restart launched crashes, and is reported before the one it replaced. -/
def overtaking : List SessionEvent :=
  .run :: asks ++ arms "one" ++ [.change, .pickChange] ++ asks ++ ends 0 .success ++
    [.engine .terminated] ++ arms "two" ++ ends 1 (.failure "exit status: 1") ++
    [.engine (.report 1 stopChannel), .receive] ++ asks ++
    [.resume, .engine (.report 0 stopChannel), .receive, .leave]

def failsLaunch : SessionEvent → Bool
  | .engine (.prepared (some _)) | .engine (.launched (.error _)) => true
  | _ => false

/-- Without any failed launch, the crash is taken for the stop of the replaced instance, and
the stop of that one then ends the loop, with nothing running. -/
theorem overtaking_crash_is_mistaken :
    ¬ ∀ (initial final : Session) (events : List SessionEvent), initial.Fresh →
      initial.run events = some final → initial.loop.policy = .restart → final.engine.Reliable →
      final.removal = .unasked → (∀ event ∈ events, failsLaunch event = false) →
      ∀ turn ∈ initial.trace events, turn.Matched := by
  intro matched
  have facts : (steadfast.run overtaking).any (fun final =>
      decide ((final.engine.instances.map Instance.id).Nodup ∧
        (∀ entry ∈ final.engine.instances, ¬ entry.Abandoned) ∧ final.removal = .unasked)) = true := by
    decide +kernel
  simp only [Option.any_eq_true, decide_eq_true_eq] at facts
  obtain ⟨final, ran, distinct, kept, unasked⟩ := facts
  have mistaken : (steadfast.trace overtaking).any (fun turn => decide (
      turn.after.loop.restartsPending < turn.before.loop.restartsPending ∧
        turn.before.queue.map StopEvent.id = ["two"] ∧ turn.before.engine.current = some 1 ∧
        turn.before.engine.instances.map Instance.id = ["one", "two"])) = true := by
    decide +kernel
  simp only [List.any_eq_true, decide_eq_true_eq] at mistaken
  obtain ⟨turn, member, lowered, queued, current, named⟩ := mistaken
  obtain ⟨-, index, stop, ⟨front, entry, found, same⟩, replaced, -⟩ :=
    (matched steadfast final overtaking steadfast_fresh ran rfl ⟨distinct, kept⟩ unasked (by decide)
      turn member).lowered lowered
  have two : stop.id = "two" := by
    have head := congrArg List.head? queued
    rw [List.head?_map, front] at head
    exact Option.some.inj head
  have place : (["one", "two"] : List String)[index]? = some "two" := by
    rw [← named, List.getElem?_map, found, Option.map_some, same, two]
  match index with
  | 0 => exact absurd place (by decide)
  | 1 => exact replaced current
  | index + 2 => cases place

end Session

end MockKeeper
