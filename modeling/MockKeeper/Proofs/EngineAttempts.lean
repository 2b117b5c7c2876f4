import MockKeeper.Proofs.EngineLaunches
import MockKeeper.Proofs.EngineRuns

/-! When an engine asks its backend for something. It launches only once the one-off work is
done, it does that work until it succeeds, and it tries neither while an instance is there, so
that a failure leaves it with nothing running and free to try again. -/

namespace MockKeeper.Engine

/-- The instance an engine looks after: the current one, or the one that the holder of the lock
took out of its place and has stopped. -/
def tended (engine : Engine) : Option Nat :=
  match engine.busy with
  | some ⟨_, _, .terminating index⟩ => some index
  | _ => engine.current

def attempt (engine : Engine) : BackendCall := if engine.prepared then .launch else .prepare

namespace Turn

def tries (turn : Turn) : Bool :=
  match turn.input with
  | .event (.begin _) =>
    match turn.served with
    | some .start => !turn.before.removed && turn.before.runningCurrent.isNone
    | some (.restart _) => !turn.before.removed && turn.before.current.isNone
    | _ => false
  | .event .terminated =>
    match turn.before.busy with
    | some ⟨_, .restart _, _⟩ => !turn.before.removed
    | _ => false
  | _ => false

def requests (turn : Turn) : List BackendCall :=
  if turn.tries then [turn.before.attempt]
  else match turn.input with
    | .event (.prepared none) => [.launch]
    | .event (.begin _) => ((turn.served.bind turn.before.target).map .terminate).toList
    | _ => []

def failure? (turn : Turn) : Option EngineError :=
  match turn.input with
  | .event (.prepared (some error)) | .event (.launched (.error error)) => some error
  | _ => none

end Turn

def prepares : EngineInput → Bool
  | .event (.prepared none) => true
  | _ => false

def launchesOne : EngineInput → Bool
  | .event (.launched (.ok _)) => true
  | _ => false

theorem beginLaunch_calls (engine : Engine) (ticket : Ticket) (operation : Operation) :
    (engine.beginLaunch ticket operation).calls = engine.calls ++ [engine.attempt] := by
  unfold beginLaunch attempt
  split <;> rfl

theorem Takes.calls {engine after : Engine} {position : Nat} {ticket : Ticket} {operation : Operation}
    (waits : engine.waiting[position]? = some (ticket, operation))
    (takes : (engine.without position).Takes ticket operation after) :
    after.calls = engine.calls ++ Turn.requests ⟨engine, .event (.begin position), after⟩ := by
  have served : Turn.served ⟨engine, .event (.begin position), after⟩ = some operation := by
    simp [Turn.served, waits]
  simp only [Turn.requests, Turn.tries, served, Option.bind_some]
  cases takes with
  | startRefused refused =>
    have refused : engine.removed = true ∨ engine.runningCurrent.isSome = true := refused
    rcases refused with removed | running
    · simp [removed, target, finishCall, without]
    · obtain ⟨index, running⟩ := Option.isSome_iff_exists.mp running
      simp [running, target, finishCall, without]
  | startLaunch kept idle =>
    have kept : engine.removed = false := kept
    have idle : engine.runningCurrent = none := idle
    simp only [kept, idle]
    exact beginLaunch_calls (engine.without position) ticket .start
  | restartOld held =>
    have held : engine.current = some _ := held
    simp [held, target, beginTermination, changeInstance, without]
  | restartRefused bare removed =>
    have bare : engine.current = none := bare
    have removed : engine.removed = true := removed
    simp [bare, removed, target, finishCall, reportSynthetic, countSynthetic, deliver, without]
  | @restartBare channel bare kept =>
    have bare : engine.current = none := bare
    have kept : engine.removed = false := kept
    simp only [bare, kept]
    exact beginLaunch_calls ((engine.without position).reportSynthetic channel "restart") ticket _
  | removeRunning running =>
    have running : engine.runningCurrent = some _ := running
    simp [running, target, beginTermination, changeInstance, note, without]
  | removeBare idle =>
    have idle : engine.runningCurrent = none := idle
    simp [idle, target, finishCall, reportSynthetic, countSynthetic, deliver, without]
  | watchCurrent | watchNone => simp [target, finishCall, changeInstance, without]

theorem Moves.calls {engine after : Engine} {event : EngineEvent} (moved : engine.Moves event after) :
    after.calls = engine.calls ++ Turn.requests ⟨engine, .event event, after⟩ := by
  cases moved with
  | begin free waits takes => exact takes.calls waits
  | @relaunched work index channel held stage gone operation kept =>
    obtain ⟨ticket, asked, place⟩ := work
    cases operation
    simp only [Turn.requests, Turn.tries, held, kept]
    exact beginLaunch_calls engine ticket _
  | @released work index held stage gone settled =>
    obtain ⟨ticket, asked, place⟩ := work
    cases asked with
    | restart channel =>
      have removed : engine.removed = true := settled.resolve_right fun other => other channel rfl
      simp [Turn.requests, Turn.tries, held, removed, finishCall]
    | start | remove | notifyOnStop => simp [Turn.requests, Turn.tries, held, finishCall]
  | @prepared work held stage =>
    exact beginLaunch_calls { engine with prepared := true } work.ticket work.operation
  | unprepared | launched | unlaunched | ended | killed | examined | reported | elsewhere =>
    exact (List.append_nil _).symm

theorem Acts.calls {engine after : Engine} {input : EngineInput} (acts : engine.Acts input after) :
    after.calls = engine.calls ++ Turn.requests ⟨engine, input, after⟩ := by
  cases acts with
  | called | took | received => exact (List.append_nil _).symm
  | moved moved => exact moved.calls

theorem Acts.prepared {engine after : Engine} {input : EngineInput} (acts : engine.Acts input after) :
    after.prepared = (engine.prepared || prepares input) := by
  cases acts with
  | called | took | received => exact (Bool.or_false _).symm
  | moved moved =>
    cases moved with
    | @begin position ticket operation _ free waits takes =>
      cases takes with
      | startLaunch =>
        exact (beginLaunch_prepared (engine.without position) ticket _).trans (Bool.or_false _).symm
      | @restartBare channel =>
        exact (beginLaunch_prepared ((engine.without position).reportSynthetic channel "restart") ticket _).trans
          (Bool.or_false _).symm
      | startRefused | restartOld | restartRefused | removeRunning | removeBare | watchCurrent | watchNone =>
        exact (Bool.or_false _).symm
    | @relaunched work =>
      exact (beginLaunch_prepared engine work.ticket _).trans (Bool.or_false _).symm
    | @prepared work =>
      exact (beginLaunch_prepared { engine with prepared := true } work.ticket _).trans (Bool.or_true _).symm
    | released | unprepared | launched | unlaunched | ended | killed | examined | reported | elsewhere =>
      exact (Bool.or_false _).symm

variable {initial final : Engine} {inputs : List EngineInput}

theorem run_prepared (ran : initial.run inputs = some final) :
    final.prepared = (initial.prepared || inputs.any prepares) := by
  induction inputs generalizing initial with
  | nil =>
    cases ran
    exact (Bool.or_false _).symm
  | cons input rest ih =>
    obtain ⟨next, acted, ran⟩ := runAll_cons_eq_some.mp ran
    rw [ih ran, (act_acts acted).prepared, List.any_cons, Bool.or_assoc]

theorem Turn.mem_requests {turn : Turn} {call : BackendCall} (asked : call ∈ turn.requests) :
    call = turn.before.attempt ∨ prepares turn.input = true ∧ call = .launch ∨ ∃ index, call = .terminate index := by
  unfold requests at asked
  split at asked
  next => exact .inl (List.mem_singleton.mp asked)
  next =>
    split at asked
    next prepared =>
      rw [prepared]
      exact .inr (.inl ⟨rfl, List.mem_singleton.mp asked⟩)
    next =>
      obtain ⟨index, -, named⟩ := Option.map_eq_some_iff.mp (Option.mem_toList.mp asked)
      exact .inr (.inr ⟨index, named.symm⟩)
    next => cases asked

theorem Turn.before_of_prepare {turn : Turn} (asked : .prepare ∈ turn.requests) :
    turn.before.prepared = false := by
  rcases turn.mem_requests asked with begun | ⟨-, other⟩ | ⟨index, other⟩
  · unfold attempt at begun
    split at begun
    next => cases begun
    next todo => simpa using todo
  · cases other
  · cases other

theorem Acts.prepared_of_launch {engine after : Engine} {input : EngineInput} (acts : engine.Acts input after)
    (asked : .launch ∈ Turn.requests ⟨engine, input, after⟩) : after.prepared = true := by
  rw [acts.prepared]
  rcases Turn.mem_requests asked with begun | ⟨prepared, -⟩ | ⟨index, other⟩
  · dsimp only [attempt] at begun
    split at begun
    next done => rw [done, Bool.true_or]
    next => cases begun
  · dsimp only at prepared
    rw [prepared, Bool.or_true]
  · cases other

theorem run_launch (ran : initial.run inputs = some final) (uncalled : initial.calls = [])
    (launched : .launch ∈ final.calls) : final.prepared = true := by
  refine run_induction (fun engine => .launch ∈ engine.calls → engine.prepared = true) ?_ ran ?_ launched
  · intro before after input prepared acts asked
    rw [acts.calls] at asked
    rcases List.mem_append.mp asked with earlier | now
    · rw [acts.prepared, prepared earlier, Bool.true_or]
    · exact acts.prepared_of_launch now
  · simp [uncalled]

theorem run_preparedCount (ran : initial.run inputs = some final) (prepared : initial.prepared = true) :
    final.preparedCount = initial.preparedCount := by
  have kept : final.prepared = true ∧ final.preparedCount = initial.preparedCount := by
    refine run_induction (fun engine => engine.prepared = true ∧ engine.preparedCount = initial.preparedCount)
      ?_ ran ⟨prepared, rfl⟩
    rintro before after input ⟨prepared, count⟩ acts
    refine ⟨by rw [acts.prepared, prepared, Bool.true_or], ?_⟩
    have none : .prepare ∉ Turn.requests ⟨before, input, after⟩ := by
      intro asked
      have todo := Turn.before_of_prepare asked
      simp [prepared] at todo
    rw [preparedCount, acts.calls, List.count_append, List.count_eq_zero.mpr none]
    exact count
  exact kept.2

theorem runningCurrent_eq_none {engine : Engine} : engine.runningCurrent = none ↔
    ∀ index, engine.current = some index → engine.runningAt index = false := by
  simp [runningCurrent, Option.filter_eq_none_iff]

theorem stopped_mono {before after : Engine} (evolves : Evolves before.instances after.instances) {index : Nat}
    (inside : index < before.instances.length) (stopped : before.runningAt index = false) :
    after.runningAt index = false := by
  have found := List.getElem?_eq_getElem inside
  simp only [runningAt, found, Option.any_some] at stopped
  obtain ⟨error, published⟩ := Instance.isRunning_eq_false.mp stopped
  obtain ⟨later, foundLater, grows⟩ := evolves index _ found
  simp only [runningAt, foundLater, Option.any_some]
  exact Instance.isRunning_eq_false.mpr ⟨error, grows.published error published⟩

theorem Moves.idle {engine after : Engine} {event : EngineEvent} (moved : engine.Moves event after)
    (steady : engine.Steady) (other : launchesOne (.event event) = false)
    (idle : engine.runningCurrent = none) : after.runningCurrent = none := by
  have length := moved.length fun launched same => by simp [same, launchesOne] at other
  apply runningCurrent_eq_none.mpr
  -- The current instance was there before, since only a launch puts another in its place.
  intro index held
  have latest := (moved.steady steady).latest index held
  rcases moved.current held with before | beyond
  · exact stopped_mono moved.evolves (by omega) (runningCurrent_eq_none.mp idle index before)
  · omega

/-- While the backend prepares or launches, the current instance was seen to end. -/
def Vacant (engine : Engine) : Prop :=
  ∀ work, engine.busy = some work → work.stage = .preparing ∨ work.stage = .launching →
    engine.runningCurrent = none

theorem Moves.vacant {engine after : Engine} {event : EngineEvent} (moved : engine.Moves event after)
    (steady : engine.Steady) (vacant : engine.Vacant) : after.Vacant := by
  have kept (busy : after.busy = engine.busy) (other : launchesOne (.event event) = false) : after.Vacant := by
    intro work held stage
    rw [busy] at held
    exact moved.idle steady other (vacant work held stage)
  intro work held stage
  cases moved with
  | @begin position ticket operation _ free waits takes =>
    cases takes with
    | startLaunch kept idle => exact (beginLaunch_runningCurrent _ ticket _).trans idle
    | restartBare bare =>
      rw [beginLaunch_runningCurrent]
      exact runningCurrent_eq_none.mpr fun index held => by cases bare.symm.trans held
    | restartOld | removeRunning =>
      cases held
      rcases stage with stage | stage <;> cases stage
    | startRefused | restartRefused | removeBare | watchCurrent | watchNone => cases held
  | @relaunched past index channel before place gone operation =>
    have fits := steady.fits past before
    rw [operation, place] at fits
    rw [beginLaunch_runningCurrent]
    exact runningCurrent_eq_none.mpr fun index held => by cases fits.2.1.symm.trans held
  | @prepared past before place =>
    rw [beginLaunch_runningCurrent]
    exact vacant past before (.inl place)
  | released | unprepared | launched | unlaunched => cases held
  | ended | killed | examined | reported | elsewhere => exact kept rfl rfl work held stage

theorem Acts.vacant {engine after : Engine} {input : EngineInput} (acts : engine.Acts input after)
    (steady : engine.Steady) (vacant : engine.Vacant) : after.Vacant := by
  cases acts with
  | called | took | received => exact vacant
  | moved moved => exact moved.vacant steady vacant

theorem run_idle (ran : initial.run inputs = some final) (steady : initial.Steady)
    (other : inputs.any launchesOne = false) (idle : initial.runningCurrent = none) :
    final.runningCurrent = none := by
  induction inputs generalizing initial with
  | nil =>
    cases ran
    exact idle
  | cons input rest ih =>
    obtain ⟨next, acted, ran⟩ := runAll_cons_eq_some.mp ran
    simp only [List.any_cons, Bool.or_eq_false_iff] at other
    have acts := act_acts acted
    refine ih ran (acts.steady steady) other.2 ?_
    cases acts with
    | called | took | received => exact idle
    | moved moved => exact moved.idle steady other.1 idle

theorem start_attempts {engine : Engine} (free : engine.busy = none) (kept : engine.removed = false)
    (idle : engine.runningCurrent = none) {position : Nat} {ticket : Ticket}
    (waits : engine.waiting[position]? = some (ticket, .start)) :
    ∃ after, engine.step (.begin position) = some after ∧ after.calls = engine.calls ++ [engine.attempt] := by
  refine ⟨(engine.without position).takeLock ticket .start, by simp [step, free, waits, without], ?_⟩
  have takes := takeLock_takes (engine.without position) ticket .start
  generalize (engine.without position).takeLock ticket .start = after at takes ⊢
  cases takes with
  | startRefused refused =>
    rcases refused with removed | running
    · cases kept.symm.trans removed
    · have nothing : (engine.without position).runningCurrent = none := idle
      simp [nothing] at running
  | startLaunch => exact beginLaunch_calls (engine.without position) ticket .start

/-- What a failed start or restart leaves behind: its error, nothing that runs, and an engine
that tries again at the next start, unless it was removed by then. -/
structure Turn.Fails (turn : Turn) (error : EngineError) : Prop where
  returned : ∃ work, turn.before.busy = some work ∧ Launches work.operation ∧
    turn.after.answers = turn.before.answers ++ [(work.ticket, some error)]
  gone : turn.after.AllGone
  idle : turn.after.runningCurrent = none
  free : turn.after.busy = none
  again : ∀ more later, turn.after.run more = some later → more.any launchesOne = false →
    later.busy = none → later.removed = false →
      ∀ position ticket, later.waiting[position]? = some (ticket, .start) →
        ∃ next, later.step (.begin position) = some next ∧ next.calls = later.calls ++ [later.attempt]

theorem Acts.fails {engine after : Engine} {input : EngineInput} (acts : engine.Acts input after)
    (steady : engine.Steady) (vacant : engine.Vacant) {error : EngineError}
    (failed : Turn.failure? ⟨engine, input, after⟩ = some error) : Turn.Fails ⟨engine, input, after⟩ error := by
  have fails {work : Work} (held : engine.busy = some work)
      (stage : work.stage = .preparing ∨ work.stage = .launching)
      (finished : after = engine.finishCall work.ticket (some error)) :
      Turn.Fails ⟨engine, input, after⟩ error := by
    subst finished
    have idle : (engine.finishCall work.ticket (some error)).runningCurrent = none := vacant work held stage
    refine ⟨⟨work, held, (steady.launching held stage).2, rfl⟩, steady.allGone_of_launch held stage, idle, rfl, ?_⟩
    intro more later ran quiet free kept position ticket waits
    exact start_attempts free kept (run_idle ran (acts.steady steady) quiet idle) waits
  cases acts with
  | called | took | received => cases failed
  | moved moved =>
    cases moved with
    | unprepared held stage =>
      cases failed
      exact fails held (.inl stage) rfl
    | unlaunched held stage =>
      cases failed
      exact fails held (.inr stage) rfl
    | begin | relaunched | released | prepared | launched | ended | killed | examined | reported | elsewhere => cases failed

/-- Only a backend that fails makes a call fail. -/
theorem Acts.failed {engine after : Engine} {input : EngineInput} (acts : engine.Acts input after)
    {ticket : Ticket} {error : EngineError} (answered : (ticket, some error) ∈ after.answers) :
    (ticket, some error) ∈ engine.answers ∨ Turn.failure? ⟨engine, input, after⟩ = some error := by
  cases acts with
  | called | received => exact .inl answered
  | took => exact .inl (List.mem_filter.mp answered).1
  | moved moved =>
    -- A call without an error leaves the errors that are there.
    have same {before : Engine} {owner : Ticket}
        (answered : (ticket, some error) ∈ (before.finishCall owner none).answers)
        (answers : before.answers = engine.answers) :
        (ticket, some error) ∈ engine.answers := by
      rw [← answers]
      simpa [finishCall] using answered
    have begun {before : Engine} {owner : Ticket} {operation : Operation}
        (answered : (ticket, some error) ∈ (before.beginLaunch owner operation).answers)
        (answers : before.answers = engine.answers) :
        (ticket, some error) ∈ engine.answers := by
      rw [beginLaunch_answers] at answered
      rwa [← answers]
    have failed {owner : Ticket} {cause : EngineError}
        (answered : (ticket, some error) ∈ (engine.finishCall owner (some cause)).answers) :
        (ticket, some error) ∈ engine.answers ∨ some cause = some error := by
      rcases List.mem_append.mp answered with earlier | now
      · exact .inl earlier
      · cases List.mem_singleton.mp now
        exact .inr rfl
    cases moved with
    | begin free waits takes =>
      cases takes with
      | startRefused | restartRefused | removeBare | watchCurrent | watchNone => exact .inl (same answered rfl)
      | startLaunch | restartBare => exact .inl (begun answered rfl)
      | restartOld | removeRunning => exact .inl answered
    | relaunched | prepared => exact .inl (begun answered rfl)
    | released | launched => exact .inl (same answered rfl)
    | unprepared | unlaunched => exact failed answered
    | ended | killed | examined | reported | elsewhere => exact .inl answered

theorem run_vacant (ran : initial.run inputs = some final) (steady : initial.Steady) (vacant : initial.Vacant) :
    final.Steady ∧ final.Vacant := by
  refine run_induction (fun engine => engine.Steady ∧ engine.Vacant) ?_ ran ⟨steady, vacant⟩
  rintro before after input ⟨steady, vacant⟩ acts
  exact ⟨acts.steady steady, acts.vacant steady vacant⟩

theorem Steady.tended {engine : Engine} (steady : engine.Steady) {index : Nat} {entry : Instance}
    (found : engine.instances[index]? = some entry) (there : entry.gone? = none) :
    engine.tended = some index := by
  rcases steady.alone index entry found there with held | ⟨⟨ticket, operation, stage⟩, busy, terminating⟩
  · unfold Engine.tended
    split
    next ticket operation other busy =>
      have fits := steady.fits _ busy
      cases operation <;> simp only [Fits] at fits
      · cases fits.2.1.symm.trans held
      · cases fits.2.1.symm.trans held
    next => exact held
  · cases terminating
    simp only [Engine.tended, busy]

/-- An engine looks after every instance that runs, so after one at most. Its backend launches
once the one-off work is done, which is tried again at each attempt until then and never after.
A start or restart that fails returns the backend's error and leaves nothing running, and a
later start tries again. -/
theorem one_instance_prepared_first (unused : initial.Unused) (ran : initial.run inputs = some final) :
    (∀ index entry, final.instances[index]? = some entry → entry.isRunning = true →
        entry.supervision ≠ .lost → final.tended = some index) ∧
      (final.busy = none → final.tended = final.current) ∧
      final.prepared = (initial.prepared || inputs.any prepares) ∧
      (.launch ∈ final.calls → final.prepared = true) ∧
      (∀ first last middle, inputs = first ++ last → initial.run first = some middle →
        initial.prepared = true ∨ first.any prepares = true → final.preparedCount = middle.preparedCount) ∧
      ∀ turn ∈ initial.trace inputs, turn.after.calls = turn.before.calls ++ turn.requests ∧
        ∀ error, (turn.failure? = some error → turn.Fails error) ∧
          ∀ ticket, (ticket, some error) ∈ turn.after.answers →
            (ticket, some error) ∈ turn.before.answers ∨ turn.failure? = some error := by
  have fresh : initial.Vacant := by
    intro work held
    cases unused.busy.symm.trans held
  refine ⟨?_, ?_, run_prepared ran, run_launch ran unused.calls, ?_, ?_⟩
  · intro index entry found running kept
    apply (run_vacant ran unused.steady fresh).1.tended found
    cases supervised : entry.supervision with
    | running | ended => simp [Instance.gone?, supervised]
    | published error => simp [Instance.isRunning, supervised] at running
    | lost => exact absurd supervised kept
  · intro free
    simp only [tended, free]
  · intro first last middle cut reached done
    subst cut
    obtain ⟨_, same, ran⟩ := runAll_append_eq_some.mp ran
    cases reached.symm.trans same
    apply run_preparedCount ran
    rw [run_prepared reached]
    simpa using done
  · intro turn member
    obtain ⟨acted, first, last, -, reached, -⟩ := runAll_around ran member
    have acts := act_acts acted
    obtain ⟨steady, vacant⟩ := run_vacant reached unused.steady fresh
    refine ⟨acts.calls, ?_⟩
    intro error
    exact ⟨acts.fails steady vacant, fun ticket answered => acts.failed answered⟩

/-- While the backend stops the old instance of a restart, that instance still runs, and is not the
current one any more. -/
theorem replaced_instance_runs_on : ∃ final entry,
    unused.run (launches 0 "one" ++ asks 1 (.restart 0)) = some final ∧ final.instances = [entry] ∧
      entry.isRunning = true ∧ entry.supervision = .running ∧ final.current = none ∧ final.tended = some 0 :=
  ⟨_, _, rfl, rfl, rfl, rfl, rfl, rfl⟩

def unpulled : Engine := { title := "mock", port := 8080, channels := [{}] }

/-- The one-off work fails and is done again, then a launch fails and is done again. -/
def stumbling : List EngineInput :=
  asks 0 .start ++ [.event (.prepared (some (.pull "mock" "no network")))] ++
    asks 1 .start ++ [.event (.prepared none), .event (.launched (.error (.system "no memory")))] ++
    launches 2 "one"

theorem unpulled_unused : unpulled.Unused := by
  constructor <;> rfl

theorem stumbling_prepares_first : ∃ final, unpulled.run stumbling = some final ∧
    final.calls = [.prepare, .prepare, .launch, .launch] ∧ final.prepared = true ∧ final.tended = some 0 := by
  have facts : (unpulled.run stumbling).any (fun final =>
      decide (final.calls = [.prepare, .prepare, .launch, .launch] ∧ final.busy = none ∧
        final.current = some 0)) = true := by
    decide +kernel
  simp only [Option.any_eq_true, decide_eq_true_eq] at facts
  obtain ⟨final, ran, calls, free, current⟩ := facts
  obtain ⟨-, tended, -, launched, -, -⟩ := one_instance_prepared_first unpulled_unused ran
  exact ⟨final, ran, calls, launched (by simp [calls]), (tended free).trans current⟩

end MockKeeper.Engine
