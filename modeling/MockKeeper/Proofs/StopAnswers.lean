import MockKeeper.Proofs.StopLedger

/-! Every restart and every removal is answered with one of the stops that its channel accepts,
and no two of them with the same one. The channel accepts nothing else once all is settled but
the stops of instances it was registered with. -/

namespace MockKeeper.Engine

def stopId (engine : Engine) (operation : Operation) : String :=
  match engine.target operation with
  | some index => engine.nameAt index
  | none => engine.ownStopId operation

def asksStop (channel : Nat) : EngineInput → Bool
  | .call _ operation => decide (AsksStop channel operation)
  | _ => false

/-- What others do: the runs behind the instances, the backend that has them killed, and the
other engines of the process. -/
def ofOthers : EngineEvent → Bool
  | .ended _ _ | .kill _ | .elsewhere => true
  | _ => false

/-- No call is under way, and neither a call that waits nor a supervisor or a waiter can go on. -/
def Settled (engine : Engine) : Prop :=
  engine.busy = none ∧ ∀ event, ofOthers event = false → engine.step event = none

theorem settled_iff {engine : Engine} : engine.Settled ↔
    engine.busy = none ∧ engine.waiting = [] ∧ ∀ entry ∈ engine.instances,
      entry.examine = none ∧ (entry.gone?.isSome = true → entry.waiters = []) := by
  constructor
  · rintro ⟨free, stuck⟩
    refine ⟨free, ?_, ?_⟩
    · cases waiting : engine.waiting with
      | nil => rfl
      | cons call rest =>
        have begins := stuck (.begin 0) rfl
        simp [step, free, waiting] at begins
    · intro entry member
      obtain ⟨index, found⟩ := List.mem_iff_getElem?.mp member
      constructor
      · have examines := stuck (.examine index) rfl
        simpa [step, found] using examines
      · intro gone
        obtain ⟨error, gone⟩ := Option.isSome_iff_exists.mp gone
        cases waits : entry.waiters with
        | nil => rfl
        | cons channel rest =>
          have reports := stuck (.report index channel) rfl
          simp [step, found, Instance.report, gone, waits] at reports
  · rintro ⟨free, waiting, still⟩
    refine ⟨free, ?_⟩
    intro event own
    cases event with
    | ended | kill | elsewhere => cases own
    | begin position => simp [step, waiting]
    | terminated | prepared | launched => simp [step, free]
    | examine index =>
      cases found : engine.instances[index]? with
      | none => simp [step, found]
      | some entry => simp [step, found, (still entry (List.mem_of_getElem? found)).1]
    | report index channel =>
      cases found : engine.instances[index]? with
      | none => simp [step, found]
      | some entry =>
        have told := (still entry (List.mem_of_getElem? found)).2
        cases gone : entry.gone? with
        | none => simp [step, found, Instance.report, gone]
        | some error => simp [step, found, Instance.report, gone, told (by simp [gone])]

instance (engine : Engine) : Decidable engine.Settled := decidable_of_iff' _ settled_iff

/-- Whoever is registered with an instance that is gone was told of it once all is settled. -/
theorem Settled.told_iff {engine : Engine} (settled : engine.Settled) (steady : engine.Steady)
    {entry : Instance} (member : entry ∈ engine.instances) (channel : Nat) :
    entry.told channel = true ↔ entry.gone?.isSome = true ∧ channel ∈ entry.watchers := by
  have sound := steady.sound entry member
  simp only [Instance.told, decide_eq_true_eq]
  constructor
  · rintro ⟨watched, told⟩
    exact ⟨sound.told channel watched told, watched⟩
  · rintro ⟨gone, watched⟩
    have none := ((settled_iff.mp settled).2.2 entry member).2 gone
    exact ⟨watched, by simp [none]⟩

def goneWatchedCount (engine : Engine) (channel : Nat) : Nat :=
  engine.instances.countP fun entry => entry.gone?.isSome && decide (channel ∈ entry.watchers)

theorem Settled.toldCount {engine : Engine} (settled : engine.Settled) (steady : engine.Steady)
    (channel : Nat) : engine.toldCount channel = engine.goneWatchedCount channel := by
  apply List.countP_congr
  intro entry member
  simpa using settled.told_iff steady member channel

theorem Settled.toldAt {engine : Engine} (settled : engine.Settled) (steady : engine.Steady)
    {channel index : Nat} (inside : index < engine.instances.length) (left : engine.current ≠ some index)
    (watched : engine.watchedAt channel index = true) : engine.toldAt channel index = true := by
  have leaves : ¬ engine.Stays index := by
    rintro (held | ⟨work, busy, -⟩)
    · exact left held
    · cases settled.1.symm.trans busy
  obtain ⟨entry, found, gone⟩ := goneAt_eq_true.mp (steady.gone_unless_stays inside leaves)
  obtain ⟨same, foundSame, member⟩ := watchedAt_eq_true.mp watched
  rw [found] at foundSame
  cases foundSame
  rw [toldAt_of_found found]
  exact (settled.told_iff steady (List.mem_of_getElem? found) channel).mpr ⟨gone, member⟩

namespace Turn

def answerId? (channel : Nat) (turn : Turn) : Option String :=
  turn.served.bind fun operation =>
    if AsksStop channel operation then some (turn.before.stopId operation) else none

end Turn

variable {first channel : Nat}

/-- The stop of an instance that is current or was not launched yet, or one under a number that
was not used yet: no call was answered with it. -/
inductive Ahead (engine final : Engine) (id : String) : Prop
  | launched {index : Nat} {entry : Instance} (found : final.instances[index]? = some entry)
      (named : entry.id = id)
      (untaken : engine.current = some index ∨ engine.instances.length ≤ index)
  | own {number : Nat} (unused : engine.nextSynthetic ≤ number)
      (used : number < final.nextSynthetic) (synthetic : IsSynthetic number id)

theorem Acts.ahead {engine after final : Engine} {input : EngineInput} (acts : engine.Acts input after)
    {id : String} (ahead : after.Ahead final id) : engine.Ahead final id := by
  cases acts with
  | called | took | received =>
    cases ahead with
    | launched found named untaken => exact .launched found named untaken
    | own unused used synthetic => exact .own unused used synthetic
  | moved moved =>
    cases ahead with
    | launched found named untaken =>
      have launched := moved.names.length_le
      simp only [List.length_map] at launched
      refine .launched found named ?_
      rcases untaken with held | beyond
      · exact moved.current held
      · exact .inr (Nat.le_trans launched beyond)
    | own unused used synthetic => exact .own (Nat.le_trans moved.numbers unused) used synthetic

/-- How a call that takes the lock is answered: it takes an instance out that the channel is
registered with, or it reports a stop itself and uses up its number. -/
inductive Turn.Answers (channel : Nat) (turn : Turn) (id : String) : Prop
  | launched {index : Nat} {entry : Instance} (found : turn.before.instances[index]? = some entry)
      (named : entry.id = id) (held : turn.before.current = some index)
      (out : turn.after.current = none) (watched : turn.after.watchedAt channel index = true)
  | own {event : StopEvent} (reported : event ∈ turn.ownStops channel) (named : event.id = id)
      (synthetic : IsSynthetic turn.before.syntheticNumber id)
      (used : turn.after.nextSynthetic = turn.before.syntheticNumber + 1)

private theorem Turn.answers_own {turn : Turn} {operation : Operation} (served : turn.served = some operation)
    (asks : AsksStop channel operation) (bare : turn.before.target operation = none)
    (used : turn.after.nextSynthetic = turn.before.syntheticNumber + 1) :
    turn.Answers channel (turn.before.stopId operation) := by
  have named : turn.before.stopId operation = turn.before.ownStopId operation := by
    simp only [stopId, bare]
  rw [named]
  have synthetic : IsSynthetic turn.before.syntheticNumber (turn.before.ownStopId operation) := by
    cases operation with
    | restart => exact .inl rfl
    | start | remove | notifyOnStop => exact .inr rfl
  have reported : (⟨turn.before.ownStopId operation, none⟩ : StopEvent) ∈ turn.ownStops channel := by
    simp only [ownStops, served, Engine.ownStops, asks, bare, and_self, if_true, List.mem_singleton]
  exact .own reported rfl synthetic used

private theorem Turn.answers_launched {turn : Turn} {operation : Operation} {index : Nat}
    (steady : turn.before.Steady) (held : turn.before.current = some index)
    (aims : turn.before.target operation = some index) (out : turn.after.current = none)
    (watched : turn.after.watchedAt channel index = true) :
    turn.Answers channel (turn.before.stopId operation) := by
  obtain ⟨entry, found⟩ := steady.found held
  have named : turn.before.stopId operation = entry.id := by
    simp only [stopId, aims, nameAt, found, Option.map_some, Option.getD_some]
  exact .launched found named.symm held out watched

theorem act_answers {before after : Engine} {input : EngineInput} (acted : before.act input = some after)
    (steady : before.Steady) {id : String}
    (answer : Turn.answerId? channel ⟨before, input, after⟩ = some id) :
    Turn.Answers channel ⟨before, input, after⟩ id := by
  obtain ⟨operation, served, answer⟩ := Option.bind_eq_some_iff.mp answer
  split at answer
  next asks =>
    cases answer
    cases act_acts acted with
    | called | took | received => cases served
    | moved moved =>
      have later := moved.steady steady
      cases moved with
      | @begin position ticket asked _ free waits takes =>
        have same : asked = operation := by simpa [Turn.served, waits] using served
        subst same
        cases takes with
        | startRefused | startLaunch | watchCurrent | watchNone => exact asks.elim
        | restartOld held =>
          cases asks
          have fits := later.fits _ rfl
          exact Turn.answers_launched steady held held fits.2.1 fits.2.2
        | removeRunning running =>
          cases asks
          have fits := later.fits _ rfl
          exact Turn.answers_launched steady (runningCurrent_eq_some.mp running).1 running fits.2.1 fits.2.2
        | restartRefused bare => exact Turn.answers_own served asks bare rfl
        | @restartBare other bare =>
          have numbered := beginLaunch_nextSynthetic
            ((before.without position).reportSynthetic other "restart") ticket (.restart other)
          exact Turn.answers_own served asks bare numbered
        | removeBare idle => exact Turn.answers_own served asks idle rfl
      | _ => cases served
  next => cases answer

/-- The answer of a call is ahead when the call takes the lock, and is not any more afterwards. -/
theorem Turn.Answers.ahead {turn : Turn} {id : String} {final : Engine} (answers : turn.Answers channel id)
    (evolves : Evolves turn.before.instances final.instances)
    (numbers : turn.after.nextSynthetic ≤ final.nextSynthetic) : turn.before.Ahead final id := by
  cases answers with
  | @launched index entry found named held =>
    obtain ⟨later, foundLater, grows⟩ := evolves index entry found
    exact .launched foundLater (grows.id.trans named) (.inl held)
  | own reported named synthetic used => exact .own turn.before.nextSynthetic_le (by omega) synthetic

namespace Follows
variable {initial final : Engine} {input : EngineInput} {rest inputs : List EngineInput}

theorem ahead (follows : Follows first channel initial inputs final) :
    ∀ id ∈ (initial.trace inputs).filterMap (Turn.answerId? channel), initial.Ahead final id := by
  induction inputs generalizing initial with
  | nil => simp [trace, turns]
  | cons input rest ih =>
    obtain ⟨next, acted, -, onwards⟩ := follows.cons
    have acts := act_acts acted
    rw [trace_cons acted]
    intro id member
    obtain ⟨turn, member, answer⟩ := List.mem_filterMap.mp member
    rcases List.mem_cons.mp member with rfl | later
    · exact (act_answers acted follows.steady answer).ahead (run_evolves follows.ran)
        (run_numbers onwards.ran)
    · exact acts.ahead (ih onwards id (List.mem_filterMap.mpr ⟨turn, later, answer⟩))

theorem not_ahead {turn : Turn} (onwards : Follows first channel turn.after rest final) {id : String}
    (answers : turn.Answers channel id) (acts : turn.before.Acts turn.input turn.after)
    (counted : first ≤ turn.before.nextSynthetic) : ¬ turn.after.Ahead final id := by
  have countedOn := onwards.recorded.counted
  have numbers := run_numbers onwards.ran
  have launched := acts.launched_le
  intro ahead
  -- An instance that was taken out does not become current again, and numbers are used once.
  cases answers with
  | @launched index entry found named held out watched =>
    have inside := (List.getElem?_eq_some_iff.mp found).1
    obtain ⟨grown, foundGrown, grows⟩ := acts.evolves.trans (run_evolves onwards.ran) index entry found
    cases ahead with
    | @launched other twin foundTwin namedTwin untaken =>
      have same := onwards.faithful.same_place foundGrown foundTwin
        ((grows.id.trans named).trans namedTwin.symm)
      rcases untaken with current | beyond
      · rw [out] at current
        cases current
      · omega
    | own unused used synthetic =>
      rw [← named, ← grows.id] at synthetic
      exact onwards.faithful.foreign grown (List.mem_of_getElem? foundGrown) _ (by omega) used synthetic
  | own reported named synthetic used =>
    cases ahead with
    | launched foundTwin namedTwin =>
      rw [← namedTwin] at synthetic
      have least := turn.before.nextSynthetic_le
      exact onwards.faithful.foreign _ (List.mem_of_getElem? foundTwin) _ (by omega) (by omega) synthetic
    | own unused usedLater other =>
      have equal := synthetic.number_inj other
      omega

theorem nodup (follows : Follows first channel initial inputs final) :
    ((initial.trace inputs).filterMap (Turn.answerId? channel)).Nodup := by
  induction inputs generalizing initial with
  | nil => simp [trace, turns]
  | cons input rest ih =>
    obtain ⟨next, acted, -, onwards⟩ := follows.cons
    rw [trace_cons acted]
    cases answer : Turn.answerId? channel ⟨initial, input, next⟩ with
    | none =>
      rw [List.filterMap_cons_none answer]
      exact ih onwards
    | some id =>
      rw [List.filterMap_cons_some answer]
      refine List.nodup_cons.mpr ⟨?_, ih onwards⟩
      intro again
      exact onwards.not_ahead (act_answers acted follows.steady answer) (act_acts acted)
        follows.recorded.counted (onwards.ahead id again)

theorem answered (follows : Follows first channel initial inputs final) (empty : initial.instances = [])
    (settled : final.Settled) :
    ∀ id ∈ (initial.trace inputs).filterMap (Turn.answerId? channel),
      ∃ event ∈ (initial.trace inputs).flatMap (·.accepted channel), event.id = id := by
  intro id member
  obtain ⟨turn, member, answer⟩ := List.mem_filterMap.mp member
  obtain ⟨last, steady, acted, tells, onwards⟩ := follows.around member
  cases act_answers acted steady answer with
  | @launched index entry found named held out watched =>
    have inside : index < turn.before.instances.length := (List.getElem?_eq_some_iff.mp found).1
    have grown := (act_acts acted).launched_le
    have evolves := (act_acts acted).evolves.trans (run_evolves onwards.ran)
    obtain ⟨later, foundLater, grows⟩ := evolves index entry found
    have left : final.current ≠ some index := by
      intro current
      rcases run_current onwards.ran current with back | beyond
      · rw [out] at back
        cases back
      · omega
    have told := settled.toldAt follows.final_steady (List.getElem?_eq_some_iff.mp foundLater).1 left
      (watchedAt_mono (run_evolves onwards.ran) watched)
    rcases follows.told told with before | ⟨event, accepted, same⟩
    · simp [toldAt, empty] at before
    · refine ⟨event, accepted, ?_⟩
      rw [same, nameAt, foundLater]
      exact grows.id.trans named
  | @own event reported named =>
    exact ⟨event, List.mem_flatMap.mpr ⟨turn, member, tells.own_accepted reported⟩, named⟩

end Follows

theorem Takes.waiting {engine after : Engine} {ticket : Ticket} {operation : Operation}
    (takes : engine.Takes ticket operation after) : after.waiting = engine.waiting := by
  cases takes with
  | startLaunch => exact beginLaunch_waiting engine ticket .start
  | @restartBare other => exact beginLaunch_waiting (engine.reportSynthetic other "restart") ticket _
  | startRefused | restartOld | restartRefused | removeRunning | removeBare | watchCurrent | watchNone => rfl

def waitingFor (engine : Engine) (channel : Nat) : Nat :=
  engine.waiting.countP fun call => decide (AsksStop channel call.2)

theorem Acts.waitingFor {engine after : Engine} {input : EngineInput} (acts : engine.Acts input after)
    (channel : Nat) :
    (asksStop channel input).toNat + engine.waitingFor channel =
      (Turn.answerId? channel ⟨engine, input, after⟩).toList.length + after.waitingFor channel := by
  cases acts with
  | @called ticket operation =>
    simp only [Engine.waitingFor, enqueue, List.countP_append, List.countP_singleton]
    by_cases asks : AsksStop channel operation
    · simp [asksStop, asks, Turn.answerId?, Turn.served, Nat.add_comm]
    · simp [asksStop, asks, Turn.answerId?, Turn.served]
  | took | received => rfl
  | moved moved =>
    cases moved with
    | @begin position ticket operation _ free waits takes =>
      have left : after.waiting = engine.waiting.eraseIdx position := takes.waiting
      have counted := (perm_cons_eraseIdx waits).countP_eq fun call => decide (AsksStop channel call.2)
      rw [List.countP_cons] at counted
      simp only [Engine.waitingFor, left]
      by_cases asks : AsksStop channel operation
      · simp [asksStop, Turn.answerId?, Turn.served, waits, asks] at counted ⊢
        omega
      · simp [asksStop, Turn.answerId?, Turn.served, waits, asks] at counted ⊢
        omega
    | relaunched | prepared =>
      simp only [Engine.waitingFor, beginLaunch_waiting]
      rfl
    | released | unprepared | launched | unlaunched | ended | killed | examined | reported | elsewhere => rfl

theorem run_waitingFor {initial final : Engine} {inputs : List EngineInput}
    (ran : initial.run inputs = some final) (channel : Nat) :
    inputs.countP (asksStop channel) + initial.waitingFor channel =
      ((initial.trace inputs).filterMap (Turn.answerId? channel)).length + final.waitingFor channel := by
  induction inputs generalizing initial with
  | nil =>
    cases ran
    rfl
  | cons input rest ih =>
    obtain ⟨next, acted, ran⟩ := runAll_cons_eq_some.mp ran
    have now := (act_acts acted).waitingFor channel
    have later := ih ran
    rw [trace_cons acted, List.countP_cons, List.filterMap_cons]
    cases answer : Turn.answerId? channel ⟨initial, input, next⟩ with
    | none =>
      simp only [answer, Option.toList_none, List.length_nil] at now
      cases asked : asksStop channel input <;> simp [asked] at now ⊢ <;> omega
    | some id =>
      simp only [answer, Option.toList_some, List.length_singleton] at now
      simp only [List.length_cons]
      cases asked : asksStop channel input <;> simp [asked] at now ⊢ <;> omega

theorem ownStops_length (channel : Nat) (turns : List Turn) :
    (turns.flatMap (·.ownStops channel)).length =
      turns.countP (·.restartsNone channel) + turns.countP (·.removesNone channel) := by
  induction turns with
  | nil => rfl
  | cons turn rest ih =>
    have now : (turn.ownStops channel).length =
        (turn.restartsNone channel).toNat + (turn.removesNone channel).toNat := by
      unfold Turn.ownStops Turn.restartsNone Turn.removesNone
      cases served : turn.served with
      | none => simp
      | some operation =>
        cases operation with
        | start | notifyOnStop => simp [ownStops, AsksStop]
        | restart other =>
          by_cases bare : turn.before.current = none <;> by_cases same : other = channel <;>
            simp [ownStops, AsksStop, target, bare, same]
        | remove other =>
          by_cases idle : turn.before.runningCurrent = none <;> by_cases same : other = channel <;>
            simp [ownStops, AsksStop, target, idle, same]
    rw [List.flatMap_cons, List.length_append, List.countP_cons, List.countP_cons, ih, now]
    cases turn.restartsNone channel <;> cases turn.removesNone channel <;> simp <;> omega

/-- What a new channel accepts until all is settled: the stop of each instance that is gone and
that it was registered with, and one for each restart that found no instance and each removal
that found none running. Every restart and every removal that was called, even one whose launch
failed, is answered with one of them that no other is answered with. -/
theorem stops_accounted_for {initial final : Engine} {inputs : List EngineInput}
    (unused : initial.Unused) (new : initial.channels[channel]? = some {})
    (ran : initial.run inputs = some final) (faithful : final.Faithful initial.nextSynthetic)
    (settled : final.Settled) :
    ((initial.trace inputs).flatMap (·.accepted channel)).length =
        final.goneWatchedCount channel + (initial.trace inputs).countP (·.restartsNone channel) +
          (initial.trace inputs).countP (·.removesNone channel) ∧
      ((initial.trace inputs).filterMap (Turn.answerId? channel)).length = inputs.countP (asksStop channel) ∧
      ((initial.trace inputs).filterMap (Turn.answerId? channel)).Nodup ∧
      ∀ id ∈ (initial.trace inputs).filterMap (Turn.answerId? channel),
        ∃ event ∈ (initial.trace inputs).flatMap (·.accepted channel), event.id = id := by
  have follows : Follows initial.nextSynthetic channel initial inputs final :=
    ⟨ran, unused.steady, recorded_new new, faithful⟩
  have nobody : initial.toldCount channel = 0 := by simp [toldCount, unused.instances]
  have counted := follows.count
  rw [settled.toldCount follows.final_steady, ownStops_length, nobody] at counted
  have answered := run_waitingFor ran channel
  simp only [waitingFor, unused.waiting, (settled_iff.mp settled).2.1, List.countP_nil] at answered
  refine ⟨?_, ?_, follows.nodup, follows.answered unused.instances settled⟩
  · omega
  · omega

/-- A crash is reported, the restart after it fails, the next one finds nothing to stop, and
neither does a second removal. -/
def troubled : List EngineInput :=
  launches 0 "one" ++ asks 1 (.notifyOnStop 0) ++ ends 0 (.failure "exit code 1") ++
    [.event (.report 0 0)] ++ asks 2 (.restart 0) ++
    [.event .terminated, .event (.launched (.error (.system "no memory")))] ++ asks 3 (.restart 0) ++
    [.event (.launched (.ok { id := "two" }))] ++ asks 4 (.remove 0) ++ ends 1 .success ++
    [.event .terminated, .event (.report 1 0)] ++ asks 5 (.remove 0)

theorem troubled_stops_accounted_for : ∃ final, unused.run troubled = some final ∧
    final.goneWatchedCount 0 = 2 ∧ ((unused.trace troubled).flatMap (·.accepted 0)).length = 4 := by
  have facts : (unused.run troubled).any (fun final =>
      decide (final.Faithful unused.nextSynthetic ∧ final.Settled ∧ final.goneWatchedCount 0 = 2 ∧
        (unused.trace troubled).countP (·.restartsNone 0) = 1 ∧
        (unused.trace troubled).countP (·.removesNone 0) = 1)) = true := by
    decide +kernel
  simp only [Option.any_eq_true, decide_eq_true_eq] at facts
  obtain ⟨final, ran, faithful, settled, two, one, other⟩ := facts
  obtain ⟨count, -⟩ := stops_accounted_for unused_unused (rfl : unused.channels[0]? = some {}) ran faithful settled
  exact ⟨final, ran, two, by omega⟩

end MockKeeper.Engine
