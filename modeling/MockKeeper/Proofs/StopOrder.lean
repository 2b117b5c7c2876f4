import MockKeeper.Proofs.StopAccounts

/-! In which order the reports of an engine's instances reach a channel. Each waiter reports
when it gets to it, so an old instance may be reported after the one that replaced it. Where
none is, the queue holds the instances in the order of their launch. -/

namespace MockKeeper

namespace Instance

def told (entry : Instance) (channel : Nat) : Bool :=
  decide (channel ∈ entry.watchers ∧ channel ∉ entry.waiters)

theorem told_congr {before after : Instance} (watchers : after.watchers = before.watchers)
    (waiters : after.waiters = before.waiters) (channel : Nat) :
    after.told channel = before.told channel := by
  simp only [told, watchers, waiters]

theorem told_markStopping (entry : Instance) (channel : Nat) :
    entry.markStopping.told channel = entry.told channel := rfl

theorem told_requestKill (entry : Instance) (channel : Nat) :
    entry.requestKill.told channel = entry.told channel := rfl

theorem told_watch (entry : Instance) (channel other : Nat) :
    (entry.watch channel).told other = entry.told other := by
  unfold watch
  split
  next => rfl
  next new =>
    by_cases same : other = channel
    · subst same
      simp [told, new]
    · simp [told, same]

theorem told_report {entry after : Instance} {channel : Nat} {event : StopEvent}
    (reported : entry.report channel = some (event, after)) (sound : entry.Sound) (other : Nat) :
    after.told other = (entry.told other || decide (other = channel)) := by
  obtain ⟨-, waits, rfl⟩ := report_event reported
  by_cases same : other = channel
  · subst same
    simp [told, sound.registered other waits, sound.once.not_mem_erase]
  · simp [told, same, List.mem_erase_of_ne same]

end Instance

namespace Engine

def toldAt (engine : Engine) (channel index : Nat) : Bool :=
  (engine.instances[index]?).any fun entry => entry.told channel

/-- No instance was reported to a channel before one that was launched earlier. -/
def InOrder (engine : Engine) (channel : Nat) : Prop :=
  ∀ other < engine.instances.length, engine.toldAt channel other = true →
    ∀ index < other, engine.toldAt channel index = true

instance (engine : Engine) (channel : Nat) : Decidable (engine.InOrder channel) :=
  inferInstanceAs (Decidable (∀ other < _, _ → ∀ index < other, _))

/-- A channel was told of the first instances that were launched, and some of its reports
were taken; the others wait in that order. -/
structure Lined (engine : Engine) (channel taken told : Nat) : Prop where
  within : taken ≤ told
  launched : told ≤ engine.instances.length
  front : ∀ index, engine.toldAt channel index = true ↔ index < told
  queue : (engine.stops channel).map StopEvent.id =
    ((engine.instances.map Instance.id).take told).drop taken

variable {first channel taken told : Nat}

theorem toldAt_of_found {engine : Engine} {index : Nat} {entry : Instance}
    (found : engine.instances[index]? = some entry) :
    engine.toldAt channel index = entry.told channel := by
  simp [toldAt, found]

theorem toldAt_changeInstance {engine : Engine} {index : Nat} {change : Instance → Instance}
    (same : ∀ entry, engine.instances[index]? = some entry →
      (change entry).told channel = entry.told channel) (other : Nat) :
    (engine.changeInstance index change).toldAt channel other = engine.toldAt channel other := by
  simp only [toldAt, changeInstance, List.getElem?_modify]
  cases found : engine.instances[other]? with
  | none => rfl
  | some entry =>
    by_cases here : index = other
    · subst here
      simp [same entry found]
    · simp [here]

theorem toldAt_congr {before after : Engine} (instances : after.instances = before.instances)
    (index : Nat) : after.toldAt channel index = before.toldAt channel index := by
  simp only [toldAt, instances]

theorem toldAt_terminating {engine : Engine} (index other watching : Nat) :
    ((engine.changeInstance index (·.watch watching)).changeInstance index Instance.markStopping).toldAt
      channel other = engine.toldAt channel other := by
  rw [toldAt_changeInstance fun entry _ => entry.told_markStopping channel,
    toldAt_changeInstance fun entry _ => entry.told_watch watching channel]

theorem Takes.toldAt {engine after : Engine} {ticket : Ticket} {operation : Operation}
    (takes : engine.Takes ticket operation after) (index : Nat) :
    after.toldAt channel index = engine.toldAt channel index := by
  cases takes with
  | startRefused | restartRefused | removeBare | watchNone => rfl
  | startLaunch | restartBare =>
    obtain ⟨stage, call, -, equal⟩ := beginLaunch_eq _ ticket _
    rw [equal]
    rfl
  | @restartOld watching last | @removeRunning watching last =>
    refine Eq.trans (toldAt_congr ?_ index) (toldAt_terminating last index watching)
    rfl
  | @watchCurrent watching last =>
    exact toldAt_changeInstance (fun entry _ => entry.told_watch watching channel) index

theorem toldAt_reported {engine : Engine} {index teller : Nat} {entry later : Instance} {event : StopEvent}
    (found : engine.instances[index]? = some entry) (reported : entry.report teller = some (event, later))
    (sound : entry.Sound) (other : Nat) :
    ((engine.changeInstance index fun _ => later).deliver teller event).toldAt channel other =
      (engine.toldAt channel other || decide (channel = teller ∧ other = index)) := by
  by_cases same : other = index
  · subst same
    have changed : ((engine.changeInstance other fun _ => later).deliver teller event).instances[other]? =
        some later := changeInstance_found found _
    rw [toldAt_of_found changed, toldAt_of_found found, Instance.told_report reported sound]
    simp
  · have aside : index ≠ other := fun equal => same equal.symm
    simp [toldAt, deliver, changeInstance, aside, same]

theorem Moves.toldAt {engine after : Engine} {event : EngineEvent} (moved : engine.Moves event after)
    (steady : engine.Steady) (other : ∀ index, event ≠ .report index channel) (index : Nat) :
    after.toldAt channel index = engine.toldAt channel index := by
  cases moved with
  | begin free waits takes => exact takes.toldAt index
  | @relaunched work | @prepared work =>
    obtain ⟨stage, call, -, equal⟩ := beginLaunch_eq _ work.ticket work.operation
    rw [equal]
    rfl
  | released | unprepared | unlaunched => rfl
  | @launched work launched =>
    simp only [Engine.toldAt, adopt_instances]
    rcases Nat.lt_trichotomy index engine.instances.length with inside | last | outside
    · rw [List.getElem?_append_left inside]
    · subst last
      simp [Instance.told]
    · rw [List.getElem?_eq_none (by simp only [List.length_append, List.length_singleton]; omega),
        List.getElem?_eq_none (by omega)]
  | ended found finished =>
    obtain ⟨watchers, waiters⟩ := Instance.finish_registrations finished
    refine toldAt_changeInstance (fun entry same => ?_) index
    cases found.symm.trans same
    exact Instance.told_congr watchers waiters channel
  | examined found examined =>
    obtain ⟨watchers, waiters⟩ := Instance.examine_registrations examined
    refine toldAt_changeInstance (fun entry same => ?_) index
    cases found.symm.trans same
    exact Instance.told_congr watchers waiters channel
  | elsewhere => rfl
  | killed => exact toldAt_changeInstance (fun entry _ => entry.told_requestKill channel) index
  | @reported place teller entry later _ found reported =>
    have different : channel ≠ teller := fun same => other place (by rw [same])
    rw [toldAt_reported found reported (steady.sound entry (List.mem_of_getElem? found))]
    simp [different]

theorem Moves.stops {engine after : Engine} {event : EngineEvent} (moved : engine.Moves event after)
    (numbered : after.nextSynthetic = engine.nextSynthetic)
    (other : ∀ index, event ≠ .report index channel) : after.stops channel = engine.stops channel := by
  cases moved with
  | begin free waits takes =>
    cases takes with
    | startRefused | restartOld | removeRunning | watchCurrent | watchNone => rfl
    | startLaunch =>
      obtain ⟨stage, call, -, equal⟩ := beginLaunch_eq _ _ _
      rw [equal]
      rfl
    | restartBare =>
      rw [beginLaunch_nextSynthetic] at numbered
      exact absurd numbered (Nat.ne_of_gt (Nat.lt_succ_of_le engine.nextSynthetic_le))
    | restartRefused | removeBare =>
      exact absurd numbered (Nat.ne_of_gt (Nat.lt_succ_of_le engine.nextSynthetic_le))
  | @relaunched work | @prepared work =>
    obtain ⟨stage, call, -, equal⟩ := beginLaunch_eq _ work.ticket work.operation
    rw [equal]
    rfl
  | @reported place teller =>
    have different : teller ≠ channel := fun same => other place (by rw [same])
    simp [Engine.stops, deliver, changeInstance, different]
  | released | unprepared | launched | unlaunched | ended | killed | examined | elsewhere => rfl

theorem Evolves.names {before after : List Instance} (evolves : Evolves before after)
    (length : after.length = before.length) : after.map Instance.id = before.map Instance.id := by
  apply List.ext_getElem?
  intro index
  simp only [List.getElem?_map]
  cases found : before[index]? with
  | none =>
    have outside := List.getElem?_eq_none_iff.mp found
    rw [List.getElem?_eq_none (by omega)]
  | some entry =>
    obtain ⟨later, foundLater, grows⟩ := evolves index entry found
    rw [foundLater, Option.map_some, Option.map_some, grows.id]

theorem Moves.names {engine after : Engine} {event : EngineEvent} (moved : engine.Moves event after) :
    engine.instances.map Instance.id <+: after.instances.map Instance.id := by
  rcases moved.instances with ⟨evolves, length⟩ | ⟨work, launched, -, -, -, rfl⟩
  · exact ⟨[], by rw [List.append_nil, evolves.names length]⟩
  · rw [adopt_instances, List.map_append]
    exact List.prefix_append _ _

theorem Lined.kept {before after : Engine} (lined : before.Lined channel taken told)
    (toldAt : ∀ index, after.toldAt channel index = before.toldAt channel index)
    (names : before.instances.map Instance.id <+: after.instances.map Instance.id)
    (stops : after.stops channel = before.stops channel) : after.Lined channel taken told := by
  have launched := names.length_le
  simp only [List.length_map] at launched
  refine ⟨lined.within, Nat.le_trans lined.launched launched, ?_, ?_⟩
  · intro index
    rw [toldAt]
    exact lined.front index
  · obtain ⟨added, names⟩ := names
    have within : told ≤ (before.instances.map Instance.id).length := by
      rw [List.length_map]
      exact lined.launched
    rw [stops, lined.queue, ← names, List.take_append_of_le_length within]

private theorem Lined.report {engine after : Engine} {index : Nat} (lined : engine.Lined channel taken told)
    (moved : engine.Moves (.report index channel) after) (steady : engine.Steady)
    (recorded : engine.Recorded first channel) (faithful : engine.Faithful first)
    (ordered : after.InOrder channel) : after.Lined channel taken (told + 1) := by
  have names := moved.evolves.names (moved.length nofun)
  cases moved with
  | @reported _ _ entry later event found reported =>
    have sound := steady.sound entry (List.mem_of_getElem? found)
    obtain ⟨named, waits, -⟩ := Instance.report_event reported
    have inside := (List.getElem?_eq_some_iff.mp found).1
    have toldNow : ∀ other, ((engine.changeInstance index fun _ => later).deliver channel event).toldAt
        channel other = (engine.toldAt channel other || decide (other = index)) := by
      intro other
      rw [toldAt_reported found reported sound]
      simp
    -- It was not told before, so it does not come early, and in order it does not come late.
    have untold : ¬ index < told := by
      intro before
      have known := (lined.front index).mpr before
      rw [toldAt_of_found found, Instance.told, decide_eq_true_eq] at known
      exact known.2 waits
    have reached : index ≤ told := by
      apply Nat.le_of_not_lt
      intro beyond
      have early := ordered index (by simpa [deliver, changeInstance] using inside) (by simp [toldNow]) told beyond
      rw [toldNow, Bool.or_eq_true, decide_eq_true_eq] at early
      rcases early with known | same
      · exact Nat.lt_irrefl told ((lined.front told).mp known)
      · omega
    have here : index = told := by omega
    subst here
    refine ⟨Nat.le_succ_of_le lined.within, ?_, ?_, ?_⟩
    · simp only [deliver, changeInstance, List.length_modify]
      exact inside
    · intro other
      rw [toldNow, Bool.or_eq_true, decide_eq_true_eq, lined.front]
      omega
    · obtain ⟨queue, there⟩ := recorded.there
      have new := recorded.new_report faithful there found waits
      rw [← named] at new
      have queued : ((engine.changeInstance index fun _ => later).deliver channel event).stops channel =
          engine.stops channel ++ [event] := stops_deliver _ there new
      have last : (engine.instances.map Instance.id)[index]? = some entry.id := by
        simp [found]
      have most : taken ≤ ((engine.instances.map Instance.id).take index).length := by
        rw [List.length_take, List.length_map]
        have := lined.within
        omega
      rw [queued, names, List.map_append, lined.queue, List.take_add_one, last, List.drop_append_of_le_length most]
      simp [named]

/-- As long as the reports of the instances come in order, so does the queue. -/
theorem Moves.lined {engine after : Engine} {event : EngineEvent} (moved : engine.Moves event after)
    (lined : engine.Lined channel taken told) (steady : engine.Steady)
    (recorded : engine.Recorded first channel) (faithful : engine.Faithful first)
    (numbered : after.nextSynthetic = engine.nextSynthetic) (ordered : after.InOrder channel) :
    ∃ later, after.Lined channel taken later := by
  by_cases reports : ∃ index, event = .report index channel
  · obtain ⟨index, rfl⟩ := reports
    exact ⟨told + 1, lined.report moved steady recorded faithful ordered⟩
  · have other : ∀ index, event ≠ .report index channel := fun index same => reports ⟨index, same⟩
    exact ⟨told, lined.kept (moved.toldAt steady other) moved.names (moved.stops numbered other)⟩

end Engine

end MockKeeper
