import MockKeeper.Proofs.Lookup
import MockKeeper.Proofs.StopReports

/-! How many stops a channel is still owed. A registered instance that has not reported
counts as much as a report in the queue, so reports move between the two and change
nothing. Only a launch, a stop without an instance, and a receipt change what is owed. -/

namespace MockKeeper.Engine

def queued (engine : Engine) (channel : Nat) : Nat :=
  ((engine.channels[channel]?).map StopChannel.pending).getD 0

def stops (engine : Engine) (channel : Nat) : List StopEvent :=
  ((engine.channels[channel]?).map StopChannel.queue).getD []

def unreported (engine : Engine) (channel : Nat) : Nat :=
  engine.instances.countP fun entry => decide (channel ∈ entry.waiters)

/-- Reports that a channel has or will have, once all instances are gone. -/
def owed (engine : Engine) (channel : Nat) : Nat := engine.queued channel + engine.unreported channel

/-- One if the channel is yet to be registered with the current instance. -/
def unwatched (engine : Engine) (channel : Nat) : Nat :=
  match engine.current with
  | some index => if engine.watchedAt channel index then 0 else 1
  | none => 0

/-- What a channel is owed once it is registered with the current instance. -/
def promised (engine : Engine) (channel : Nat) : Nat := engine.owed channel + engine.unwatched channel

variable {first channel index : Nat}

theorem owed_congr {before after : Engine} (instances : after.instances = before.instances)
    (channels : after.channels = before.channels) : after.owed channel = before.owed channel := by
  simp only [owed, queued, unreported, instances, channels]

theorem unwatched_congr {before after : Engine} (instances : after.instances = before.instances)
    (current : after.current = before.current) : after.unwatched channel = before.unwatched channel := by
  unfold unwatched watchedAt
  rw [instances, current]

theorem unwatched_of_bare {engine : Engine} (bare : engine.current = none) :
    engine.unwatched channel = 0 := by
  simp only [unwatched, bare]

theorem unwatched_le_one (engine : Engine) (channel : Nat) : engine.unwatched channel ≤ 1 := by
  unfold unwatched
  cases engine.current with
  | none => exact Nat.zero_le _
  | some index =>
    simp only
    split
    · exact Nat.zero_le _
    · exact Nat.le_refl _

theorem promised_of_bare {engine : Engine} (bare : engine.current = none) :
    engine.promised channel = engine.owed channel := by
  rw [promised, unwatched_of_bare bare, Nat.add_zero]

theorem unwatched_of_watched {engine : Engine}
    (watched : ∀ index, engine.current = some index → engine.watchedAt channel index = true) :
    engine.unwatched channel = 0 := by
  cases held : engine.current with
  | none => exact unwatched_of_bare held
  | some index => simp only [unwatched, held, watched index held, if_true]

theorem watched_of_unwatched {engine : Engine} (none : engine.unwatched channel = 0)
    (held : engine.current = some index) : engine.watchedAt channel index = true := by
  simp only [unwatched, held] at none
  split at none
  next watched => exact watched
  next => cases none

private theorem unreported_changeInstance {engine : Engine} (channel : Nat) {entry : Instance}
    (found : engine.instances[index]? = some entry) (change : Instance → Instance) :
    (engine.changeInstance index change).unreported channel + (if channel ∈ entry.waiters then 1 else 0) =
      engine.unreported channel + (if channel ∈ (change entry).waiters then 1 else 0) := by
  have counted := countP_modify (fun entry => decide (channel ∈ entry.waiters)) change found
  simp only [decide_eq_true_eq] at counted
  exact counted

private theorem watchedAt_changeInstance {engine : Engine} {entry : Instance} {change : Instance → Instance}
    (found : engine.instances[index]? = some entry) (watchers : (change entry).watchers = entry.watchers)
    (other : Nat) :
    (engine.changeInstance index change).watchedAt channel other = engine.watchedAt channel other := by
  simp only [watchedAt, changeInstance, List.getElem?_modify]
  by_cases same : index = other
  · subst same
    simp [found, watchers]
  · simp [same]

theorem account_changeInstance {engine : Engine} (channel : Nat) {entry : Instance}
    (change : Instance → Instance) (found : engine.instances[index]? = some entry)
    (watchers : (change entry).watchers = entry.watchers)
    (waiters : (change entry).waiters = entry.waiters) :
    (engine.changeInstance index change).owed channel = engine.owed channel ∧
      (engine.changeInstance index change).unwatched channel = engine.unwatched channel := by
  constructor
  · have counted := unreported_changeInstance channel found change
    rw [waiters] at counted
    have queued : (engine.changeInstance index change).queued channel = engine.queued channel := rfl
    unfold owed
    omega
  · simp only [unwatched, watchedAt_changeInstance found watchers]
    rfl

theorem owed_watch {engine : Engine} {entry : Instance} (found : engine.instances[index]? = some entry)
    (sound : entry.Sound) :
    (engine.changeInstance index (·.watch channel)).owed channel =
      engine.owed channel + (if engine.watchedAt channel index then 0 else 1) := by
  have counted := unreported_changeInstance channel found (·.watch channel)
  have queued : (engine.changeInstance index (·.watch channel)).queued channel =
    engine.queued channel := rfl
  unfold owed
  by_cases known : channel ∈ entry.watchers
  · have watched : engine.watchedAt channel index = true := watchedAt_eq_true.mpr ⟨entry, found, known⟩
    have same : entry.watch channel = entry := if_pos known
    rw [same] at counted
    rw [if_pos watched]
    omega
  · have watched : ¬ engine.watchedAt channel index = true := by simp [watchedAt, found, known]
    have absent : channel ∉ entry.waiters := fun member => known (sound.registered channel member)
    have waits : channel ∈ (entry.watch channel).waiters := by simp [Instance.watch, known]
    rw [if_neg absent, if_pos waits] at counted
    rw [if_neg watched]
    omega

theorem owed_watch_current {engine : Engine} (steady : engine.Steady)
    (held : engine.current = some index) :
    (engine.changeInstance index (·.watch channel)).owed channel = engine.promised channel := by
  obtain ⟨entry, found⟩ := steady.found held
  rw [owed_watch found (steady.sound entry (List.mem_of_getElem? found))]
  simp only [promised, unwatched, held]

theorem watchedAt_watch {engine : Engine} {entry : Instance}
    (found : engine.instances[index]? = some entry) :
    (engine.changeInstance index (·.watch channel)).watchedAt channel index = true :=
  watchedAt_eq_true.mpr ⟨_, changeInstance_found found _, entry.mem_watchers_watch channel⟩

theorem owed_terminating {before after : Engine} (steady : before.Steady)
    (held : before.current = some index)
    (instances : after.instances =
      (before.instances.modify index (·.watch channel)).modify index Instance.markStopping)
    (channels : after.channels = before.channels) : after.owed channel = before.promised channel := by
  obtain ⟨entry, found⟩ := steady.found held
  have watching := changeInstance_found found (·.watch channel)
  have marked : ((before.changeInstance index (·.watch channel)).changeInstance index
      Instance.markStopping).owed channel = (before.changeInstance index (·.watch channel)).owed channel :=
    (account_changeInstance channel _ watching rfl rfl).1
  rw [← owed_watch_current steady held, ← marked]
  exact owed_congr instances channels

theorem queued_eq_length (engine : Engine) (channel : Nat) :
    engine.queued channel = (engine.stops channel).length := by
  unfold queued stops
  cases engine.channels[channel]? <;> rfl

theorem stops_deliver (engine : Engine) {event : StopEvent} {queue : StopChannel}
    (there : engine.channels[channel]? = some queue) (new : event.id ∉ queue.delivered) :
    (engine.deliver channel event).stops channel = engine.stops channel ++ [event] := by
  have found : (engine.deliver channel event).channels[channel]? = some (queue.notify event).2 := by
    simp [deliver, there]
  simp only [stops, found, there, Option.map_some, Option.getD_some]
  exact StopChannel.notify_new new

theorem queued_deliver (engine : Engine) {event : StopEvent} {queue : StopChannel}
    (there : engine.channels[channel]? = some queue) (new : event.id ∉ queue.delivered) :
    (engine.deliver channel event).queued channel = engine.queued channel + 1 := by
  rw [queued_eq_length, queued_eq_length, stops_deliver engine there new, List.length_append]
  rfl

theorem queued_deliver_other {engine : Engine} {event : StopEvent} {other : Nat}
    (different : other ≠ channel) : (engine.deliver other event).queued channel = engine.queued channel := by
  simp [queued, deliver, different]

theorem owed_reportSynthetic {engine : Engine} (recorded : engine.Recorded first channel)
    {kind : String} (named : kind = "restart" ∨ kind = "removal")
    (foreign : ∀ entry ∈ engine.instances, ¬ IsSynthetic engine.syntheticNumber entry.id) :
    (engine.reportSynthetic channel kind).owed channel = engine.owed channel + 1 := by
  obtain ⟨queue, there⟩ := recorded.there
  have synthetic : IsSynthetic engine.syntheticNumber (kind ++ "-" ++ toString engine.syntheticNumber) := by
    rcases named with rfl | rfl
    · exact .inl rfl
    · exact .inr rfl
  have new := recorded.new_synthetic synthetic foreign there
  have queued : (engine.reportSynthetic channel kind).queued channel = engine.queued channel + 1 :=
    queued_deliver engine.countSynthetic there new
  have unreported : (engine.reportSynthetic channel kind).unreported channel =
    engine.unreported channel := rfl
  unfold owed
  omega

theorem account_reported {engine : Engine} (steady : engine.Steady)
    (recorded : engine.Recorded first channel) (faithful : engine.Faithful first) {other : Nat}
    {entry later : Instance} {event : StopEvent} (found : engine.instances[index]? = some entry)
    (reported : entry.report other = some (event, later)) :
    ((engine.changeInstance index fun _ => later).deliver other event).owed channel =
        engine.owed channel ∧
      ((engine.changeInstance index fun _ => later).deliver other event).unwatched channel =
        engine.unwatched channel := by
  obtain ⟨id, waits, shape⟩ := Instance.report_event reported
  have sound := steady.sound entry (List.mem_of_getElem? found)
  have watchers : later.watchers = entry.watchers := by rw [shape]
  have waiters : later.waiters = entry.waiters.erase other := by rw [shape]
  have counted := unreported_changeInstance channel found fun _ => later
  have unreported : ((engine.changeInstance index fun _ => later).deliver other event).unreported channel =
    (engine.changeInstance index fun _ => later).unreported channel := rfl
  have queued : (engine.changeInstance index fun _ => later).queued channel = engine.queued channel := rfl
  rw [waiters] at counted
  constructor
  · unfold owed
    by_cases same : other = channel
    · subst same
      obtain ⟨queue, there⟩ := recorded.there
      have new : event.id ∉ queue.delivered := by
        rw [id]
        exact recorded.new_report faithful there found waits
      have more := queued_deliver (engine.changeInstance index fun _ => later) there new
      rw [if_pos waits, if_neg sound.once.not_mem_erase] at counted
      omega
    · have kept : channel ∈ entry.waiters.erase other ↔ channel ∈ entry.waiters :=
        List.mem_erase_of_ne fun equal => same equal.symm
      simp only [kept] at counted
      rw [queued_deliver_other same]
      omega
  · have watched (place : Nat) :
        ((engine.changeInstance index fun _ => later).deliver other event).watchedAt channel place =
          engine.watchedAt channel place :=
      watchedAt_changeInstance found watchers place
    simp only [unwatched, watched]
    rfl

theorem account_adopt (engine : Engine) (channel : Nat) (work : Work) (launched : Launched) :
    (engine.adopt work launched).owed channel = engine.owed channel ∧
      (engine.adopt work launched).unwatched channel = 1 := by
  constructor
  · have unreported : (engine.adopt work launched).unreported channel = engine.unreported channel := by
      simp [Engine.unreported, adopt_instances]
    exact congrArg (engine.queued channel + ·) unreported
  · have current : (engine.adopt work launched).current = some engine.instances.length := rfl
    simp [unwatched, current, watchedAt, adopt_instances]

theorem gone_of_reported {engine : Engine} (steady : engine.Steady)
    (reported : engine.unreported channel = 0) (watched : engine.watchedAt channel index = true) :
    engine.goneAt index = true := by
  obtain ⟨entry, found, member⟩ := watchedAt_eq_true.mp watched
  have inside := List.mem_of_getElem? found
  have told : channel ∉ entry.waiters := by
    simpa using List.countP_eq_zero.mp reported entry inside
  exact goneAt_eq_true.mpr ⟨entry, found, (steady.sound entry inside).told channel member told⟩

end MockKeeper.Engine
