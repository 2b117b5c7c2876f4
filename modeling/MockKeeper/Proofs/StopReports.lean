import MockKeeper.Proofs.EngineRoster
import MockKeeper.Proofs.StopDelivery

/-! Which stops a channel was told of. Ids are remembered so that a repeat is dropped, and
no id is remembered that was not reported, so the first report of an instance always gets
through. -/

namespace MockKeeper

namespace StopChannel

theorem notify_delivered {channel : StopChannel} {event : StopEvent} {id : String}
    (member : id ∈ (channel.notify event).2.delivered) : id = event.id ∨ id ∈ channel.delivered := by
  by_cases known : event.id ∈ channel.delivered
  · simp only [notify, remember_known known] at member
    exact .inr member
  · obtain ⟨next, remembered, -, ⟨-, -, added⟩ | ⟨oldest, -, -, added⟩⟩ := remember_new known
    all_goals simp only [notify, remembered, added] at member
    · exact List.mem_cons.mp member
    · exact List.mem_cons.mp (List.mem_of_mem_erase member)

theorem notify_new {channel : StopChannel} {event : StopEvent} (new : event.id ∉ channel.delivered) :
    (channel.notify event).2.queue = channel.queue ++ [event] := by
  obtain ⟨next, remembered, queue, -⟩ := remember_new new
  simp only [notify, remembered, queue]

end StopChannel

namespace Engine

/-- An id that a stop without an instance was or will be reported under. -/
def IsSynthetic (number : Nat) (id : String) : Prop :=
  id = "restart" ++ "-" ++ toString number ∨ id = "removal" ++ "-" ++ toString number

instance (number : Nat) (id : String) : Decidable (IsSynthetic number id) :=
  inferInstanceAs (Decidable (_ ∨ _))

private theorem toString_inj {m n : Nat} (same : toString m = toString n) : m = n := by
  have digits : Nat.toDigits 10 m = Nat.toDigits 10 n := by
    rw [← Nat.toList_repr, ← Nat.toList_repr]
    exact congrArg String.toList same
  calc
    m = Nat.ofDigitChars 10 (Nat.toDigits 10 m) 0 :=
      (Nat.ofDigitChars_toDigits (by decide) (by decide)).symm
    _ = Nat.ofDigitChars 10 (Nat.toDigits 10 n) 0 := by rw [digits]
    _ = n := Nat.ofDigitChars_toDigits (by decide) (by decide)

theorem IsSynthetic.number_inj {m n : Nat} {id : String} (first : IsSynthetic m id)
    (last : IsSynthetic n id) : m = n := by
  rcases first with rfl | rfl <;> rcases last with same | same
  · exact toString_inj ((String.append_right_inj _).mp same)
  · have letters := congrArg String.toList same
    simp [String.toList_append] at letters
  · have letters := congrArg String.toList same
    simp [String.toList_append] at letters
  · exact toString_inj ((String.append_right_inj _).mp same)

/-- What the owner of an engine relies on: no two instances share an id, and no supervisor dies. -/
structure Reliable (engine : Engine) : Prop where
  distinct : (engine.instances.map Instance.id).Nodup
  kept : ∀ entry ∈ engine.instances, ¬ entry.Abandoned

/-- Nor has an instance the id of a stop that was reported without one, under a number from
the first one on. -/
structure Faithful (first : Nat) (engine : Engine) : Prop extends Reliable engine where
  foreign : ∀ entry ∈ engine.instances, ∀ number, first ≤ number → number < engine.nextSynthetic →
    ¬ IsSynthetic number entry.id

theorem faithful_iff {first : Nat} {engine : Engine} : engine.Faithful first ↔
    (engine.instances.map Instance.id).Nodup ∧ (∀ entry ∈ engine.instances, ¬ entry.Abandoned) ∧
      ∀ entry ∈ engine.instances, ∀ number < engine.nextSynthetic, first ≤ number →
        ¬ IsSynthetic number entry.id :=
  ⟨fun faithful => ⟨faithful.distinct, faithful.kept, fun entry member number upper lower =>
      faithful.foreign entry member number lower upper⟩,
    fun ⟨distinct, kept, foreign⟩ => ⟨⟨distinct, kept⟩, fun entry member number lower upper =>
      foreign entry member number upper lower⟩⟩

instance (first : Nat) (engine : Engine) : Decidable (engine.Faithful first) :=
  decidable_of_iff' _ faithful_iff

def Reported (first : Nat) (engine : Engine) (channel : Nat) (id : String) : Prop :=
  (∃ entry ∈ engine.instances, entry.id = id ∧ channel ∈ entry.watchers ∧ channel ∉ entry.waiters) ∨
    ∃ number, first ≤ number ∧ number < engine.nextSynthetic ∧ IsSynthetic number id

/-- A channel remembers no id that was not reported to it. -/
structure Recorded (first : Nat) (engine : Engine) (channel : Nat) : Prop where
  counted : first ≤ engine.nextSynthetic
  there : ∃ queue, engine.channels[channel]? = some queue
  known : ∀ queue, engine.channels[channel]? = some queue →
    ∀ id ∈ queue.delivered, engine.Reported first channel id

variable {first channel : Nat}

theorem recorded_new {engine : Engine} (new : engine.channels[channel]? = some {}) :
    engine.Recorded engine.nextSynthetic channel := by
  refine ⟨Nat.le_refl _, ⟨{}, new⟩, ?_⟩
  intro queue there id member
  rw [new] at there
  cases there
  cases member

theorem Reliable.same_place {engine : Engine} (reliable : engine.Reliable) {index other : Nat}
    {entry twin : Instance} (found : engine.instances[index]? = some entry)
    (foundTwin : engine.instances[other]? = some twin) (same : entry.id = twin.id) : index = other := by
  have inside := (List.getElem?_eq_some_iff.mp found).1
  refine (List.getElem?_inj (by simpa using inside) reliable.distinct).mp ?_
  simp only [List.getElem?_map, found, foundTwin, Option.map_some, same]

theorem Reliable.faithful {engine : Engine} (reliable : engine.Reliable)
    (numbered : engine.nextSynthetic = first) : engine.Faithful first := by
  refine ⟨reliable, ?_⟩
  intro entry member number lower upper
  omega

theorem Faithful.earlier {before after : Engine} (faithful : after.Faithful first)
    (evolves : Evolves before.instances after.instances)
    (synthetic : before.nextSynthetic ≤ after.nextSynthetic) : before.Faithful first := by
  refine ⟨⟨?_, ?_⟩, ?_⟩
  · apply List.pairwise_iff_getElem.mpr
    intro index other inside insideTwin less same
    simp only [List.length_map] at inside insideTwin
    simp only [List.getElem_map] at same
    obtain ⟨later, foundLater, grows⟩ := evolves index _ (List.getElem?_eq_getElem inside)
    obtain ⟨twin, foundTwin, growsTwin⟩ := evolves other _ (List.getElem?_eq_getElem insideTwin)
    have equal := faithful.same_place foundLater foundTwin
      (grows.id.trans (same.trans growsTwin.id.symm))
    omega
  · intro entry member lost
    obtain ⟨index, found⟩ := List.mem_iff_getElem?.mp member
    obtain ⟨later, foundLater, grows⟩ := evolves index entry found
    exact faithful.kept later (List.mem_of_getElem? foundLater) (grows.abandoned lost)
  · intro entry member number lower upper
    obtain ⟨index, found⟩ := List.mem_iff_getElem?.mp member
    obtain ⟨later, foundLater, grows⟩ := evolves index entry found
    rw [← grows.id]
    exact faithful.foreign later (List.mem_of_getElem? foundLater) number lower (by omega)

theorem Faithful.stopped {engine : Engine} (faithful : engine.Faithful first) {index : Nat}
    (gone : engine.goneAt index = true) : engine.runningAt index = false := by
  obtain ⟨entry, found, ended⟩ := goneAt_eq_true.mp gone
  simp [runningAt, found, Instance.stopped_of_gone ended (faithful.kept entry (List.mem_of_getElem? found))]

theorem Reliable.there {engine : Engine} (reliable : engine.Reliable) {entry : Instance}
    (member : entry ∈ engine.instances) (runs : entry.isRunning = true) : entry.gone? = none := by
  apply Option.not_isSome_iff_eq_none.mp
  intro gone
  rw [Instance.stopped_of_gone gone (reliable.kept entry member)] at runs
  cases runs

theorem AllGone.idle {engine : Engine} (gone : engine.AllGone) (reliable : engine.Reliable) :
    engine.runningCurrent = none := by
  cases running : engine.runningCurrent with
  | none => rfl
  | some index =>
    obtain ⟨entry, found, runs⟩ := runningAt_eq_true.mp (runningCurrent_eq_some.mp running).2
    have member := List.mem_of_getElem? found
    have ended := gone entry member
    rw [reliable.there member runs] at ended
    cases ended

theorem Reported.grow {before after : Engine} {id : String} (reported : before.Reported first channel id)
    (evolves : Evolves before.instances after.instances)
    (synthetic : before.nextSynthetic ≤ after.nextSynthetic) : after.Reported first channel id := by
  rcases reported with ⟨entry, member, same, watched, told⟩ | ⟨number, lower, upper, same⟩
  · obtain ⟨index, found⟩ := List.mem_iff_getElem?.mp member
    obtain ⟨later, foundLater, grows⟩ := evolves index entry found
    exact .inl ⟨later, List.mem_of_getElem? foundLater, grows.id.trans same,
      grows.watchers channel watched, grows.told channel watched told⟩
  · exact .inr ⟨number, lower, by omega, same⟩

theorem Recorded.new_report {engine : Engine} (recorded : engine.Recorded first channel)
    (faithful : engine.Faithful first) {queue : StopChannel} (there : engine.channels[channel]? = some queue)
    {index : Nat} {entry : Instance} (found : engine.instances[index]? = some entry)
    (waits : channel ∈ entry.waiters) : entry.id ∉ queue.delivered := by
  intro member
  rcases recorded.known queue there entry.id member with
    ⟨twin, memberTwin, same, -, told⟩ | ⟨number, lower, upper, same⟩
  · obtain ⟨other, foundTwin⟩ := List.mem_iff_getElem?.mp memberTwin
    have equal := faithful.same_place foundTwin found same
    subst equal
    rw [found] at foundTwin
    cases foundTwin
    exact told waits
  · exact faithful.foreign entry (List.mem_of_getElem? found) number lower upper same

theorem Recorded.new_synthetic {engine : Engine} (recorded : engine.Recorded first channel)
    {id : String} (synthetic : IsSynthetic engine.syntheticNumber id)
    (foreign : ∀ entry ∈ engine.instances, ¬ IsSynthetic engine.syntheticNumber entry.id)
    {queue : StopChannel} (there : engine.channels[channel]? = some queue) : id ∉ queue.delivered := by
  intro member
  rcases recorded.known queue there id member with
    ⟨entry, memberEntry, same, -, -⟩ | ⟨number, lower, upper, same⟩
  · rw [← same] at synthetic
    exact foreign entry memberEntry synthetic
  · have equal := same.number_inj synthetic
    have least := engine.nextSynthetic_le
    omega

theorem Recorded.moved {before after : Engine} (recorded : before.Recorded first channel)
    (evolves : Evolves before.instances after.instances)
    (synthetic : before.nextSynthetic ≤ after.nextSynthetic)
    (channels : after.channels = before.channels) : after.Recorded first channel := by
  refine ⟨Nat.le_trans recorded.counted synthetic, ?_, ?_⟩
  · rw [channels]
    exact recorded.there
  · rw [channels]
    exact fun queue there id member => (recorded.known queue there id member).grow evolves synthetic

theorem Recorded.receive {engine : Engine} (recorded : engine.Recorded first channel) (other : Nat) :
    Recorded first { engine with
      channels := engine.channels.modify other fun queue => queue.tryReceive.2 } channel := by
  obtain ⟨queue, there⟩ := recorded.there
  have known : queue.tryReceive.2.delivered = queue.delivered := by
    obtain ⟨_, kept⟩ := queue.tryReceive_keeps
    rw [kept]
  have found : (engine.channels.modify other fun queue => queue.tryReceive.2)[channel]? =
      some (if other = channel then queue.tryReceive.2 else queue) := by
    simp only [List.getElem?_modify, there]
    split <;> rfl
  refine ⟨recorded.counted, ⟨_, found⟩, ?_⟩
  intro later thereLater id member
  cases found.symm.trans thereLater
  apply recorded.known queue there id
  split at member
  · rwa [known] at member
  · exact member

private theorem Recorded.deliver {engine : Engine} (recorded : engine.Recorded first channel) (other : Nat)
    {event : StopEvent} (made : other = channel → engine.Reported first channel event.id) :
    (engine.deliver other event).Recorded first channel := by
  obtain ⟨queue, there⟩ := recorded.there
  have found : (engine.deliver other event).channels[channel]? =
      some (if other = channel then (queue.notify event).2 else queue) := by
    simp only [Engine.deliver, List.getElem?_modify, there]
    split <;> rfl
  refine ⟨recorded.counted, ⟨_, found⟩, ?_⟩
  intro later thereLater id member
  rw [found] at thereLater
  cases thereLater
  split at member
  next same =>
    rcases StopChannel.notify_delivered member with rfl | old
    · exact made same
    · exact recorded.known queue there id old
  next => exact recorded.known queue there id member

private theorem Recorded.synthetic {engine : Engine} (recorded : engine.Recorded first channel) (other : Nat)
    {kind : String} (named : kind = "restart" ∨ kind = "removal") :
    (engine.reportSynthetic other kind).Recorded first channel := by
  have least := engine.nextSynthetic_le
  have counted : Recorded first engine.countSynthetic channel :=
    recorded.moved (.refl _) (Nat.le_succ_of_le least) rfl
  apply counted.deliver
  intro _
  refine .inr ⟨engine.syntheticNumber, Nat.le_trans recorded.counted least, Nat.lt_succ_self _, ?_⟩
  rcases named with rfl | rfl
  · exact .inl rfl
  · exact .inr rfl

theorem Recorded.beginLaunch {engine : Engine} (recorded : engine.Recorded first channel) (ticket : Ticket)
    (operation : Operation) : (engine.beginLaunch ticket operation).Recorded first channel := by
  obtain ⟨stage, call, -, equal⟩ := beginLaunch_eq engine ticket operation
  rw [equal]
  exact recorded.moved (.refl _) (Nat.le_refl _) rfl

/-- The calls that report a stop themselves do so under a fresh number. -/
theorem Takes.recorded {engine after : Engine} {ticket : Ticket} {operation : Operation}
    (takes : engine.Takes ticket operation after) (recorded : engine.Recorded first channel) :
    after.Recorded first channel := by
  have evolves := takes.instances.1
  cases takes with
  | startRefused | watchNone | watchCurrent | restartOld | removeRunning =>
    exact recorded.moved evolves (Nat.le_refl _) rfl
  | startLaunch => exact recorded.beginLaunch ticket .start
  | @restartRefused other => exact (recorded.synthetic other (.inl rfl)).moved (.refl _) (Nat.le_refl _) rfl
  | @restartBare other =>
    exact (recorded.synthetic other (.inl rfl)).beginLaunch ticket (.restart other)
  | @removeBare other =>
    have out : Recorded first { engine with removed := true, current := none } channel :=
      recorded.moved (.refl _) (Nat.le_refl _) rfl
    exact (out.synthetic other (.inr rfl)).moved (.refl _) (Nat.le_refl _) rfl

theorem Moves.numbers {engine after : Engine} {event : EngineEvent} (moved : engine.Moves event after) :
    engine.nextSynthetic ≤ after.nextSynthetic := by
  cases moved with
  | @begin position ticket operation after free waits takes =>
    cases takes with
    | startRefused | restartOld | removeRunning | watchCurrent | watchNone => exact Nat.le_refl _
    | restartRefused | removeBare => exact Nat.le_succ_of_le engine.nextSynthetic_le
    | startLaunch =>
      have kept := beginLaunch_nextSynthetic (engine.without position) ticket .start
      exact Nat.le_of_eq kept.symm
    | @restartBare channel =>
      have kept := beginLaunch_nextSynthetic
        ((engine.without position).reportSynthetic channel "restart") ticket (.restart channel)
      apply Nat.le_trans (Nat.le_succ_of_le engine.nextSynthetic_le)
      exact Nat.le_of_eq kept.symm
  | @relaunched work =>
    exact Nat.le_of_eq (beginLaunch_nextSynthetic engine work.ticket work.operation).symm
  | @prepared work =>
    have kept := beginLaunch_nextSynthetic { engine with prepared := true } work.ticket work.operation
    exact Nat.le_of_eq kept.symm
  | released | unprepared | launched | unlaunched | ended | killed | examined | reported | elsewhere =>
    exact Nat.le_refl _

/-- The counter that all engines share never goes back. -/
theorem Moves.counts {engine after : Engine} {event : EngineEvent} (moved : engine.Moves event after) :
    engine.syntheticNumber ≤ after.syntheticNumber := by
  cases moved with
  | @begin position ticket operation after free waits takes =>
    cases takes with
    | startRefused | restartOld | removeRunning | watchCurrent | watchNone => exact Nat.le_refl _
    | restartRefused | removeBare => exact Nat.le_succ _
    | startLaunch => exact Nat.le_of_eq (beginLaunch_syntheticNumber (engine.without position) ticket .start).symm
    | @restartBare channel =>
      rw [beginLaunch_syntheticNumber]
      exact Nat.le_succ _
  | @relaunched work =>
    exact Nat.le_of_eq (beginLaunch_syntheticNumber engine work.ticket work.operation).symm
  | @prepared work =>
    rw [beginLaunch_syntheticNumber]
    exact Nat.le_refl _
  | elsewhere => exact Nat.le_succ _
  | released | unprepared | launched | unlaunched | ended | killed | examined | reported => exact Nat.le_refl _

theorem Moves.recorded {engine after : Engine} {event : EngineEvent} (moved : engine.Moves event after)
    (steady : engine.Steady) (recorded : engine.Recorded first channel) : after.Recorded first channel := by
  have evolves := moved.evolves
  cases moved with
  | begin free waits takes =>
    exact takes.recorded (recorded.moved (.refl _) (Nat.le_refl _) rfl)
  | relaunched | prepared =>
    apply Recorded.beginLaunch
    exact recorded.moved (.refl _) (Nat.le_refl _) rfl
  | released | unprepared | launched | unlaunched | ended | killed | examined | elsewhere =>
    exact recorded.moved evolves (Nat.le_refl _) rfl
  | @reported index other entry later event found reported =>
    have moved : Recorded first (engine.changeInstance index fun _ => later) channel :=
      recorded.moved evolves (Nat.le_refl _) rfl
    apply moved.deliver
    rintro rfl
    obtain ⟨id, waits, rfl⟩ := Instance.report_event reported
    have sound := steady.sound entry (List.mem_of_getElem? found)
    exact .inl ⟨_, List.mem_of_getElem? (changeInstance_found found _), id.symm,
      sound.registered other waits, sound.once.not_mem_erase⟩

end Engine

end MockKeeper
