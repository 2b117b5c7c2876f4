import MockKeeper.Proofs.EngineRuns
import MockKeeper.Proofs.StopOrder

/-! Where the stops come from that a channel accepts. Each one is that of an instance that is
gone, or was reported by a restart or a removal that found none to stop. -/

namespace MockKeeper.Engine

def AsksStop (channel : Nat) : Operation → Prop
  | .restart other | .remove other => other = channel
  | .start | .notifyOnStop _ => False

instance (channel : Nat) (operation : Operation) : Decidable (AsksStop channel operation) := by
  cases operation <;> unfold AsksStop <;> infer_instance

/-- The id of a stop that a call reports itself. -/
def ownStopId (engine : Engine) : Operation → String
  | .restart _ => "restart" ++ "-" ++ toString engine.syntheticNumber
  | _ => "removal" ++ "-" ++ toString engine.syntheticNumber

def nameAt (engine : Engine) (index : Nat) : String := ((engine.instances[index]?).map Instance.id).getD ""

def ownStops (engine : Engine) (channel : Nat) (operation : Operation) : List StopEvent :=
  if AsksStop channel operation ∧ engine.target operation = none then
    [⟨engine.ownStopId operation, none⟩]
  else []

namespace Turn

/-- The stops that a channel accepts: what comes behind those that were queued there. -/
def accepted (turn : Turn) (channel : Nat) : List StopEvent :=
  match turn.input with
  | .event _ => (turn.after.stops channel).drop (turn.before.stops channel).length
  | _ => []

def restartsNone (channel : Nat) (turn : Turn) : Bool :=
  decide (turn.served = some (.restart channel) ∧ turn.before.current = none)

def removesNone (channel : Nat) (turn : Turn) : Bool :=
  decide (turn.served = some (.remove channel) ∧ turn.before.runningCurrent = none)

def ownStops (channel : Nat) (turn : Turn) : List StopEvent :=
  match turn.served with
  | some operation => turn.before.ownStops channel operation
  | none => []

end Turn

variable {first channel : Nat}

def toldCount (engine : Engine) (channel : Nat) : Nat := engine.instances.countP (·.told channel)

private theorem countP_of_any {α : Type} (holds : α → Bool) {items others : List α}
    (same : ∀ index : Nat, (others[index]?).any holds = (items[index]?).any holds) :
    others.countP holds = items.countP holds := by
  induction items generalizing others with
  | nil =>
    apply List.countP_eq_zero.mpr
    intro item member
    obtain ⟨index, found⟩ := List.mem_iff_getElem?.mp member
    simpa [found] using same index
  | cons item rest ih =>
    cases others with
    | nil =>
      apply Eq.symm
      apply List.countP_eq_zero.mpr
      intro item member
      obtain ⟨index, found⟩ := List.mem_iff_getElem?.mp member
      simpa [found] using (same index).symm
    | cons other others =>
      have front : holds other = holds item := by simpa using same 0
      have behind : others.countP holds = rest.countP holds :=
        ih fun index => by simpa using same (index + 1)
      rw [List.countP_cons, List.countP_cons, front, behind]

theorem toldCount_congr {before after : Engine}
    (same : ∀ index, after.toldAt channel index = before.toldAt channel index) :
    after.toldCount channel = before.toldCount channel :=
  countP_of_any _ same

theorem stops_deliver_other {engine : Engine} {event : StopEvent} {other : Nat}
    (different : other ≠ channel) : (engine.deliver other event).stops channel = engine.stops channel := by
  simp [stops, deliver, different]

theorem stops_beginLaunch (engine : Engine) (ticket : Ticket) (operation : Operation) :
    (engine.beginLaunch ticket operation).stops channel = engine.stops channel := by
  simp only [stops, beginLaunch_channels]

theorem stops_reportSynthetic {engine : Engine} (recorded : engine.Recorded first channel) (other : Nat)
    {kind : String} (named : kind = "restart" ∨ kind = "removal")
    (foreign : ∀ entry ∈ engine.instances, ¬ IsSynthetic engine.syntheticNumber entry.id) :
    (engine.reportSynthetic other kind).stops channel = engine.stops channel ++
      if other = channel then [⟨kind ++ "-" ++ toString engine.syntheticNumber, none⟩] else [] := by
  by_cases same : other = channel
  · subst same
    obtain ⟨queue, there⟩ := recorded.there
    have synthetic : IsSynthetic engine.syntheticNumber (kind ++ "-" ++ toString engine.syntheticNumber) := by
      rcases named with rfl | rfl
      · exact .inl rfl
      · exact .inr rfl
    have new := recorded.new_synthetic synthetic foreign there
    rw [if_pos rfl]
    exact stops_deliver engine.countSynthetic there new
  · rw [if_neg same, List.append_nil]
    exact stops_deliver_other same

theorem Takes.stops {engine after : Engine} {ticket : Ticket} {operation : Operation}
    (takes : engine.Takes ticket operation after) (recorded : engine.Recorded first channel)
    (later : after.Faithful first) :
    after.stops channel = engine.stops channel ++ engine.ownStops channel operation := by
  -- The number of its stop is used up, so no instance has the id made of it.
  have least := engine.nextSynthetic_le
  have foreign (numbered : after.nextSynthetic = engine.syntheticNumber + 1) :
      ∀ entry ∈ engine.instances, ¬ IsSynthetic engine.syntheticNumber entry.id := by
    intro entry member
    obtain ⟨index, found⟩ := List.mem_iff_getElem?.mp member
    obtain ⟨grown, foundLater, grows⟩ := takes.instances.1 index entry found
    rw [← grows.id]
    have counted := recorded.counted
    exact later.foreign grown (List.mem_of_getElem? foundLater) _ (by omega) (by omega)
  cases takes with
  | startRefused | watchCurrent | watchNone =>
    simp only [ownStops, AsksStop, false_and, if_false, List.append_nil]
    rfl
  | startLaunch =>
    simp only [stops_beginLaunch, ownStops, AsksStop, false_and, if_false, List.append_nil]
  | restartOld held =>
    simp only [ownStops, target, held, reduceCtorEq, and_false, if_false, List.append_nil]
    rfl
  | removeRunning running =>
    simp only [ownStops, target, running, reduceCtorEq, and_false, if_false, List.append_nil]
    rfl
  | @restartRefused other bare =>
    simp only [ownStops, AsksStop, target, bare, and_true, ownStopId]
    exact stops_reportSynthetic recorded other (.inl rfl) (foreign rfl)
  | @restartBare other bare =>
    have numbered := beginLaunch_nextSynthetic (engine.reportSynthetic other "restart") ticket (.restart other)
    simp only [stops_beginLaunch, ownStops, AsksStop, target, bare, and_true, ownStopId]
    exact stops_reportSynthetic recorded other (.inl rfl) (foreign numbered)
  | @removeBare other idle =>
    simp only [ownStops, AsksStop, target, idle, and_true, ownStopId]
    have out : Recorded first { engine with removed := true, current := none } channel :=
      recorded.moved (.refl _) (Nat.le_refl _) rfl
    exact stops_reportSynthetic out other (.inr rfl) (foreign rfl)

inductive Turn.Tells (channel : Nat) (turn : Turn) : Prop
  | own (accepted : turn.accepted channel = turn.ownStops channel)
      (told : ∀ index, turn.after.toldAt channel index = turn.before.toldAt channel index)
  | report {index : Nat} {entry later : Instance} {event : StopEvent}
      (found : turn.before.instances[index]? = some entry)
      (changed : turn.after.instances = turn.before.instances.modify index fun _ => later)
      (accepted : turn.accepted channel = [event]) (own : turn.ownStops channel = [])
      (named : event.id = later.id) (untold : entry.told channel = false)
      (told : later.told channel = true)

theorem Turn.accepted_of_append {turn : Turn} {event : EngineEvent} {stops : List StopEvent}
    (input : turn.input = .event event)
    (queued : turn.after.stops channel = turn.before.stops channel ++ stops) :
    turn.accepted channel = stops := by
  simp only [accepted, input, queued, List.drop_left]

theorem act_tells {before after : Engine} {input : EngineInput} (acted : before.act input = some after)
    (steady : before.Steady) (recorded : before.Recorded first channel)
    (faithful : before.Faithful first) (later : after.Faithful first) :
    Turn.Tells channel ⟨before, input, after⟩ := by
  cases act_acts acted with
  | called | took | received => exact .own rfl fun _ => rfl
  | @moved event _ moved =>
    have silent (stops : after.stops channel = before.stops channel)
        (idle : Turn.ownStops channel ⟨before, .event event, after⟩ = [])
        (told : ∀ index, after.toldAt channel index = before.toldAt channel index) :
        Turn.Tells channel ⟨before, .event event, after⟩ := by
      refine .own ?_ told
      rw [idle]
      exact Turn.accepted_of_append rfl (by rw [stops, List.append_nil])
    have quiet (numbered : after.nextSynthetic = before.nextSynthetic)
        (other : ∀ index, event ≠ .report index channel)
        (idle : Turn.ownStops channel ⟨before, .event event, after⟩ = []) :
        Turn.Tells channel ⟨before, .event event, after⟩ :=
      silent (moved.stops numbered other) idle (moved.toldAt steady other)
    cases moved with
    | @begin position ticket operation _ free waits takes =>
      have served : Turn.ownStops channel ⟨before, .event (.begin position), after⟩ =
          (before.without position).ownStops channel operation := by
        simp only [Turn.ownStops, Turn.served, waits, Option.map_some]
        rfl
      refine .own ?_ takes.toldAt
      rw [served]
      exact Turn.accepted_of_append rfl
        (takes.stops (recorded.moved (.refl _) (Nat.le_refl _) rfl) later)
    | @reported index teller entry grown event found reported =>
      have sound := steady.sound entry (List.mem_of_getElem? found)
      by_cases same : teller = channel
      · subst same
        obtain ⟨named, waits, -⟩ := Instance.report_event reported
        obtain ⟨queue, there⟩ := recorded.there
        have new : event.id ∉ queue.delivered := by
          rw [named]
          exact recorded.new_report faithful there found waits
        have kept := (Instance.report_grows reported).id
        refine .report found rfl (Turn.accepted_of_append rfl (stops_deliver _ there new)) rfl
          (named.trans kept.symm) ?_ ?_
        · simp [Instance.told, waits]
        · simp [Instance.told_report reported sound]
      · refine silent ?_ rfl ?_
        · exact stops_deliver_other same
        · intro other
          rw [toldAt_reported found reported sound]
          simp [Ne.symm same]
    | @relaunched work =>
      exact quiet (beginLaunch_nextSynthetic before work.ticket work.operation) (by simp) rfl
    | @prepared work =>
      exact quiet (beginLaunch_nextSynthetic { before with prepared := true } work.ticket work.operation)
        (by simp) rfl
    | released | unprepared | launched | unlaunched | ended | killed | examined | elsewhere =>
      exact quiet rfl (by simp) rfl

namespace Turn.Tells

theorem count {turn : Turn} (tells : turn.Tells channel) :
    (turn.accepted channel).length + turn.before.toldCount channel =
      turn.after.toldCount channel + (turn.ownStops channel).length := by
  cases tells with
  | own accepted told => rw [accepted, toldCount_congr told, Nat.add_comm]
  | @report index entry later event found changed accepted own named untold told =>
    have counted := countP_modify (fun entry => entry.told channel) (fun _ => later) found
    simp only [untold, told, Bool.false_eq_true, if_false, if_true] at counted
    rw [accepted, own, toldCount, toldCount, changed]
    simp only [List.length_singleton, List.length_nil]
    omega

theorem own_accepted {turn : Turn} (tells : turn.Tells channel) {event : StopEvent}
    (own : event ∈ turn.ownStops channel) : event ∈ turn.accepted channel := by
  cases tells with
  | own accepted => rwa [accepted]
  | report _ _ _ none =>
    rw [none] at own
    cases own

theorem told {turn : Turn} (tells : turn.Tells channel) {index : Nat}
    (told : turn.after.toldAt channel index = true) :
    turn.before.toldAt channel index = true ∨
      ∃ event ∈ turn.accepted channel, event.id = turn.after.nameAt index := by
  cases tells with
  | own _ same =>
    rw [same] at told
    exact .inl told
  | @report place entry later event found changed accepted own named _ toldLater =>
    have later : turn.after.instances[index]? =
        if place = index then some later else turn.before.instances[index]? := by
      rw [changed, List.getElem?_modify]
      split
      next here => rw [← here, found]; rfl
      next => cases turn.before.instances[index]? <;> rfl
    split at later
    next here =>
      refine .inr ⟨event, by simp [accepted], ?_⟩
      rw [nameAt, later, named]
      rfl
    next => exact .inl (by rwa [toldAt, later] at told)

end Turn.Tells

theorem act_recorded {before after : Engine} {input : EngineInput} (acted : before.act input = some after)
    (steady : before.Steady) (recorded : before.Recorded first channel) : after.Recorded first channel := by
  cases input with
  | receive other =>
    cases acted
    exact recorded.receive other
  | call | take =>
    cases act_acts acted
    exact recorded.moved (.refl _) (Nat.le_refl _) rfl
  | event =>
    cases act_acts acted with
    | moved moved => exact moved.recorded steady recorded

theorem run_recorded {initial final : Engine} {inputs : List EngineInput}
    (ran : initial.run inputs = some final) (steady : initial.Steady)
    (recorded : initial.Recorded first channel) : final.Recorded first channel := by
  induction inputs generalizing initial with
  | nil =>
    cases ran
    exact recorded
  | cons input rest ih =>
    obtain ⟨next, acted, onwards⟩ := runAll_cons_eq_some.mp ran
    exact ih onwards ((act_acts acted).steady steady) (act_recorded acted steady recorded)

theorem Acts.numbers {engine after : Engine} {input : EngineInput} (acts : engine.Acts input after) :
    engine.nextSynthetic ≤ after.nextSynthetic := by
  cases acts with
  | called | took | received => exact Nat.le_refl _
  | moved moved => exact moved.numbers

theorem run_numbers {initial final : Engine} {inputs : List EngineInput}
    (ran : initial.run inputs = some final) : initial.nextSynthetic ≤ final.nextSynthetic := by
  refine run_induction (fun engine => initial.nextSynthetic ≤ engine.nextSynthetic) ?_ ran (Nat.le_refl _)
  exact fun numbers acts => Nat.le_trans numbers acts.numbers

theorem Acts.counts {engine after : Engine} {input : EngineInput} (acts : engine.Acts input after) :
    engine.syntheticNumber ≤ after.syntheticNumber := by
  cases acts with
  | called | took | received => exact Nat.le_refl _
  | moved moved => exact moved.counts

theorem run_counts {initial final : Engine} {inputs : List EngineInput}
    (ran : initial.run inputs = some final) : initial.syntheticNumber ≤ final.syntheticNumber := by
  refine run_induction (fun engine => initial.syntheticNumber ≤ engine.syntheticNumber) ?_ ran (Nat.le_refl _)
  exact fun counts acts => Nat.le_trans counts acts.counts

theorem nameAt_of_told {before after : Engine} (evolves : Evolves before.instances after.instances)
    {index : Nat} (told : before.toldAt channel index = true) : after.nameAt index = before.nameAt index := by
  simp only [toldAt, Option.any_eq_true] at told
  obtain ⟨entry, found, -⟩ := told
  obtain ⟨later, foundLater, grows⟩ := evolves index entry found
  simp only [nameAt, found, foundLater, Option.map_some, Option.getD_some, grows.id]

/-- A run that a channel follows from its beginning. -/
structure Follows (first channel : Nat) (initial : Engine) (inputs : List EngineInput) (final : Engine) :
    Prop where
  ran : initial.run inputs = some final
  steady : initial.Steady
  recorded : initial.Recorded first channel
  faithful : final.Faithful first

namespace Follows
variable {initial final : Engine} {input : EngineInput} {rest inputs : List EngineInput}

theorem cons (follows : Follows first channel initial (input :: rest) final) :
    ∃ next, initial.act input = some next ∧ Turn.Tells channel ⟨initial, input, next⟩ ∧
      Follows first channel next rest final := by
  obtain ⟨next, acted, ran⟩ := Option.bind_eq_some_iff.mp follows.ran
  have faithful := follows.faithful.earlier (run_evolves follows.ran) (run_numbers follows.ran)
  have later := follows.faithful.earlier (run_evolves ran) (run_numbers ran)
  exact ⟨next, acted, act_tells acted follows.steady follows.recorded faithful later, ran,
    (act_acts acted).steady follows.steady, act_recorded acted follows.steady follows.recorded,
    follows.faithful⟩

theorem around (follows : Follows first channel initial inputs final) {turn : Turn}
    (member : turn ∈ initial.trace inputs) :
    ∃ last, turn.before.Steady ∧ turn.before.act turn.input = some turn.after ∧ turn.Tells channel ∧
      Follows first channel turn.after last final := by
  induction inputs generalizing initial with
  | nil => cases member
  | cons input rest ih =>
    obtain ⟨next, acted, tells, onwards⟩ := follows.cons
    rw [trace_cons acted] at member
    rcases List.mem_cons.mp member with rfl | later
    · exact ⟨rest, follows.steady, acted, tells, onwards⟩
    · exact ih onwards later

theorem final_steady (follows : Follows first channel initial inputs final) : final.Steady :=
  run_steady follows.ran follows.steady

/-- What a channel accepts over a run is told of instances, or reported by the calls themselves. -/
theorem count (follows : Follows first channel initial inputs final) :
    ((initial.trace inputs).flatMap (·.accepted channel)).length + initial.toldCount channel =
      final.toldCount channel + ((initial.trace inputs).flatMap (·.ownStops channel)).length := by
  induction inputs generalizing initial with
  | nil =>
    cases follows.ran
    exact Nat.add_comm _ _
  | cons input rest ih =>
    obtain ⟨next, acted, tells, onwards⟩ := follows.cons
    have now := tells.count
    have later := ih onwards
    dsimp only at now
    rw [trace_cons acted, List.flatMap_cons, List.flatMap_cons, List.length_append, List.length_append]
    omega

theorem told (follows : Follows first channel initial inputs final) {index : Nat}
    (told : final.toldAt channel index = true) :
    initial.toldAt channel index = true ∨
      ∃ event ∈ (initial.trace inputs).flatMap (·.accepted channel), event.id = final.nameAt index := by
  induction inputs generalizing initial with
  | nil =>
    cases follows.ran
    exact .inl told
  | cons input rest ih =>
    obtain ⟨next, acted, tells, onwards⟩ := follows.cons
    rw [trace_cons acted, List.flatMap_cons]
    rcases ih onwards with next | ⟨event, member, named⟩
    · rcases tells.told next with before | ⟨event, member, named⟩
      · exact .inl before
      · refine .inr ⟨event, List.mem_append_left _ member, ?_⟩
        rw [named]
        exact (nameAt_of_told (run_evolves onwards.ran) next).symm
    · exact .inr ⟨event, List.mem_append_right _ member, named⟩

end Follows

end MockKeeper.Engine
