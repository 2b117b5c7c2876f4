import MockKeeper.Proofs.StopLedger

/-! What an engine reports to its channels, turn by turn, and under which ids. A report is that of
an instance, under its id, or is made by a call under a number that is used once. -/

namespace MockKeeper.Engine

def Turn.reports (channel : Nat) (turn : Turn) : List StopEvent :=
  match turn.input with
  | .event (.report index other) =>
    if other = channel then (((turn.before.instances[index]?).bind (·.report other)).map Prod.fst).toList else []
  | _ => turn.ownStops channel

def told (queue : StopChannel) (events : List StopEvent) : StopChannel :=
  events.foldl (fun queue event => (queue.notify event).2) queue

variable {channel : Nat}

theorem deliver_channel (engine : Engine) (other : Nat) (event : StopEvent) :
    (engine.deliver other event).channels[channel]? =
      (engine.channels[channel]?).map (told · (if other = channel then [event] else [])) := by
  simp only [deliver, List.getElem?_modify]
  split <;> cases engine.channels[channel]? <;> rfl

theorem channel_same {engine after : Engine} (same : after.channels = engine.channels) :
    after.channels[channel]? = (engine.channels[channel]?).map (told · []) := by
  rw [same]
  cases engine.channels[channel]? <;> rfl

theorem Takes.tells {engine after : Engine} {ticket : Ticket} {operation : Operation}
    (takes : engine.Takes ticket operation after) :
    after.channels[channel]? = (engine.channels[channel]?).map (told · (engine.ownStops channel operation)) := by
  have own (kind : String) (other : Nat) :
      (engine.reportSynthetic other kind).channels[channel]? = (engine.channels[channel]?).map
        (told · (if other = channel then [⟨kind ++ "-" ++ toString engine.syntheticNumber, none⟩] else [])) :=
    deliver_channel engine.countSynthetic other _
  cases takes with
  | startRefused | watchCurrent | watchNone =>
    simp only [ownStops, AsksStop, false_and, if_false]
    exact channel_same rfl
  | startLaunch =>
    simp only [ownStops, AsksStop, false_and, if_false]
    exact channel_same (beginLaunch_channels engine ticket .start)
  | restartOld held =>
    simp only [ownStops, target, held, reduceCtorEq, and_false, if_false]
    exact channel_same rfl
  | removeRunning running =>
    simp only [ownStops, target, running, reduceCtorEq, and_false, if_false]
    exact channel_same rfl
  | @restartRefused other bare =>
    simp only [ownStops, AsksStop, target, bare, and_true, ownStopId]
    exact own "restart" other
  | @restartBare other bare =>
    simp only [beginLaunch_channels, ownStops, AsksStop, target, bare, and_true, ownStopId]
    exact own "restart" other
  | @removeBare other idle =>
    simp only [ownStops, AsksStop, target, idle, and_true, ownStopId]
    exact own "removal" other

theorem act_told {before after : Engine} {input : EngineInput} (acted : before.act input = some after)
    (other : ∀ receiver, input ≠ .receive receiver) :
    after.channels[channel]? =
      (before.channels[channel]?).map (told · (Turn.reports channel ⟨before, input, after⟩)) := by
  cases act_acts acted with
  | called | took => exact channel_same rfl
  | received => exact absurd rfl (other _)
  | moved moved =>
    cases moved with
    | @begin position ticket operation _ free waits takes =>
      have served : Turn.reports channel ⟨before, .event (.begin position), after⟩ =
          (before.without position).ownStops channel operation := by
        simp only [Turn.reports, Turn.ownStops, Turn.served, waits, Option.map_some]
        rfl
      rw [served]
      exact takes.tells
    | @reported index teller entry later event found reported =>
      simp only [Turn.reports, found, Option.bind_some, reported, Option.map_some, Option.toList_some]
      exact deliver_channel (before.changeInstance index fun _ => later) teller event
    | relaunched | prepared => exact channel_same (beginLaunch_channels _ _ _)
    | released | unprepared | launched | unlaunched | ended | killed | examined | elsewhere => exact channel_same rfl

/-- An instance has this id, or some engine of the process could report a stop without one under it. -/
def Used (engine : Engine) (id : String) : Prop :=
  (∃ entry ∈ engine.instances, entry.id = id) ∨ ∃ number < engine.syntheticNumber, IsSynthetic number id

theorem Used.grow {before after : Engine} {id : String} (used : before.Used id)
    (evolves : Evolves before.instances after.instances)
    (numbers : before.syntheticNumber ≤ after.syntheticNumber) : after.Used id := by
  rcases used with ⟨entry, member, same⟩ | ⟨number, below, synthetic⟩
  · obtain ⟨index, found⟩ := List.mem_iff_getElem?.mp member
    obtain ⟨later, foundLater, grows⟩ := evolves index entry found
    exact .inl ⟨later, List.mem_of_getElem? foundLater, grows.id.trans same⟩
  · exact .inr ⟨number, Nat.lt_of_lt_of_le below numbers, synthetic⟩

theorem Reported.used {engine : Engine} {first : Nat} {id : String} (reported : engine.Reported first channel id) :
    engine.Used id := by
  rcases reported with ⟨entry, member, same, -⟩ | ⟨number, -, below, synthetic⟩
  · exact .inl ⟨entry, member, same⟩
  · exact .inr ⟨number, Nat.lt_of_lt_of_le below engine.nextSynthetic_le, synthetic⟩

theorem ownStopId_synthetic (engine : Engine) (operation : Operation) :
    IsSynthetic engine.syntheticNumber (engine.ownStopId operation) := by
  cases operation with
  | restart => exact .inl rfl
  | start | remove | notifyOnStop => exact .inr rfl

theorem Takes.used {engine after : Engine} {ticket : Ticket} {operation : Operation}
    (takes : engine.Takes ticket operation after) {event : StopEvent}
    (reported : event ∈ engine.ownStops channel operation) : after.Used event.id := by
  unfold ownStops at reported
  split at reported
  next own =>
    obtain ⟨asks, bare⟩ := own
    cases List.mem_singleton.mp reported
    refine .inr ⟨engine.syntheticNumber, ?_, ownStopId_synthetic engine operation⟩
    cases takes with
    | startRefused | startLaunch | watchCurrent | watchNone => exact asks.elim
    | restartOld held => cases held.symm.trans bare
    | removeRunning running => cases running.symm.trans bare
    | restartRefused | removeBare => exact Nat.lt_succ_self _
    | @restartBare other =>
      rw [beginLaunch_syntheticNumber]
      exact Nat.lt_succ_self _
  next => cases reported

theorem act_used {before after : Engine} {input : EngineInput} (acted : before.act input = some after)
    {event : StopEvent} (reported : event ∈ Turn.reports channel ⟨before, input, after⟩) : after.Used event.id := by
  cases act_acts acted with
  | called | took | received => cases reported
  | moved moved =>
    cases moved with
    | @begin position ticket operation _ free waits takes =>
      simp only [Turn.reports, Turn.ownStops, Turn.served, waits, Option.map_some] at reported
      exact takes.used reported
    | @reported index teller entry later told found report =>
      simp only [Turn.reports, found, Option.bind_some, report, Option.map_some, Option.toList_some] at reported
      split at reported
      · cases List.mem_singleton.mp reported
        refine .inl ⟨later, List.mem_of_getElem? (changeInstance_found found _), ?_⟩
        rw [(Instance.report_grows report).id, (Instance.report_event report).1]
      · cases reported
    | relaunched | released | prepared | unprepared | launched | unlaunched | ended | killed | examined | elsewhere =>
      cases reported

variable {initial final : Engine} {inputs : List EngineInput}

theorem run_used (ran : initial.run inputs = some final) {turn : Turn} (member : turn ∈ initial.trace inputs)
    {event : StopEvent} (reported : event ∈ turn.reports channel) : final.Used event.id := by
  obtain ⟨acted, first, last, -, -, onwards⟩ := runAll_around ran member
  exact (act_used acted reported).grow (run_evolves onwards) (run_counts onwards)

/-- The id of a stop that a call reports itself is new, unless an instance has it. -/
theorem Used.instance_of_own {engine : Engine} {operation : Operation}
    (used : engine.Used (engine.ownStopId operation)) :
    ∃ entry ∈ engine.instances, entry.id = engine.ownStopId operation := by
  rcases used with named | ⟨number, below, synthetic⟩
  · exact named
  · have same := synthetic.number_inj (ownStopId_synthetic engine operation)
    omega

end MockKeeper.Engine
