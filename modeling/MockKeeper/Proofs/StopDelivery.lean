import MockKeeper.Proofs.Traces
import MockKeeper.Stop.Hub

/-! What becomes of the events of a stop channel. Whoever asks for them, and through whichever
handle, they leave the queue one at a time and from its front. So those handed out since the
last reset, followed by those still queued, are the accepted ones in the order of arrival. -/

namespace MockKeeper

namespace StopChannel

variable {channel : StopChannel} {id : String}

theorem remember_known (known : id ∈ channel.delivered) : channel.remember id = none := if_pos known

/-- A new id comes last, and where that is one too many the oldest one goes. -/
theorem remember_new (new : id ∉ channel.delivered) :
    ∃ next, channel.remember id = some next ∧ next.queue = channel.queue ∧
      ((channel.deliveredOrder ++ [id]).length ≤ historyLimit ∧
          next.deliveredOrder = channel.deliveredOrder ++ [id] ∧ next.delivered = id :: channel.delivered ∨
        ∃ oldest, historyLimit ≤ next.deliveredOrder.length ∧
          channel.deliveredOrder ++ [id] = oldest :: next.deliveredOrder ∧
          next.delivered = (id :: channel.delivered).erase oldest) := by
  simp only [remember, if_neg new]
  split
  next exceeds =>
    cases order : channel.deliveredOrder ++ [id] with
    | nil => exact absurd order (List.append_ne_nil_of_right_ne_nil _ (List.cons_ne_nil _ _))
    | cons oldest rest =>
      rw [order, List.length_cons] at exceeds
      exact ⟨_, rfl, rfl, .inr ⟨oldest, Nat.le_of_lt_succ exceeds, rfl, rfl⟩⟩
  next fits => exact ⟨_, rfl, rfl, .inl ⟨Nat.le_of_not_gt fits, rfl, rfl⟩⟩

theorem notify_cases (channel : StopChannel) (event : StopEvent) :
    ((channel.notify event).1 = true ∧ (channel.notify event).2.queue = channel.queue ++ [event]) ∨
      channel.notify event = (false, channel) := by
  by_cases known : event.id ∈ channel.delivered
  · exact .inr (by simp only [notify, remember_known known])
  · obtain ⟨next, remembered, queue, -⟩ := remember_new known
    simp only [notify, remembered, queue]
    exact .inl ⟨trivial, trivial⟩

theorem tryReceive_cases (channel : StopChannel) :
    channel.queue = [] ∧ channel.tryReceive = (none, channel) ∨
      ∃ event rest, channel.queue = event :: rest ∧
        channel.tryReceive = (some event, { channel with queue := rest }) := by
  unfold tryReceive
  cases channel.queue with
  | nil => exact .inl ⟨rfl, rfl⟩
  | cons event rest => exact .inr ⟨event, rest, rfl, rfl⟩

theorem tryReceive_keeps (channel : StopChannel) : ∃ queue, channel.tryReceive.2 = { channel with queue } := by
  rcases channel.tryReceive_cases with ⟨-, taken⟩ | ⟨event, rest, -, taken⟩
  · exact ⟨channel.queue, congrArg Prod.snd taken⟩
  · exact ⟨rest, congrArg Prod.snd taken⟩

end StopChannel

abbrev AnsweredCall := StationCall × StationAnswer

/-- An event that was handed out. It went to the receiver of a name, or to nobody in
particular where the call took it without waiting. -/
structure Receipt where
  receiver : Option String
  event : StopEvent
deriving DecidableEq, Repr

structure DeliveryRecord where
  accepted : List StopEvent := []
  handed : List Receipt := []
deriving DecidableEq, Repr

namespace DeliveryRecord

def note (record : DeliveryRecord) : AnsweredCall → DeliveryRecord
  | (.notify event, .flag true) => { record with accepted := record.accepted ++ [event] }
  | (.tryReceive, .taken (some event)) =>
    { record with handed := record.handed ++ [⟨none, event⟩] }
  | (.poll name, .received event) =>
    { record with handed := record.handed ++ [⟨some name, event⟩] }
  | (.reset, _) => {}
  | _ => record

def ofHistory (history : List AnsweredCall) : DeliveryRecord := history.foldl note {}

/-- What was handed out is missing at the front of the queue, and nothing else is. -/
def Fits (record : DeliveryRecord) (queue : List StopEvent) : Prop :=
  record.handed.map Receipt.event ++ queue = record.accepted

variable {record : DeliveryRecord}

theorem Fits.accept {queue : List StopEvent} (fits : record.Fits queue) (event : StopEvent) :
    Fits { record with accepted := record.accepted ++ [event] } (queue ++ [event]) := by
  change record.handed.map Receipt.event ++ (queue ++ [event]) = record.accepted ++ [event]
  rw [← List.append_assoc, fits]

theorem Fits.hand {event : StopEvent} {rest : List StopEvent} (fits : record.Fits (event :: rest))
    (receiver : Option String) :
    Fits { record with handed := record.handed ++ [⟨receiver, event⟩] } rest := by
  change (record.handed ++ [Receipt.mk receiver event]).map Receipt.event ++ rest = record.accepted
  rw [List.map_append, List.append_assoc]
  exact fits

theorem Fits.length {queue : List StopEvent} (fits : record.Fits queue) :
    queue.length = record.accepted.length - record.handed.length := by
  rw [← fits, List.length_append, List.length_map]
  omega

end DeliveryRecord

namespace StopStation

def answered (station : StopStation) (call : StationCall) : AnsweredCall × StopStation :=
  ((call, (station.step call).1), (station.step call).2)

def run (station : StopStation) (calls : List StationCall) : List AnsweredCall × StopStation :=
  runEach answered station calls

theorem run_cons (station : StopStation) (call : StationCall) (rest : List StationCall) :
    station.run (call :: rest) = ((call, (station.step call).1) :: ((station.step call).2.run rest).1,
      ((station.step call).2.run rest).2) := rfl

theorem poll_eq (station : StopStation) (name : String) :
    station.poll name = station.look name ∨
      ((∀ event, (station.poll name).1 ≠ .received event) ∧ (station.poll name).2 = station) := by
  unfold poll
  cases station.receiver? name with
  | none => exact .inr ⟨nofun, rfl⟩
  | some state =>
    cases state with
    | created => exact .inl rfl
    | finished => exact .inr ⟨nofun, rfl⟩
    | waiting woken =>
      cases woken with
      | true => exact .inl rfl
      | false => exact .inr ⟨nofun, rfl⟩

theorem poll_cases (station : StopStation) (name : String) :
    (∃ event rest, station.channel.queue = event :: rest ∧
        (station.poll name).1 = .received event ∧ (station.poll name).2.channel.queue = rest) ∨
      ((∀ event, (station.poll name).1 ≠ .received event) ∧
        (station.poll name).2.channel = station.channel) := by
  rcases station.poll_eq name with looks | ⟨nothing, kept⟩
  · rw [looks, look]
    rcases station.channel.tryReceive_cases with ⟨-, taken⟩ | ⟨event, rest, queued, taken⟩
    · rw [taken]
      exact .inr ⟨nofun, rfl⟩
    · rw [taken]
      exact .inl ⟨event, rest, queued, rfl, rfl⟩
  · exact .inr ⟨nothing, congrArg channel kept⟩

theorem poll_channel_of_pending {station : StopStation} {name : String}
    (pending : (station.poll name).1 = .pending) :
    (station.poll name).2.channel = station.channel := by
  rcases station.poll_cases name with ⟨event, rest, -, received, -⟩ | ⟨-, kept⟩
  · rw [pending] at received
    cases received
  · exact kept

theorem step_fits (station : StopStation) {record : DeliveryRecord}
    (fits : record.Fits station.channel.queue) (call : StationCall) :
    (record.note (call, (station.step call).1)).Fits (station.step call).2.channel.queue := by
  cases call with
  | notify event =>
    simp only [step, notify]
    rcases accepted : station.channel.notify event with ⟨answer, channel⟩
    rcases station.channel.notify_cases event with ⟨flag, queue⟩ | refused
    · rw [accepted] at flag queue
      subst flag
      rw [show channel.queue = _ from queue]
      exact fits.accept event
    · rw [accepted] at refused
      cases refused
      exact fits
  | tryReceive =>
    simp only [step]
    rcases station.channel.tryReceive_cases with ⟨-, taken⟩ | ⟨event, rest, queued, taken⟩
    · rw [taken]
      exact fits
    · rw [taken]
      rw [queued] at fits
      exact fits.hand none
  | reset => exact rfl
  | create name | drop name => exact fits
  | poll name =>
    simp only [step]
    rcases station.poll_cases name with ⟨event, rest, queued, received, left⟩ | ⟨none, kept⟩
    · rw [received, left]
      rw [queued] at fits
      exact fits.hand (some name)
    · rw [kept]
      cases answer : (station.poll name).1 with
      | received event => exact absurd answer (none event)
      | flag | taken | pending | finished | unknown | unit => exact fits

theorem run_fits (station : StopStation) {record : DeliveryRecord}
    (fits : record.Fits station.channel.queue) (calls : List StationCall) :
    ((station.run calls).1.foldl DeliveryRecord.note record).Fits
      (station.run calls).2.channel.queue :=
  runEach_keeps (motive := fun (station : StopStation) (record : DeliveryRecord) => record.Fits station.channel.queue)
    (fun station _ call fits => station.step_fits fits call) fits calls

end StopStation

inductive HubCall
  | through (handle : Nat) (call : StationCall)
  | named (name : String) (call : StationCall)
deriving DecidableEq, Repr

def HubCall.request : HubCall → StationCall
  | .through _ call | .named _ call => call

namespace StopHub

def step (hub : StopHub) : HubCall → StationAnswer × StopHub
  | .through handle call => hub.call handle call
  | .named name call => hub.callNamed name call

def placeOf? (hub : StopHub) : HubCall → Option Nat
  | .through handle _ => hub.handles[handle]?
  | .named name _ => hub.stationOf? name

def answered (hub : StopHub) (call : HubCall) : (Option Nat × AnsweredCall) × StopHub :=
  ((hub.placeOf? call, call.request, (hub.step call).1), (hub.step call).2)

def run (hub : StopHub) (calls : List HubCall) : List (Option Nat × AnsweredCall) × StopHub :=
  runEach answered hub calls

theorem run_cons (hub : StopHub) (call : HubCall) (rest : List HubCall) :
    hub.run (call :: rest) = ((hub.placeOf? call, call.request, (hub.step call).1) :: ((hub.step call).2.run rest).1,
      ((hub.step call).2.run rest).2) := rfl

def historyAt (place : Nat) (history : List (Option Nat × AnsweredCall)) : List AnsweredCall :=
  (history.filter fun entry => entry.1 == some place).map Prod.snd

/-- A new receiver is made of three calls: another one of its name is dropped first. -/
theorem receive_eq_run (hub : StopHub) (name : String) (handle : Nat) :
    (hub.receive name handle).2 = (hub.run
      [.named name (.drop name), .through handle (.create name), .through handle (.poll name)]).2 := by
  have dropped : (hub.drop name).2 = (hub.callNamed name (.drop name)).2 := by
    unfold drop
    split
    next equal => rw [equal]
    next equal => rw [equal]
  simp only [receive, run_cons, step, dropped]
  rfl

theorem step_eq (hub : StopHub) (call : HubCall) :
    hub.step call = match hub.placeOf? call with
      | none => (.unknown, hub)
      | some place =>
        match hub.stations[place]? with
        | none => (.unknown, hub)
        | some station => ((station.step call.request).1,
            { hub with stations := hub.stations.set place (station.step call.request).2 }) := by
  cases call <;> rfl

theorem step_handles (hub : StopHub) (call : HubCall) : (hub.step call).2.handles = hub.handles := by
  rw [step_eq]
  split
  · rfl
  · split <;> rfl

theorem run_handles (hub : StopHub) (calls : List HubCall) : (hub.run calls).2.handles = hub.handles := by
  induction calls generalizing hub with
  | nil => rfl
  | cons call rest ih => exact (ih _).trans (hub.step_handles call)

theorem step_station (hub : StopHub) (call : HubCall) {place : Nat} {station : StopStation}
    (found : hub.stations[place]? = some station) :
    (hub.placeOf? call = some place ∧ (hub.step call).1 = (station.step call.request).1 ∧
        (hub.step call).2.stations[place]? = some (station.step call.request).2) ∨
      (hub.placeOf? call ≠ some place ∧ (hub.step call).2.stations[place]? = some station) := by
  rw [step_eq]
  cases reached : hub.placeOf? call with
  | none => exact .inr ⟨nofun, found⟩
  | some other =>
    by_cases same : other = place
    · subst same
      have inside := (List.getElem?_eq_some_iff.mp found).1
      simp only [found]
      exact .inl ⟨trivial, trivial, List.getElem?_set_self inside⟩
    · refine .inr ⟨fun equal => same (Option.some.inj equal), ?_⟩
      cases there : hub.stations[other]? with
      | none => simpa only [there] using found
      | some twin => simpa only [there, List.getElem?_set_ne same] using found

/-- What a run does to one station is a run of the calls that reached it. -/
theorem run_station (hub : StopHub) (calls : List HubCall) {place : Nat} {station : StopStation}
    (found : hub.stations[place]? = some station) :
    ∃ requests, (station.run requests).1 = historyAt place (hub.run calls).1 ∧
      (hub.run calls).2.stations[place]? = some (station.run requests).2 := by
  induction calls generalizing hub station with
  | nil => exact ⟨[], rfl, found⟩
  | cons call rest ih =>
    rcases hub.step_station call found with ⟨reached, answer, there⟩ | ⟨elsewhere, there⟩
    · obtain ⟨requests, history, final⟩ := ih _ there
      refine ⟨call.request :: requests, ?_, final⟩
      simp only [run_cons, historyAt, StopStation.run_cons, answer, reached, history, beq_self_eq_true,
        List.filter_cons_of_pos, List.map_cons]
    -- A call elsewhere is left out, and this station is as it was.
    · obtain ⟨requests, history, final⟩ := ih _ there
      refine ⟨requests, ?_, final⟩
      rw [history]
      simp only [run_cons, historyAt]
      rw [List.filter_cons_of_neg (by simpa using elsewhere)]

def Unused (hub : StopHub) : Prop :=
  ∀ handle place : Nat, hub.handles[handle]? = some place →
    hub.stations[place]? = some ({} : StopStation)

theorem Unused.handle {hub : StopHub} (unused : hub.Unused) (added : List StopStation) {place : Nat}
    (there : (hub.stations ++ added)[place]? = some {}) :
    Unused { stations := hub.stations ++ added, handles := hub.handles ++ [place] } := by
  intro handle other behind
  rcases List.mem_append.mp (List.mem_of_getElem? behind) with old | new
  · obtain ⟨earlier, found⟩ := List.mem_iff_getElem?.mp old
    have station := unused earlier other found
    exact (List.getElem?_append_left (List.getElem?_eq_some_iff.mp station).1).trans station
  · rw [List.mem_singleton.mp new]
    exact there

theorem ofHandles_unused (requests : List (Option Nat)) : (ofHandles requests).Unused := by
  refine List.foldlRecOn (motive := Unused) requests _ nofun ?_
  intro hub unused request _
  cases cloned : request.bind (hub.handles[·]?) with
  | some place =>
    obtain ⟨first, -, found⟩ := Option.bind_eq_some_iff.mp cloned
    simpa using unused.handle [] (by simpa using unused first place found)
  | none => exact unused.handle _ List.getElem?_concat_length

/-- Through any number of handles and with any number of receivers, the events of a channel
are handed out once each and in the order in which they were accepted; what is not handed
out is queued. Neither dropping a receiver nor polling one in vain changes that. -/
theorem events_handed_out_once_in_order {requests : List (Option Nat)} {calls : List HubCall}
    {history : List (Option Nat × AnsweredCall)} {final : StopHub} {handle place : Nat}
    (ran : (ofHandles requests).run calls = (history, final))
    (behind : final.handles[handle]? = some place) :
    ∃ station record, final.stations[place]? = some station ∧
      record = DeliveryRecord.ofHistory (historyAt place history) ∧
      record.handed.map Receipt.event ++ station.channel.queue = record.accepted ∧
      final.pending[handle]? = some (record.accepted.length - record.handed.length) ∧
      (∀ name, (station.step (.drop name)).2.channel = station.channel) ∧
      ∀ name, (station.step (.poll name)).1 = .pending →
        (station.step (.poll name)).2.channel = station.channel := by
  have handles := (ofHandles requests).run_handles calls
  obtain ⟨requested, part, there⟩ := (ofHandles requests).run_station calls
    (ofHandles_unused requests handle place (by rwa [← handles, ran]))
  rw [ran] at part there
  have fits : (DeliveryRecord.ofHistory (historyAt place history)).Fits
      (StopStation.run {} requested).2.channel.queue := by
    rw [← part]
    exact StopStation.run_fits {} (show DeliveryRecord.Fits {} [] from rfl) requested
  refine ⟨_, _, there, rfl, fits, ?_, fun _ => rfl, fun _ => StopStation.poll_channel_of_pending⟩
  simp only [pending, List.getElem?_map, behind, Option.map_some, there, StopChannel.pending, fits.length]

/-- One handle and its clone, a receiver that waits, a repeat, and an attempt to receive at once. -/
def sharing : List HubCall :=
  [.through 0 (.create "waiter"), .named "waiter" (.poll "waiter"), .through 1 (.notify ⟨"one", none⟩),
    .through 0 (.notify ⟨"two", none⟩), .through 1 (.notify ⟨"one", none⟩),
    .named "waiter" (.poll "waiter"), .through 1 .tryReceive, .through 0 (.notify ⟨"three", none⟩)]

theorem clones_share_one_order : ∃ (station : StopStation) (record : DeliveryRecord),
    ((ofHandles [none, some 0]).run sharing).2.stations[0]? = some station ∧
      record.handed = [⟨some "waiter", ⟨"one", none⟩⟩, ⟨none, ⟨"two", none⟩⟩] ∧
      record.handed.map Receipt.event ++ station.channel.queue = record.accepted ∧
      record.accepted.map StopEvent.id = ["one", "two", "three"] ∧
      ((ofHandles [none, some 0]).run sharing).2.pending[1]? = some 1 := by
  have ran : (ofHandles [none, some 0]).run sharing =
      (((ofHandles [none, some 0]).run sharing).1, ((ofHandles [none, some 0]).run sharing).2) := rfl
  have behind : ((ofHandles [none, some 0]).run sharing).2.handles[1]? = some 0 := by decide
  obtain ⟨station, record, there, rfl, order, pending, -⟩ := events_handed_out_once_in_order ran behind
  exact ⟨station, _, there, by decide, order, by decide, pending⟩

end StopHub

end MockKeeper
