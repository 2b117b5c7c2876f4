import Mathlib.Data.List.DropRight
import Mathlib.Data.List.Nodup
import MockKeeper.Proofs.StopDelivery

/-! Which stops a channel takes for repeats. It knows the ids that it accepted last, as many as the
limit allows and in the order of their acceptance. Neither a repeat nor anything that is received
changes what it knows, so an id comes through again only after as many others. -/

namespace MockKeeper

section Window

variable {α : Type}

theorem rtake_rtake_append (front back : List α) (limit : Nat) :
    (front.rtake limit ++ back).rtake limit = (front ++ back).rtake limit := by
  simp only [List.rtake, List.drop_append, List.drop_drop, List.length_append, List.length_drop]
  congr 2 <;> omega

theorem rtake_of_length_le {items : List α} {limit : Nat} (within : items.length ≤ limit) :
    items.rtake limit = items := by
  rw [List.rtake, Nat.sub_eq_zero_of_le within, List.drop_zero]

theorem rtake_of_length_eq_succ {item : α} {items : List α} {limit : Nat} (full : items.length = limit) :
    (item :: items).rtake limit = items := by
  rw [List.rtake, List.length_cons, full, Nat.add_sub_cancel_left, List.drop_one, List.tail_cons]

theorem rtake_append_of_le_length {front back : List α} {limit : Nat} (enough : limit ≤ back.length) :
    (front ++ back).rtake limit = back.rtake limit := by
  have past : front.length ≤ (front ++ back).length - limit := by
    rw [List.length_append]
    omega
  rw [List.rtake, List.drop_append, List.drop_of_length_le past, List.nil_append, List.rtake,
    List.length_append]
  congr 1
  omega

theorem length_le_of_not_mem_rtake {item : α} {front back : List α} {limit : Nat}
    (gone : item ∉ (front ++ item :: back).rtake limit) : limit ≤ back.length := by
  by_contra few
  apply gone
  have before : (front ++ item :: back).length - limit ≤ front.length := by
    rw [List.length_append, List.length_cons]
    omega
  rw [List.rtake, List.drop_append_of_le_length before]
  exact List.mem_append_right _ List.mem_cons_self

end Window

namespace StopChannel

/-- A channel knows the ids that were accepted last, oldest first, and each of them once. -/
structure Remembers (channel : StopChannel) (accepted : List String) : Prop where
  latest : channel.deliveredOrder = accepted.rtake historyLimit
  distinct : channel.deliveredOrder.Nodup
  known : channel.delivered.Perm channel.deliveredOrder

variable {channel : StopChannel} {accepted : List String} {event : StopEvent}

theorem Remembers.mem_iff (remembers : channel.Remembers accepted) (id : String) :
    id ∈ channel.delivered ↔ id ∈ accepted.rtake historyLimit := by
  rw [remembers.known.mem_iff, remembers.latest]

theorem Remembers.length (remembers : channel.Remembers accepted) :
    channel.deliveredOrder.length = min historyLimit accepted.length := by
  rw [remembers.latest, List.rtake, List.length_drop]
  omega

theorem Remembers.refuses (remembers : channel.Remembers accepted)
    (repeated : event.id ∈ accepted.rtake historyLimit) : channel.notify event = (false, channel) := by
  simp only [notify, remember_known ((remembers.mem_iff event.id).mpr repeated)]

theorem Remembers.remember (remembers : channel.Remembers accepted) {id : String}
    (new : id ∉ accepted.rtake historyLimit) :
    ∃ next, channel.remember id = some next ∧ next.Remembers (accepted ++ [id]) := by
  obtain ⟨next, remembered, -, grown⟩ := remember_new (mt (remembers.mem_iff id).mp new)
  have added : (id :: channel.delivered).Perm (channel.deliveredOrder ++ [id]) :=
    (remembers.known.cons id).trans (List.perm_append_singleton id channel.deliveredOrder).symm
  have distinct : (channel.deliveredOrder ++ [id]).Nodup := by
    rw [← List.concat_eq_append]
    exact List.Nodup.concat (by rwa [remembers.latest]) remembers.distinct
  have window : (accepted ++ [id]).rtake historyLimit =
      (channel.deliveredOrder ++ [id]).rtake historyLimit := by
    rw [remembers.latest, rtake_rtake_append]
  refine ⟨next, remembered, ?_⟩
  rcases grown with ⟨fits, order, delivered⟩ | ⟨oldest, full, order, delivered⟩
  · refine ⟨?_, order ▸ distinct, ?_⟩
    · rw [window, rtake_of_length_le fits, order]
    · rwa [delivered, order]
  · have limit : next.deliveredOrder.length = historyLimit := by
      have longer := congrArg List.length order
      have length := remembers.length
      rw [List.length_append, List.length_singleton, List.length_cons] at longer
      omega
    rw [order] at window distinct added
    refine ⟨?_, (List.nodup_cons.mp distinct).2, ?_⟩
    · rw [window, rtake_of_length_eq_succ limit]
    · simpa only [delivered, List.erase_cons_head] using added.erase oldest

theorem Remembers.accepts (remembers : channel.Remembers accepted)
    (new : event.id ∉ accepted.rtake historyLimit) :
    ∃ next, channel.notify event = (true, next) ∧ next.Remembers (accepted ++ [event.id]) := by
  obtain ⟨next, remembered, later⟩ := remembers.remember new
  exact ⟨{ next with queue := next.queue ++ [event] }, by simp only [notify, remembered],
    later.latest, later.distinct, later.known⟩

end StopChannel

/-- What a channel knows changes only with reports and with resets; the other calls receive. -/
def StationCall.reports : StationCall → Bool
  | .notify _ | .reset => true
  | _ => false

namespace DeliveryRecord

def acceptedIds (record : DeliveryRecord) : List String := record.accepted.map StopEvent.id

theorem note_receives (record : DeliveryRecord) {call : StationCall} (receives : call.reports = false)
    (answer : StationAnswer) : (record.note (call, answer)).acceptedIds = record.acceptedIds := by
  cases call with
  | notify | reset => cases receives
  | create | drop => rfl
  | tryReceive =>
    cases answer with
    | taken event => cases event <;> rfl
    | _ => rfl
  | poll => cases answer <;> rfl

theorem note_accepts (record : DeliveryRecord) (event : StopEvent) :
    (record.note (.notify event, .flag true)).acceptedIds = record.acceptedIds ++ [event.id] :=
  List.map_append

theorem note_acceptedIds (record : DeliveryRecord) {call : StationCall} (keeps : call ≠ .reset)
    (answer : StationAnswer) :
    (record.note (call, answer)).acceptedIds = record.acceptedIds ++ (note {} (call, answer)).acceptedIds := by
  cases reports : call.reports with
  | false =>
    rw [note_receives record reports, note_receives {} reports]
    exact (List.append_nil _).symm
  | true =>
    cases call with
    | tryReceive | create | poll | drop => cases reports
    | reset => exact absurd rfl keeps
    | notify event =>
      have refused : record.acceptedIds = record.acceptedIds ++ [] := (List.append_nil _).symm
      cases answer with
      | flag accepted =>
        cases accepted with
        | true => exact record.note_accepts event
        | false => exact refused
      | _ => exact refused

theorem foldl_note_acceptedIds (record : DeliveryRecord) {history : List AnsweredCall}
    (kept : ∀ entry ∈ history, entry.1 ≠ .reset) :
    (history.foldl note record).acceptedIds = record.acceptedIds ++ (ofHistory history).acceptedIds := by
  induction history generalizing record with
  | nil => exact (List.append_nil _).symm
  | cons entry rest ih =>
    have rests : ∀ entry ∈ rest, entry.1 ≠ .reset :=
      fun other member => kept other (List.mem_cons_of_mem _ member)
    rw [ofHistory, List.foldl_cons, List.foldl_cons, ih _ rests, ih (note {} entry) rests,
      record.note_acceptedIds (kept entry List.mem_cons_self), List.append_assoc]

end DeliveryRecord

namespace StopStation

variable {station other : StopStation} {record : DeliveryRecord}

theorem step_receives (station : StopStation) {call : StationCall} (receives : call.reports = false) :
    ∃ queue, (station.step call).2.channel = { station.channel with queue } := by
  have same : ∃ queue, station.channel = { station.channel with queue } := ⟨station.channel.queue, rfl⟩
  cases call with
  | notify | reset => cases receives
  | create | drop => exact same
  | tryReceive => exact station.channel.tryReceive_keeps
  | poll name =>
    simp only [step]
    rcases station.poll_eq name with looks | ⟨-, kept⟩
    · rw [looks, look]
      split
      next event channel taken =>
        obtain ⟨queue, kept⟩ := station.channel.tryReceive_keeps
        rw [taken] at kept
        exact ⟨queue, kept⟩
      next => exact same
    · rwa [kept]

theorem step_refuses (remembers : station.channel.Remembers record.acceptedIds) {event : StopEvent}
    (repeated : event.id ∈ record.acceptedIds.rtake StopChannel.historyLimit) :
    station.step (.notify event) = (.flag false, station) := by
  simp only [step, notify, remembers.refuses repeated]

theorem step_accepts (remembers : station.channel.Remembers record.acceptedIds) {event : StopEvent}
    (new : event.id ∉ record.acceptedIds.rtake StopChannel.historyLimit) :
    (station.step (.notify event)).1 = .flag true ∧
      (station.step (.notify event)).2.channel.Remembers (record.acceptedIds ++ [event.id]) := by
  obtain ⟨next, accepted, later⟩ := remembers.accepts new
  simp only [step, notify, accepted]
  exact ⟨trivial, later⟩

theorem step_notify (remembers : station.channel.Remembers record.acceptedIds) (event : StopEvent) :
    (station.step (.notify event)).1 =
      .flag (decide (event.id ∉ record.acceptedIds.rtake StopChannel.historyLimit)) := by
  by_cases repeated : event.id ∈ record.acceptedIds.rtake StopChannel.historyLimit
  · rw [step_refuses remembers repeated, decide_eq_false (not_not.mpr repeated)]
  · rw [(step_accepts remembers repeated).1, decide_eq_true repeated]

theorem step_remembers (remembers : station.channel.Remembers record.acceptedIds) (call : StationCall) :
    (station.step call).2.channel.Remembers (record.note (call, (station.step call).1)).acceptedIds := by
  cases reports : call.reports with
  | false =>
    obtain ⟨queue, same⟩ := station.step_receives reports
    rw [same, record.note_receives reports]
    exact ⟨remembers.latest, remembers.distinct, remembers.known⟩
  | true =>
    cases call with
    | tryReceive | create | poll | drop => cases reports
    | reset => exact ⟨rfl, List.nodup_nil, .nil⟩
    | notify event =>
      by_cases repeated : event.id ∈ record.acceptedIds.rtake StopChannel.historyLimit
      · rw [step_refuses remembers repeated]
        exact remembers
      · obtain ⟨accepted, later⟩ := step_accepts remembers repeated
        rwa [accepted, record.note_accepts]

theorem run_remembers (remembers : station.channel.Remembers record.acceptedIds) (calls : List StationCall) :
    (station.run calls).2.channel.Remembers
      ((station.run calls).1.foldl DeliveryRecord.note record).acceptedIds :=
  runEach_keeps (motive := fun (station : StopStation) (record : DeliveryRecord) =>
    station.channel.Remembers record.acceptedIds) (fun _ _ call remembers => step_remembers remembers call) remembers calls

/-- Two stations that accepted the same answer the reports of a run in the same way, also where one of
them never receives. -/
theorem run_reports (remembers : station.channel.Remembers record.acceptedIds)
    (alike : other.channel.Remembers record.acceptedIds) (calls : List StationCall) :
    (station.run calls).1.filter (fun entry => entry.1.reports) =
      (other.run (calls.filter StationCall.reports)).1 := by
  induction calls generalizing station other record with
  | nil => rfl
  | cons call rest ih =>
    have later := step_remembers remembers call
    cases reports : call.reports with
    | false =>
      simp only [run_cons, List.filter_cons, reports, Bool.false_eq_true, if_false]
      exact ih later (by rwa [record.note_receives reports])
    | true =>
      have answers : (station.step call).1 = (other.step call).1 := by
        cases call with
        | tryReceive | create | poll | drop => cases reports
        | reset => rfl
        | notify event => rw [step_notify remembers, step_notify alike]
      have both := step_remembers alike call
      rw [← answers] at both
      simp only [run_cons, List.filter_cons, reports, if_true, ih later both, answers]

theorem run_before {calls : List StationCall} {before after : List AnsweredCall} {entry : AnsweredCall}
    (history : (station.run calls).1 = before ++ entry :: after) :
    ∃ earlier, (station.run earlier).1 = before ∧ ((station.run earlier).2.step entry.1).1 = entry.2 := by
  induction before generalizing station calls with
  | nil =>
    cases calls with
    | nil => cases history
    | cons call rest =>
      cases history
      exact ⟨[], rfl, rfl⟩
  | cons first others ih =>
    cases calls with
    | nil => cases history
    | cons call rest =>
      simp only [run_cons, List.cons_append, List.cons.injEq] at history
      obtain ⟨rfl, history⟩ := history
      obtain ⟨earlier, same, answer⟩ := ih history
      exact ⟨call :: earlier, by simp only [run_cons, same], answer⟩

theorem run_fresh {calls : List StationCall} {history : List AnsweredCall}
    (ran : StopStation.run {} calls = (history, station)) :
    station.channel.Remembers (DeliveryRecord.ofHistory history).acceptedIds := by
  have fresh : StopChannel.Remembers (StopStation.channel {}) (DeliveryRecord.acceptedIds {}) :=
    ⟨rfl, List.nodup_nil, .nil⟩
  have last := run_remembers fresh calls
  rwa [ran] at last

/-- An id that comes through again was pushed out by as many other ids, all accepted after it. -/
theorem accepted_again {calls : List StationCall} {before between after : List AnsweredCall}
    {first second : StopEvent}
    (history : (StopStation.run {} calls).1 =
      before ++ (.notify first, .flag true) :: (between ++ (.notify second, .flag true) :: after))
    (same : second.id = first.id) (kept : ∀ entry ∈ between, entry.1 ≠ .reset) :
    ∃ others, others <:+ (DeliveryRecord.ofHistory between).acceptedIds ∧
      others.length = StopChannel.historyLimit ∧ others.Nodup ∧ first.id ∉ others := by
  rw [← List.cons_append, ← List.append_assoc] at history
  obtain ⟨earlier, past, accepted⟩ := run_before history
  have remembers := run_fresh (Prod.eta (StopStation.run {} earlier)).symm
  have ids : (DeliveryRecord.ofHistory (StopStation.run {} earlier).1).acceptedIds =
      (DeliveryRecord.ofHistory before).acceptedIds ++
        first.id :: (DeliveryRecord.ofHistory between).acceptedIds := by
    rw [past, DeliveryRecord.ofHistory, List.foldl_append, List.foldl_cons,
      DeliveryRecord.foldl_note_acceptedIds _ kept, DeliveryRecord.note_accepts, List.append_assoc]
    rfl
  have gone := step_notify remembers second
  rw [accepted, ids, same, StationAnswer.flag.injEq, eq_comm, decide_eq_true_iff] at gone
  -- As the id is out of the window, all of the window was accepted after it.
  have enough := length_le_of_not_mem_rtake gone
  have distinct := remembers.distinct
  rw [List.append_cons, rtake_append_of_le_length enough] at gone
  rw [remembers.latest, ids, List.append_cons, rtake_append_of_le_length enough] at distinct
  refine ⟨_, List.drop_suffix _ _, ?_, distinct, gone⟩
  rw [List.length_drop]
  omega

/-- Since it was reset, a channel knows the ids that it accepted last, as many as the limit allows, and
takes the stops of just these for repeats. A repeat changes nothing, so it does not keep its id from
being forgotten, and who receives, or when, makes no difference to what is accepted. Before an id is
accepted again, as many others were. -/
theorem repeats_recognised_in_window {calls : List StationCall} {history : List AnsweredCall}
    {station : StopStation} {ids : List String} (ran : StopStation.run {} calls = (history, station))
    (accepted : (DeliveryRecord.ofHistory history).acceptedIds = ids) :
    station.channel.deliveredOrder = ids.rtake StopChannel.historyLimit ∧
      station.channel.deliveredOrder.length = min StopChannel.historyLimit ids.length ∧
      station.channel.deliveredOrder.Nodup ∧ station.channel.delivered.Perm station.channel.deliveredOrder ∧
      (∀ event, (station.step (.notify event)).1 =
        .flag (decide (event.id ∉ ids.rtake StopChannel.historyLimit))) ∧
      (∀ event, (station.step (.notify event)).1 = .flag false →
        (station.step (.notify event)).2 = station) ∧
      history.filter (fun entry => entry.1.reports) =
        (StopStation.run {} (calls.filter StationCall.reports)).1 ∧
      ∀ before between after first second,
        history = before ++ (.notify first, .flag true) :: (between ++ (.notify second, .flag true) :: after) →
        second.id = first.id → (∀ entry ∈ between, entry.1 ≠ .reset) →
        ∃ others, others <:+ (DeliveryRecord.ofHistory between).acceptedIds ∧
          others.length = StopChannel.historyLimit ∧ others.Nodup ∧ first.id ∉ others := by
  subst accepted
  have remembers := run_fresh ran
  have fresh := run_fresh (show StopStation.run {} [] = ([], {}) from rfl)
  refine ⟨remembers.latest, remembers.length, remembers.distinct, remembers.known,
    step_notify remembers, ?_, ?_, ?_⟩
  · intro event refused
    by_cases repeated :
        event.id ∈ (DeliveryRecord.ofHistory history).acceptedIds.rtake StopChannel.historyLimit
    · rw [step_refuses remembers repeated]
    · rw [(step_accepts remembers repeated).1] at refused
      cases refused
  · have answers := run_reports fresh fresh calls
    rwa [ran] at answers
  · intro before between after first second cut same kept
    exact accepted_again (by rw [ran]; exact cut) same kept

/-- A channel is reset, filled beyond its limit while somebody receives, and told of a repeat; then
the first id comes again. -/
def crowding : List StationCall :=
  [.notify ⟨"old", none⟩, .reset] ++
    (List.range 65).map (fun number => .notify ⟨String.singleton (Char.ofNat (48 + number)), none⟩) ++
    [.tryReceive, .notify ⟨"1", none⟩, .notify ⟨"0", none⟩]

theorem repeat_does_not_keep_its_id :
    (StopStation.run {} crowding).2.channel.deliveredOrder.length = 64 ∧
      ((StopStation.run {} crowding).2.step (.notify ⟨"1", none⟩)).1 = .flag true ∧
      ((StopStation.run {} crowding).2.step (.notify ⟨"2", none⟩)).1 = .flag false ∧
      ∃ others, others <:+
          (DeliveryRecord.ofHistory ((StopStation.run {} crowding).1.drop 3).dropLast).acceptedIds ∧
        others.length = 64 ∧ others.Nodup ∧ "0" ∉ others := by
  obtain ⟨-, length, -, -, answers, -, -, apart⟩ :=
    repeats_recognised_in_window (Prod.eta (StopStation.run {} crowding)).symm rfl
  -- One evaluation of the run serves for all that is asked of it.
  have seen : let history := (StopStation.run {} crowding).1
      let ids := (DeliveryRecord.ofHistory history).acceptedIds
      64 ≤ ids.length ∧ "1" ∉ ids.rtake 64 ∧ "2" ∈ ids.rtake 64 ∧
        history = history.take 2 ++ (.notify ⟨"0", none⟩, .flag true) ::
          ((history.drop 3).dropLast ++ [(.notify ⟨"0", none⟩, .flag true)]) ∧
        ∀ entry ∈ (history.drop 3).dropLast, entry.1 ≠ .reset := by
    decide +kernel
  obtain ⟨full, forgotten, known, cut, kept⟩ := seen
  refine ⟨length.trans (Nat.min_eq_left full), (answers _).trans ?_, (answers _).trans ?_,
    apart _ _ _ _ _ cut rfl kept⟩
  · exact congrArg StationAnswer.flag (decide_eq_true forgotten)
  · exact congrArg StationAnswer.flag (decide_eq_false (not_not.mpr known))

end StopStation

end MockKeeper
