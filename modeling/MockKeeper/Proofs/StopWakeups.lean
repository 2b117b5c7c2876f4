import MockKeeper.Proofs.Lookup
import MockKeeper.Proofs.StopDelivery

/-! No receiver sleeps while an event is queued. A receiver goes to sleep only where it finds
the queue empty, and it registered before it looked, so whatever is queued afterwards wakes
it. Being woken is lost only by looking again. -/

namespace MockKeeper.StopStation

theorem receiver?_wake (station : StopStation) (channel : StopChannel) (name : String) :
    receiver? { channel, receivers := station.receivers.map fun entry => (entry.1, entry.2.wake) } name =
      (station.receiver? name).map Receiver.wake :=
  lookup_map (fun _ => Receiver.wake) station.receivers name

theorem receiver?_place (station : StopStation) (name other : String) (state : Receiver) :
    (station.place name state).receiver? other =
      if other = name then (station.receiver? name).map fun _ => state else station.receiver? other :=
  lookup_place station.receivers name other state

theorem receiver?_forget_ne (station : StopStation) {name other : String} (different : other ≠ name) :
    (station.forget name).receiver? other = station.receiver? other :=
  lookup_filter_ne station.receivers different

theorem receiver?_forget_self (station : StopStation) (name : String) :
    (station.forget name).receiver? name = none :=
  lookup_filter_self station.receivers name

theorem receiver?_create (station : StopStation) (name other : String) :
    (station.step (.create name)).2.receiver? other =
      if other = name then some .created else station.receiver? other := by
  have appended : (station.step (.create name)).2.receiver? other =
      ((station.forget name).receiver? other).or (if other = name then some .created else none) := by
    simp only [step, receiver?, List.lookup_append]
    congr 1
    split
    next same => simp [same]
    next different => simp [List.lookup_cons, beq_false_of_ne different]
  rw [appended]
  split
  next same => rw [same, receiver?_forget_self, Option.none_or]
  next different => rw [receiver?_forget_ne station different, Option.or_none]

/-- What a poll does to the receivers: only the polled one changes, and it is registered
without having been woken, or it does not wait any more. -/
theorem receiver?_poll (station : StopStation) (name : String) :
    (∀ other, other ≠ name → (station.poll name).2.receiver? other = station.receiver? other) ∧
      (station.poll name).2.receiver? name ≠ some (.waiting true) ∧
      (station.channel.queue ≠ [] → (station.poll name).2.receiver? name = some (.waiting false) →
        station.receiver? name = some (.waiting false)) := by
  have looks : ∀ state, station.receiver? name = some state →
      (∀ other, other ≠ name → (station.look name).2.receiver? other = station.receiver? other) ∧
        (station.look name).2.receiver? name ≠ some (.waiting true) ∧
        (station.channel.queue ≠ [] →
          (station.look name).2.receiver? name ≠ some (.waiting false)) := by
    intro state there
    have placed : ∀ channel later, receiver? (place { station with channel } name later) name =
        some later := by
      intro channel later
      rw [receiver?_place, if_pos rfl]
      exact congrArg (Option.map fun _ => later) there
    have others : ∀ channel later other, other ≠ name →
        receiver? (place { station with channel } name later) other = station.receiver? other := by
      intro channel later other different
      rw [receiver?_place, if_neg different]
      rfl
    unfold look
    rcases station.channel.tryReceive_cases with ⟨empty, taken⟩ | ⟨event, rest, queued, taken⟩
    · rw [taken]
      refine ⟨others station.channel _, ?_, fun queued => absurd empty queued⟩
      rw [show (station.place name (.waiting false)).receiver? name = _ from placed station.channel _]
      simp
    · rw [taken]
      refine ⟨others _ _, ?_, fun _ => ?_⟩
      all_goals
        simp only
        rw [placed]
        simp
  unfold poll
  cases there : station.receiver? name with
  | none => simp [there]
  | some state =>
    cases state with
    | finished => simp [there]
    | created =>
      obtain ⟨others, asleep, found⟩ := looks _ there
      exact ⟨others, asleep, fun queued waits => absurd waits (found queued)⟩
    | waiting woken =>
      cases woken with
      | false => simp [there]
      | true =>
        obtain ⟨others, asleep, found⟩ := looks _ there
        exact ⟨others, asleep, fun queued waits => absurd waits (found queued)⟩

/-- Whether an event was accepted since a receiver was polled last; that is when its waker
is fired. -/
def firedBy (name : String) (fired : Bool) : AnsweredCall → Bool
  | (.notify _, .flag true) => true
  | (.poll other, _) => if other = name then false else fired
  | _ => fired

def fired (name : String) (history : List AnsweredCall) : Bool := history.foldl (firedBy name) false

/-- The receivers that wait know whether they were woken, and with an event queued all were. -/
structure Attentive (wakers : String → Bool) (station : StopStation) : Prop where
  known : ∀ name woken, station.receiver? name = some (.waiting woken) → woken = wakers name
  awake : station.channel.queue ≠ [] → ∀ name, station.receiver? name ≠ some (.waiting false)

private theorem Attentive.kept {wakers : String → Bool} {before after : StopStation}
    (attentive : before.Attentive wakers)
    (waits : ∀ name woken, after.receiver? name = some (.waiting woken) →
      before.receiver? name = some (.waiting woken))
    (queue : after.channel.queue ≠ [] → before.channel.queue ≠ []) : after.Attentive wakers :=
  ⟨fun name woken waiting => attentive.known name woken (waits name woken waiting),
    fun queued name asleep => attentive.awake (queue queued) name (waits name false asleep)⟩

private theorem Attentive.polled {wakers : String → Bool} {station : StopStation}
    (attentive : station.Attentive wakers) (name : String) :
    (station.poll name).2.Attentive fun other => if name = other then false else wakers other := by
  obtain ⟨others, asleep, found⟩ := station.receiver?_poll name
  refine ⟨?_, ?_⟩
  · intro other woken waits
    by_cases same : name = other
    · subst same
      rw [if_pos rfl]
      cases woken with
      | false => rfl
      | true => exact absurd waits asleep
    · rw [if_neg same]
      rw [others other fun equal => same equal.symm] at waits
      exact attentive.known other woken waits
  · intro queued other waits
    have before : station.channel.queue ≠ [] := by
      rcases station.poll_cases name with ⟨event, rest, front, -⟩ | ⟨-, kept⟩
      · rw [front]
        exact List.cons_ne_nil event rest
      · rwa [kept] at queued
    by_cases same : other = name
    · subst same
      exact attentive.awake before other (found before waits)
    · rw [others other same] at waits
      exact attentive.awake before other waits

theorem step_attentive {wakers : String → Bool} {station : StopStation}
    (attentive : station.Attentive wakers) (call : StationCall) :
    (station.step call).2.Attentive fun name => firedBy name (wakers name) (call, (station.step call).1) := by
  cases call with
  | notify event =>
    simp only [step, notify]
    rcases accepted : station.channel.notify event with ⟨answer, channel⟩
    cases answer with
    | false => exact attentive
    | true =>
      -- All that wait are woken at once, so nobody is left to sleep beside the new event.
      have woken : ∀ name woken, receiver? { channel, receivers := station.receivers.map fun entry =>
          (entry.1, entry.2.wake) } name = some (.waiting woken) → woken = true := by
        intro name woken waits
        rw [receiver?_wake] at waits
        obtain ⟨state, -, wakes⟩ := Option.map_eq_some_iff.mp waits
        cases state <;> cases wakes
        rfl
      exact ⟨woken, fun _ name asleep => by cases woken name false asleep⟩
  | tryReceive =>
    -- Whoever is left with nothing to take had been woken for it, and stays so.
    simp only [step]
    rcases station.channel.tryReceive_cases with ⟨-, taken⟩ | ⟨event, rest, queued, taken⟩
    · rw [taken]
      exact attentive
    · rw [taken]
      refine attentive.kept (fun _ _ waits => waits) fun _ => ?_
      rw [queued]
      exact List.cons_ne_nil event rest
  | reset => exact attentive.kept (fun _ _ waits => waits) fun queued => absurd rfl queued
  | create name =>
    refine attentive.kept (fun other woken waits => ?_) fun queued => queued
    rw [receiver?_create] at waits
    split at waits
    · cases waits
    · exact waits
  | drop name =>
    refine attentive.kept (fun other woken waits => ?_) fun queued => queued
    simp only [step] at waits
    by_cases same : other = name
    · rw [same, receiver?_forget_self] at waits
      cases waits
    · rwa [receiver?_forget_ne station same] at waits
  | poll name => exact attentive.polled name

theorem run_attentive {wakers : String → Bool} {station : StopStation}
    (attentive : station.Attentive wakers) (calls : List StationCall) :
    (station.run calls).2.Attentive fun name => (station.run calls).1.foldl (firedBy name) (wakers name) := by
  induction calls generalizing station wakers with
  | nil => exact attentive
  | cons call rest ih => exact ih (step_attentive attentive call)

/-- With an event queued, every receiver that waits had its waker fired since it was polled
last, and whichever unfinished receiver is polled completes with the front of the queue. -/
theorem queued_event_leaves_none_asleep {calls : List StationCall} {history : List AnsweredCall}
    {station : StopStation} {event : StopEvent} {rest : List StopEvent}
    (ran : StopStation.run {} calls = (history, station))
    (queued : station.channel.queue = event :: rest) (name : String) :
    (∀ woken, station.receiver? name = some (.waiting woken) → woken = true ∧ fired name history = true) ∧
      ∀ state, station.receiver? name = some state → state ≠ .finished →
        (station.step (.poll name)).1 = .received event ∧
          (station.step (.poll name)).2.channel = { station.channel with queue := rest } ∧
          (station.step (.poll name)).2.receiver? name = some .finished := by
  have attentive : station.Attentive fun name => fired name history := by
    have first : Attentive (fun _ => false) {} := ⟨nofun, fun queued => absurd rfl queued⟩
    have last := run_attentive first calls
    rwa [ran] at last
  have awake := attentive.awake (by simp [queued]) name
  refine ⟨?_, ?_⟩
  · intro woken waits
    cases woken with
    | false => exact absurd waits awake
    | true => exact ⟨rfl, (attentive.known name true waits).symm⟩
  · intro state there unfinished
    have looks : station.poll name = station.look name := by
      unfold poll
      rw [there]
      cases state with
      | created => rfl
      | finished => exact absurd rfl unfinished
      | waiting woken =>
        cases woken with
        | false => exact absurd there awake
        | true => rfl
    simp only [step, looks, look, StopChannel.tryReceive, queued]
    refine ⟨trivial, rfl, ?_⟩
    rw [receiver?_place, if_pos rfl]
    exact congrArg (Option.map fun _ => Receiver.finished) there

/-- Two receivers wait, two events wake both, and one of them takes the first event. -/
def rousing : List StationCall :=
  [.create "left", .poll "left", .create "right", .poll "right", .notify ⟨"one", none⟩,
    .notify ⟨"two", none⟩, .poll "right"]

theorem outrun_receiver_finds_next_event :
    (StopStation.run {} rousing).2.receiver? "left" = some (.waiting true) ∧
      fired "left" (StopStation.run {} rousing).1 = true ∧
      ((StopStation.run {} rousing).2.step (.poll "left")).1 = .received ⟨"two", none⟩ := by
  have ran : StopStation.run {} rousing =
      ((StopStation.run {} rousing).1, (StopStation.run {} rousing).2) := rfl
  have queued : (StopStation.run {} rousing).2.channel.queue = [⟨"two", none⟩] := by decide
  have waits : (StopStation.run {} rousing).2.receiver? "left" = some (.waiting true) := by decide
  obtain ⟨woken, completes⟩ := queued_event_leaves_none_asleep ran queued "left"
  exact ⟨waits, (woken true waits).2, (completes _ waits nofun).1⟩

end MockKeeper.StopStation
