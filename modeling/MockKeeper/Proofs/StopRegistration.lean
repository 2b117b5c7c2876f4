import MockKeeper.Proofs.StopWakeups

/-! Why a receiver registers before it looks at the queue. A poll is two acts, and so is the report
of a stop: who reports it queues it first, and wakes those registered when the queue is open to
others again. Between two acts of one party anything may happen. -/

namespace MockKeeper

inductive Waiter
  | created
  /-- It registered, and has yet to look. -/
  | registered (woken : Bool)
  /-- It found nothing, and has yet to register. -/
  | emptyHanded
  /-- It registered, and found nothing. -/
  | asleep (woken : Bool)
  | finished
deriving DecidableEq, Repr

namespace Waiter

def wake : Waiter → Waiter
  | .registered _ => .registered true
  | .asleep _ => .asleep true
  | other => other

def begins : Waiter → Bool
  | .created | .asleep true => true
  | _ => false

/-- Registers a receiver, which is the first act of a poll or, where it looks first, the second. -/
def register (early : Bool) (waiter : Waiter) : Option Waiter :=
  if early then if waiter.begins then some (.registered false) else none
  else if waiter = .emptyHanded then some (.asleep false) else none

def look (early : Bool) (waiter : Waiter) : Option Waiter :=
  if early then
    match waiter with
    | .registered woken => some (.asleep woken)
    | _ => none
  else if waiter.begins then some .emptyHanded else none

end Waiter

/-- A channel, its receivers, and how many have queued a stop and not woken anyone yet. -/
structure SplitStation where
  channel : StopChannel := {}
  waiters : List (String × Waiter) := []
  waking : Nat := 0
deriving DecidableEq, Repr

inductive SplitAct
  | queue (event : StopEvent)
  | wake
  | register (name : String)
  | look (name : String)
  | tryReceive
  | reset
  | create (name : String)
  | drop (name : String)
deriving DecidableEq, Repr

namespace SplitStation

def waiter? (station : SplitStation) (name : String) : Option Waiter := station.waiters.lookup name

def place (station : SplitStation) (name : String) (waiter : Waiter) : SplitStation :=
  { station with waiters := station.waiters.map fun entry => if entry.1 = name then (name, waiter) else entry }

def forget (station : SplitStation) (name : String) : SplitStation :=
  { station with waiters := station.waiters.filter fun entry => entry.1 != name }

/-- One act, where receivers register early, before they look, or else after it. -/
def step (early : Bool) (station : SplitStation) : SplitAct → Option SplitStation
  | .queue event =>
    match station.channel.notify event with
    | (true, channel) => some { station with channel, waking := station.waking + 1 }
    | (false, _) => some station
  | .wake =>
    if station.waking = 0 then none
    else some { station with
      waking := station.waking - 1
      waiters := station.waiters.map fun entry => (entry.1, entry.2.wake) }
  | .register name =>
    (station.waiter? name).bind fun waiter => (waiter.register early).map (station.place name)
  | .look name =>
    (station.waiter? name).bind fun waiter => (waiter.look early).map fun disappointed =>
      match station.channel.tryReceive with
      | (some _, channel) => { station with channel }.place name .finished
      | (none, _) => station.place name disappointed
  | .tryReceive => some { station with channel := station.channel.tryReceive.2 }
  | .reset => some { station with channel := station.channel.reset }
  | .create name =>
    some { station.forget name with waiters := (station.forget name).waiters ++ [(name, .created)] }
  | .drop name => some (station.forget name)

variable {station after : SplitStation} {name : String} {waiter : Waiter}

theorem waiter?_place (station : SplitStation) (name other : String) (waiter : Waiter) :
    (station.place name waiter).waiter? other =
      if other = name then (station.waiter? name).map fun _ => waiter else station.waiter? other :=
  lookup_place station.waiters name other waiter

theorem waiter?_place_self (found : (station.waiter? name).isSome) (later : Waiter) :
    (station.place name later).waiter? name = some later := by
  obtain ⟨waiter, there⟩ := Option.isSome_iff_exists.mp found
  rw [waiter?_place, if_pos rfl, there, Option.map_some]

theorem place_place (station : SplitStation) (name : String) (first last : Waiter) :
    (station.place name first).place name last = station.place name last := by
  simp only [place, List.map_map, SplitStation.mk.injEq, true_and, and_true]
  refine List.map_congr_left fun entry _ => ?_
  by_cases same : entry.1 = name
  · simp only [Function.comp_apply, if_pos same, if_true]
  · simp only [Function.comp_apply, if_neg same]

theorem mem_place {entry : String × Waiter} (member : entry ∈ (station.place name waiter).waiters) :
    entry.2 = waiter ∨ entry ∈ station.waiters := by
  obtain ⟨old, there, rfl⟩ := List.mem_map.mp member
  split
  · exact .inl rfl
  · exact .inr there

/-- Where a stop is queued and nobody is about to wake the receivers, none sleeps unwoken. -/
def Awake (station : SplitStation) : Prop :=
  station.channel.queue ≠ [] → station.waking = 0 → ∀ entry ∈ station.waiters, entry.2 ≠ .asleep false

private theorem Awake.kept (awake : station.Awake)
    (queue : after.channel.queue ≠ [] → station.channel.queue ≠ []) (waking : after.waking = station.waking)
    (waiters : ∀ entry ∈ after.waiters, entry.2 = .asleep false → entry ∈ station.waiters) : after.Awake := by
  intro queued none entry member asleep
  exact awake (queue queued) (waking ▸ none) entry (waiters entry member asleep) asleep

private theorem Awake.placed (awake : station.Awake) (other : waiter ≠ .asleep false) :
    (station.place name waiter).Awake := by
  refine awake.kept (fun queued => queued) rfl fun entry member asleep => ?_
  rcases mem_place member with placed | there
  · exact absurd (placed.symm.trans asleep) other
  · exact there

private theorem tryReceive_left {channel : StopChannel} (left : channel.tryReceive.2.queue ≠ []) : channel.queue ≠ [] := by
  rcases channel.tryReceive_cases with ⟨-, taken⟩ | ⟨event, rest, queued, -⟩
  · rwa [taken] at left
  · rw [queued]
    exact List.cons_ne_nil event rest

theorem wake_wakes {entry : String × Waiter}
    (member : entry ∈ station.waiters.map fun entry => (entry.1, entry.2.wake)) : entry.2 ≠ .asleep false := by
  obtain ⟨old, -, rfl⟩ := List.mem_map.mp member
  cases old.2 <;> simp [Waiter.wake]

theorem step_awake {act : SplitAct} (stepped : station.step true act = some after) (awake : station.Awake) :
    after.Awake := by
  cases act with
  | queue event =>
    simp only [step] at stepped
    split at stepped
    next =>
      cases stepped
      exact fun _ none => absurd none (Nat.succ_ne_zero _)
    next =>
      cases stepped
      exact awake
  | wake =>
    simp only [step, Option.ite_none_left_eq_some, Option.some.injEq] at stepped
    obtain ⟨-, rfl⟩ := stepped
    exact fun _ _ entry member => wake_wakes member
  | register name =>
    obtain ⟨waiter, -, stepped⟩ := Option.bind_eq_some_iff.mp stepped
    obtain ⟨later, registers, rfl⟩ := Option.map_eq_some_iff.mp stepped
    simp only [Waiter.register, if_true, Option.ite_none_right_eq_some, Option.some.injEq] at registers
    obtain ⟨-, rfl⟩ := registers
    exact awake.placed nofun
  | look name =>
    obtain ⟨waiter, -, stepped⟩ := Option.bind_eq_some_iff.mp stepped
    obtain ⟨disappointed, -, rfl⟩ := Option.map_eq_some_iff.mp stepped
    rcases station.channel.tryReceive_cases with ⟨empty, taken⟩ | ⟨event, rest, queued, taken⟩
    · -- Whoever goes to sleep found nothing, so there is nothing to be woken for.
      rw [taken]
      exact fun queued => absurd empty queued
    · rw [taken]
      have received : Awake { station with channel := { station.channel with queue := rest } } :=
        awake.kept (fun _ => by rw [queued]; exact List.cons_ne_nil event rest) rfl fun _ member _ => member
      exact received.placed nofun
  | tryReceive =>
    cases stepped
    exact awake.kept tryReceive_left rfl fun _ member _ => member
  | reset =>
    cases stepped
    exact fun queued => absurd rfl queued
  | create name =>
    cases stepped
    refine awake.kept (fun queued => queued) rfl fun entry member asleep => ?_
    rcases List.mem_append.mp member with old | new
    · exact (List.mem_filter.mp old).1
    · rw [List.mem_singleton.mp new] at asleep
      cases asleep
  | drop name =>
    cases stepped
    exact awake.kept (fun queued => queued) rfl fun _ member _ => (List.mem_filter.mp member).1

theorem poll_at_once (there : station.waiter? name = some waiter) (begins : waiter.begins) :
    runAll (step true) station [.register name, .look name] =
      some (match station.channel.tryReceive with
        | (some _, channel) => { station with channel }.place name .finished
        | (none, _) => station.place name (.asleep false)) := by
  have registers : station.step true (.register name) = some (station.place name (.registered false)) := by
    simp only [step, there, Option.bind_some, Waiter.register, if_true, if_pos begins, Option.map_some]
  have registered := waiter?_place_self (Option.isSome_of_eq_some there) (.registered false)
  refine runAll_cons_eq_some.mpr ⟨_, registers, runAll_cons_eq_some.mpr ⟨_, ?_, rfl⟩⟩
  simp only [step, registered, Option.bind_some, Waiter.look, if_true, Option.map_some, Option.some.injEq]
  have same : (station.place name (.registered false)).channel = station.channel := rfl
  rw [same]
  rcases station.channel.tryReceive_cases with ⟨-, taken⟩ | ⟨event, rest, -, taken⟩
  · rw [taken]
    exact place_place station name _ _
  · rw [taken]
    exact place_place { station with channel := { station.channel with queue := rest } } name _ _

/-- Whatever happens between the acts, a receiver sleeps beside a queued stop only while somebody is
about to wake it, and one that was woken, or was not polled yet, gets the stop when it is polled. -/
theorem sleeper_is_about_to_be_woken {acts : List SplitAct} {event : StopEvent} {rest : List StopEvent}
    (ran : runAll (step true) {} acts = some station) (queued : station.channel.queue = event :: rest) :
    (∀ name, station.waiter? name = some (.asleep false) → 0 < station.waking) ∧
      (∀ after, station.step true .wake = some after → ∀ name, after.waiter? name ≠ some (.asleep false)) ∧
      ∀ name waiter, station.waiter? name = some waiter → waiter.begins →
        runAll (step true) station [.register name, .look name] =
          some ({ station with channel := { station.channel with queue := rest } }.place name .finished) := by
  have awake : station.Awake := runAll_keeps (fun _ _ _ stepped awake => step_awake stepped awake) ran nofun
  have member {station : SplitStation} {name : String} (asleep : station.waiter? name = some (.asleep false)) :
      (name, .asleep false) ∈ station.waiters := by
    obtain ⟨before, later, split, -⟩ := List.lookup_eq_some_iff.mp asleep
    rw [split]
    exact List.mem_append_right before List.mem_cons_self
  refine ⟨?_, ?_, ?_⟩
  · intro name asleep
    refine Nat.pos_of_ne_zero fun none => ?_
    exact awake (by rw [queued]; exact List.cons_ne_nil event rest) none _ (member asleep) rfl
  · intro after stepped name asleep
    simp only [step, Option.ite_none_left_eq_some, Option.some.injEq] at stepped
    obtain ⟨-, rfl⟩ := stepped
    exact wake_wakes (member asleep) rfl
  · intro name waiter there begins
    rw [poll_at_once there begins]
    simp only [StopChannel.tryReceive, queued]

/-- A stop comes in after a receiver has looked, and its report wakes those registered. -/
def overlooked : List SplitAct :=
  [.create "late", .look "late", .queue ⟨"one", none⟩, .wake, .register "late"]

/-- A receiver that looks before it registers can sleep beside a stop that nobody wakes it for. -/
theorem late_registration_sleeps_on :
    ¬ ∀ (acts : List SplitAct) (station : SplitStation), runAll (step false) {} acts = some station →
      station.Awake := by
  intro awake
  have facts : (runAll (step false) {} overlooked).any (fun station => decide (
      station.channel.queue ≠ [] ∧ station.waking = 0 ∧ ("late", .asleep false) ∈ station.waiters)) = true := by
    decide
  simp only [Option.any_eq_true, decide_eq_true_eq] at facts
  obtain ⟨station, ran, queued, none, asleep⟩ := facts
  exact awake overlooked station ran queued none _ asleep rfl

end SplitStation

def Receiver.split : Receiver → Waiter
  | .created => .created
  | .waiting woken => .asleep woken
  | .finished => .finished

namespace StopStation

/-- A station between two calls, where nobody is in the middle of one. -/
def split (station : StopStation) : SplitStation where
  channel := station.channel
  waiters := station.receivers.map fun entry => (entry.1, entry.2.split)

def acts (station : StopStation) : StationCall → List SplitAct
  | .notify event => if (station.channel.notify event).1 then [.queue event, .wake] else [.queue event]
  | .tryReceive => [.tryReceive]
  | .reset => [.reset]
  | .create name => [.create name]
  | .poll name =>
    match station.receiver? name with
    | some .created | some (.waiting true) => [.register name, .look name]
    | _ => []
  | .drop name => [.drop name]

theorem waiter?_split (station : StopStation) (name : String) :
    station.split.waiter? name = (station.receiver? name).map Receiver.split :=
  lookup_map (fun _ => Receiver.split) station.receivers name

theorem split_place (station : StopStation) (name : String) (state : Receiver) :
    (station.place name state).split = station.split.place name state.split := by
  simp only [split, place, SplitStation.place, List.map_map, SplitStation.mk.injEq, true_and, and_true]
  refine List.map_congr_left fun entry _ => ?_
  by_cases same : entry.1 = name
  · simp only [Function.comp_apply, if_pos same]
  · simp only [Function.comp_apply, if_neg same]

theorem split_forget (station : StopStation) (name : String) :
    (station.forget name).split = station.split.forget name := by
  simp only [split, forget, SplitStation.forget, List.filter_map]
  rfl

private theorem look_splits (station : StopStation) {name : String} {state : Receiver}
    (there : station.receiver? name = some state) (begins : state.split.begins) :
    runAll (SplitStation.step true) station.split [.register name, .look name] = some (station.look name).2.split := by
  have found : station.split.waiter? name = some state.split := by rw [waiter?_split, there, Option.map_some]
  rw [SplitStation.poll_at_once found begins, show station.split.channel = station.channel from rfl]
  unfold look
  rcases station.channel.tryReceive_cases with ⟨-, taken⟩ | ⟨event, rest, -, taken⟩
  · rw [taken]
    exact congrArg some (split_place station name (.waiting false)).symm
  · rw [taken]
    exact congrArg some (split_place { station with channel := { station.channel with queue := rest } } name .finished).symm

/-- A whole call is its acts, one right after the other. -/
theorem step_splits (station : StopStation) (call : StationCall) :
    runAll (SplitStation.step true) station.split (station.acts call) = some (station.step call).2.split := by
  cases call with
  | notify event =>
    simp only [acts, step, notify]
    rcases notified : station.channel.notify event with ⟨answer, channel⟩
    cases answer with
    | false => simp [runAll, SplitStation.step, split, notified]
    | true =>
      have wakes : ∀ state : Receiver, state.split.wake = state.wake.split := by
        intro state
        cases state <;> rfl
      simp only [if_true, runAll, SplitStation.step, split, notified, Option.bind_some, Nat.zero_add, Nat.one_ne_zero,
        if_false, List.map_map, Option.some.injEq, SplitStation.mk.injEq, true_and, Nat.sub_self, and_true]
      exact List.map_congr_left fun entry _ => congrArg (Prod.mk entry.1) (wakes entry.2)
  | tryReceive | reset => rfl
  | create name =>
    simp only [acts, runAll, SplitStation.step, Option.bind_some, step, ← split_forget]
    simp only [split, List.map_append]
    rfl
  | drop name => exact congrArg some (split_forget station name).symm
  | poll name =>
    simp only [acts, step, poll]
    cases there : station.receiver? name with
    | none => rfl
    | some state =>
      cases state with
      | created => exact look_splits station there rfl
      | finished => rfl
      | waiting woken =>
        cases woken with
        | false => rfl
        | true => exact look_splits station there rfl

theorem run_splits (station : StopStation) (calls : List StationCall) :
    ∃ acts, runAll (SplitStation.step true) station.split acts = some (station.run calls).2.split := by
  induction calls generalizing station with
  | nil => exact ⟨[], rfl⟩
  | cons call rest ih =>
    obtain ⟨acts, ran⟩ := ih (station.step call).2
    exact ⟨station.acts call ++ acts, runAll_append_eq_some.mpr ⟨_, step_splits station call, ran⟩⟩

end StopStation

end MockKeeper
