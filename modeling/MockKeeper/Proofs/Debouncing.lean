import MockKeeper.Proofs.DebounceEndings
import MockKeeper.Proofs.WakeupInterleaving

/-! What may be relied on in any run of a debouncer, however fast changes come and reports are
taken, and whenever either side goes away. -/

namespace MockKeeper.Watcher

variable {window start steps : Nat} {initial final watcher after : Watcher} {events : List WatcherEvent}

/-- After so many steps at most there is nothing to do until time has passed. -/
def SettlesIn (steps : Nat) (watcher : Watcher) : Prop :=
  ∃ count ≤ steps, ∃ settled, watcher.run (List.replicate count .proceed) = some settled ∧ settled.Waits

theorem Waits.settlesIn (waits : watcher.Waits) : watcher.SettlesIn steps :=
  ⟨0, Nat.zero_le steps, watcher, rfl, waits⟩

private theorem settlesIn_step (next : ∀ after, watcher.Moves .proceed after → after.SettlesIn steps) :
    watcher.SettlesIn (steps + 1) := by
  cases proceeded : watcher.debouncer.proceed watcher.reports watcher.now with
  | none => exact (waits_iff.mpr proceeded).settlesIn
  | some result =>
    have stepped : watcher.step .proceed = some { watcher with debouncer := result.1, reports := result.2 } := by
      simp only [step, proceeded, Option.map_some]
    obtain ⟨count, few, settled, ran, waits⟩ := next _ (step_moves stepped)
    exact ⟨count + 1, Nat.succ_le_succ few, settled, run_cons_iff.mpr ⟨_, stepped, ran⟩, waits⟩

private theorem stopped_settlesIn (stopped : watcher.debouncer.point = .stopped) : watcher.SettlesIn steps :=
  Waits.settlesIn ⟨fun idle => by simp [stopped] at idle, fun wake asleep => by simp [stopped] at asleep⟩

private theorem drained_settlesIn (idle : watcher.debouncer.point = .idle)
    (empty : watcher.debouncer.raw.waiting = 0) : watcher.SettlesIn (steps + 1) :=
  settlesIn_step fun after moves => by
    cases moves with
    | dozes _ waits => exact absurd empty (Nat.ne_of_gt waits)
    | ends => exact stopped_settlesIn rfl
    | reports asleep | drops asleep | breaksOff asleep => cases idle.symm.trans asleep

private theorem asleep_settlesIn {wake : Nat} (asleep : watcher.debouncer.point = .asleep wake) :
    watcher.SettlesIn (steps + 2) :=
  settlesIn_step fun after moves => by
    cases moves with
    | dozes idle | ends idle => cases asleep.symm.trans idle
    | reports | drops => exact drained_settlesIn rfl rfl
    | breaksOff => exact stopped_settlesIn rfl

theorem settlesIn_three (watcher : Watcher) : watcher.SettlesIn 3 :=
  settlesIn_step fun after moves => by
    cases moves with
    | dozes => exact asleep_settlesIn rfl
    | ends | breaksOff => exact stopped_settlesIn rfl
    | reports | drops => exact drained_settlesIn rfl rfl

theorem Waits.flows (waits : watcher.Waits) : ∃ span, 0 < span ∧ (watcher.step (.elapse span)).isSome = true := by
  have stuck := waits_iff.mp waits
  cases point : watcher.debouncer.point with
  | idle | stopped => exact ⟨1, Nat.one_pos, by simp [step, idleFor, stuck, Debouncer.wake?, point]⟩
  | asleep wake =>
    have early := waits.asleep wake point
    refine ⟨wake - watcher.now, Nat.sub_pos_of_lt early, ?_⟩
    simp [step, idleFor, stuck, Debouncer.wake?, point, Nat.add_sub_of_le (Nat.le_of_lt early)]

/-- What a run of a debouncer has to come up to. -/
structure Debounced (window : Nat) (initial : Watcher) (events : List WatcherEvent) (final : Watcher) : Prop where
  /-- A change, also one that finds no room, is covered by a report no later than a window after it. -/
  covered : ∀ first last before, events = first ++ .change :: last → initial.run first = some before →
    before.debouncer.raw.senderOpen = true → final.reports.receiverOpen = true →
    final.Past (before.now + window) →
    ∃ turn ∈ before.trace (.change :: last), Tells (before.now + window) turn
  spaced : ((initial.trace events).filter sends).Pairwise fun earlier later =>
    earlier.before.now + window ≤ later.before.now
  single : final.reports.waiting ≤ 1
  bounded : events.count .receive ≤ events.count .change
  /-- Once the source is closed, the stream ends no later than a window after that. -/
  ended : ∀ first last before, events = first ++ .closeSource :: last → initial.run first = some before →
    .change ∉ last → final.Past (before.now + window) →
    final.debouncer.point = .stopped ∧ final.RunsOut
  /-- The debouncer stops where it finds that nobody listens, or that nobody is left to listen to. -/
  stops : ∀ turn ∈ initial.trace events, turn.before.debouncer.point ≠ .stopped →
    (turn.after.debouncer.point = .stopped ↔
      sends turn = true ∧ turn.before.reports.receiverOpen = false ∨
      turn.input = .proceed ∧ turn.before.debouncer.point = .idle ∧ turn.before.debouncer.raw.ended = true)
  /-- To a taker that went away it tries to report once, and not after that. -/
  unheard : ∀ first last before, events = first ++ .abandon :: last → initial.run first = some before →
    ((before.trace (.abandon :: last)).filter sends).length ≤ 1 ∧
      ((before.trace (.abandon :: last)).filter sends ≠ [] → final.debouncer.point = .stopped)
  settles : final.SettlesIn 3
  flows : final.Waits → ∃ span, 0 < span ∧ (final.step (.elapse span)).isSome = true
  /-- What others do while the debouncer wakes up leads nowhere that other runs do not lead. -/
  atOnce : ∀ wake during middle between ready, final.debouncer.point = .asleep wake → wake ≤ final.now →
    Drains final during middle → (∀ event ∈ between, byMaker event || byTaker event) →
    middle.run between = some ready →
    final.run (during ++ between.filter byTaker ++ .proceed :: between.filter byMaker) = some (report ready)

theorem every_run_debounced (ran : (resting window start).run events = some final) :
    Debounced window (resting window start) events final where
  covered := by
    rintro first last before rfl reached sending heard past
    have orderly := run_orderly (resting_orderly window start) reached
    obtain ⟨next, stepped, ran⟩ := run_cons_iff.mp (run_split ran reached)
    have moves := step_moves stepped
    have later := moves.orderly orderly
    rw [trace, turns_cons stepped]
    rcases told_by_deadline later (change_due orderly sending moves) ran with ⟨turn, member, tells⟩ | due
    · exact ⟨turn, List.mem_cons_of_mem _ member, tells⟩
    · exact absurd past (due.not_past (run_orderly later ran) heard)
  spaced := sends_spaced (resting_orderly window start) ran
  single := (run_orderly (resting_orderly window start) ran).waiting
  bounded := by
    have accounted := received_accounted ran
    have nothing : outstanding (resting window start) = 0 := rfl
    omega
  ended := by
    rintro first last before rfl reached unchanged past
    have orderly := run_orderly (resting_orderly window start) reached
    have stopped := stopped_after_close orderly (run_split ran reached) unchanged past
    exact ⟨stopped, (run_orderly (resting_orderly window start) ran).runsOut stopped⟩
  stops := by
    rintro ⟨before, input, after⟩ member going
    rw [(step_moves (runAll_around ran member).1).stops_iff going, sends_iff]
    simp only [and_assoc, and_or_left]
  unheard := by
    rintro first last before rfl reached
    obtain ⟨next, stepped, ran⟩ := run_cons_iff.mp (run_split ran reached)
    have gone : next.reports.receiverOpen = false := by
      cases stepped
      rfl
    rw [trace, turns_cons stepped, List.filter_cons_of_neg (by simp [sends])]
    exact unheard_sends_once gone ran
  settles := settlesIn_three final
  flows := Waits.flows
  atOnce _ _ _ _ _ asleep due drains others between := wakeup_at_once asleep due drains others between

/-- Of seventy changes at once some find no room. A later report finds another one waiting. -/
def crowding : List WatcherEvent :=
  .change :: .proceed :: List.replicate 70 .change ++
    [.elapse 100, .proceed, .elapse 50, .change, .proceed, .elapse 100, .proceed, .receive, .elapse 10,
      .change, .closeSource, .proceed, .elapse 100, .proceed, .proceed, .receive]

theorem crowding_debounced :
    Debounced 100 (resting 100 0) crowding
      { debouncer := {
          window := 100, point := .stopped
          raw := { capacity := 64, senderOpen := false, receiverOpen := false } }
        reports := { capacity := 1, senderOpen := false }
        now := 360 } :=
  every_run_debounced (by decide +kernel)

end MockKeeper.Watcher
