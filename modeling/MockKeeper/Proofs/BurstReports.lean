import MockKeeper.Proofs.DebounceTiming
import Mathlib.Data.List.Chain

/-! How often a burst of changes is reported. A sleep begins with the first change it covers and
is not drawn out by later ones, so a burst that is longer than the window is reported again, though
no two of its changes are a window apart. -/

namespace MockKeeper.Watcher

def changeTimes (trace : List Turn) : List Nat :=
  (trace.filter fun turn => turn.input = .change).map fun turn => turn.before.now

/-- Nothing changed for a while, and everything that did was reported and taken. -/
structure Silent (window : Nat) (watcher : Watcher) : Prop where
  orderly : watcher.Orderly window
  idle : watcher.debouncer.point = .idle
  empty : watcher.debouncer.raw.waiting = 0
  sending : watcher.debouncer.raw.senderOpen = true
  heard : watcher.reports.receiverOpen = true
  taken : watcher.reports.waiting = 0

/-- A burst of changes between two silences, whose reports are taken as soon as they are made. -/
structure Burst (window : Nat) (initial : Watcher) (events : List WatcherEvent) (final : Watcher)
    (first : Nat) (later : List Nat) : Prop where
  silent : Silent window initial
  ran : initial.run events = some final
  attended : ∀ event ∈ events, event ≠ .closeSource ∧ event ≠ .abandon
  ready : ∀ turn ∈ initial.trace events, turn.before.now < turn.after.now → turn.before.reports.waiting = 0
  changes : changeTimes (initial.trace events) = first :: later
  close : (first :: later).IsChain fun earlier next => next < earlier + window
  quiet : final.Past (later.getLastD first + 2 * window)
  taken : final.reports.waiting = 0

/-- Where a burst has got to, as seen from the debouncer. Each report is made a window after the change
that led to it, and the change that leads to the next one comes less than a window after that. -/
inductive Stage (window first last made : Nat) (watcher : Watcher) : Prop
  | due (idle : watcher.debouncer.point = .idle) (waits : 0 < watcher.debouncer.raw.waiting)
      (now : watcher.now = last) (late : first + made * window ≤ last) (soon : last ≤ first + 2 * (made * window))
      (taken : watcher.reports.waiting = 0 ∨ 0 < window)
  | sleeps {wake : Nat} (asleep : watcher.debouncer.point = .asleep wake)
      (covers : last ≤ wake) (within : wake ≤ last + window)
      (late : first + made * window + window ≤ wake) (soon : wake ≤ first + 2 * (made * window) + window)
      (taken : watcher.reports.waiting = 0 ∨ 0 < window ∧ watcher.now + window ≤ wake)
  | rests {woke : Nat} (idle : watcher.debouncer.point = .idle) (empty : watcher.debouncer.raw.waiting = 0)
      (reported : 0 < made) (past : woke ≤ watcher.now) (covers : last ≤ woke) (within : woke ≤ last + window)
      (late : first + made * window ≤ woke) (soon : woke + window ≤ first + 2 * (made * window))

/-- A burst of which so many reports were received. -/
structure Bursting (window first last told : Nat) (watcher : Watcher) : Prop where
  orderly : watcher.Orderly window
  sending : watcher.debouncer.raw.senderOpen = true
  heard : watcher.reports.receiverOpen = true
  stage : Stage window first last (told + watcher.reports.waiting) watcher

variable {window first last told made : Nat} {later : List Nat} {initial final watcher after : Watcher}
  {event : WatcherEvent} {events : List WatcherEvent}

theorem Stage.changed (stage : Stage window first last made watcher) (orderly : watcher.Orderly window)
    (close : watcher.now < last + window) (moves : watcher.Moves .change after) :
    Stage window first watcher.now made after := by
  cases stage with
  | due idle waits now late soon taken =>
    have waits := moves.waits_after_change orderly idle
    cases moves <;> exact .due idle waits rfl (now ▸ late) (now ▸ soon) taken
  | @sleeps wake asleep covers within late soon taken =>
    obtain ⟨inTime, within⟩ := orderly.inTime wake asleep
    cases moves <;> exact .sleeps asleep inTime within late soon taken
  | rests idle empty reported past covers within late soon =>
    have waits := moves.waits_after_change orderly idle
    -- the change comes after the report that covers the last one, so the window is not empty
    have positive : 0 < window := by omega
    cases moves <;> exact .due idle waits rfl (Nat.le_trans late past) (by omega) (.inr positive)

theorem Stage.received (stage : Stage window first last made watcher) (orderly : watcher.Orderly window)
    (moves : watcher.Moves .receive after) : Stage window first last made after := by
  have single := orderly.waiting
  cases moves with
  | received waits =>
    have none : watcher.reports.waiting - 1 = 0 := by omega
    cases stage with
    | due idle waits now late soon => exact .due idle waits now late soon (.inl none)
    | sleeps asleep covers within late soon => exact .sleeps asleep covers within late soon (.inl none)
    | rests idle empty reported past covers within late soon =>
      exact .rests idle empty reported past covers within late soon

theorem Stage.elapsed {span : Nat} (stage : Stage window first last made watcher)
    (ready : 0 < span → watcher.reports.waiting = 0) (moves : watcher.Moves (.elapse span) after) :
    Stage window first last made after := by
  cases moves with
  | elapsed stuck inTime =>
    cases stage with
    | due idle waits => exact absurd (stuck.idle idle).1 (Nat.ne_of_gt waits)
    | @sleeps wake asleep covers within late soon taken =>
      refine .sleeps asleep covers within late soon ?_
      by_cases passes : 0 < span
      · exact .inl (ready passes)
      · obtain rfl := Nat.eq_zero_of_not_pos passes
        exact taken
    | rests idle empty reported past covers within late soon =>
      exact .rests idle empty reported (Nat.le_add_right_of_le past) covers within late soon

theorem Stage.proceeded (stage : Stage window first last made watcher) (orderly : watcher.Orderly window)
    (sending : watcher.debouncer.raw.senderOpen = true) (heard : watcher.reports.receiverOpen = true)
    (moves : watcher.Moves .proceed after) : ∃ more,
      after.reports.waiting = watcher.reports.waiting + more ∧ Stage window first last (made + more) after := by
  cases stage with
  | due idle waits now late soon taken =>
    have wakes : watcher.now + watcher.debouncer.window = last + window := by rw [orderly.lasting, now]
    cases moves with
    | dozes =>
      exact ⟨0, rfl, .sleeps rfl (by omega) (by omega) (by rw [Nat.add_zero]; omega) (by rw [Nat.add_zero]; omega)
        (taken.imp_right fun positive => ⟨positive, by simp only; omega⟩)⟩
    | ends _ ended => simp [ChangeStream.ended, sending] at ended
    | reports asleep | drops asleep | breaksOff asleep => cases idle.symm.trans asleep
  | @sleeps wake asleep covers within late soon taken =>
    have single := orderly.single
    cases moves with
    | dozes idle | ends idle => cases asleep.symm.trans idle
    | reports other due =>
      cases asleep.symm.trans other
      have more : (made + 1) * window = made * window + window := Nat.succ_mul made window
      exact ⟨1, rfl, .rests rfl rfl (Nat.succ_pos _) due covers within (by omega) (by omega)⟩
    | drops other due _ full =>
      cases asleep.symm.trans other
      omega
    | breaksOff _ _ unheard => cases unheard.symm.trans heard
  | rests idle empty =>
    cases moves with
    | dozes _ waits => exact absurd empty (Nat.ne_of_gt waits)
    | ends _ ended => simp [ChangeStream.ended, sending] at ended
    | reports asleep | drops asleep | breaksOff asleep => cases idle.symm.trans asleep

private theorem Moves.sender_same (moves : watcher.Moves event after) (kept : event ≠ .closeSource) :
    after.debouncer.raw.senderOpen = watcher.debouncer.raw.senderOpen := by
  cases moves with
  | sourceClosed => exact absurd rfl kept
  | _ => rfl

private theorem Moves.taker_same (moves : watcher.Moves event after) (kept : event ≠ .abandon) :
    after.reports.receiverOpen = watcher.reports.receiverOpen := by
  cases moves with
  | abandoned => exact absurd rfl kept
  | _ => rfl

private theorem Bursting.onwards {other received : Nat} (bursting : Bursting window first last told watcher)
    (attended : event ≠ .closeSource ∧ event ≠ .abandon) (moves : watcher.Moves event after)
    (stage : Stage window first other (received + after.reports.waiting) after) :
    Bursting window first other received after :=
  ⟨moves.orderly bursting.orderly, (moves.sender_same attended.1).trans bursting.sending,
    (moves.taker_same attended.2).trans bursting.heard, stage⟩

theorem changeTimes_cons (turn : Turn) (rest : List Turn) : changeTimes (turn :: rest) =
    if turn.input = .change then turn.before.now :: changeTimes rest else changeTimes rest := by
  unfold changeTimes
  by_cases changes : turn.input = .change
  · simp [changes]
  · simp [changes]

theorem Bursting.run (bursting : Bursting window first last told initial) (ran : initial.run events = some final)
    (attended : ∀ event ∈ events, event ≠ .closeSource ∧ event ≠ .abandon)
    (ready : ∀ turn ∈ initial.trace events, turn.before.now < turn.after.now → turn.before.reports.waiting = 0)
    (close : (last :: changeTimes (initial.trace events)).IsChain fun earlier next => next < earlier + window) :
    Bursting window first ((changeTimes (initial.trace events)).getLastD last) (told + events.count .receive) final := by
  induction events generalizing initial last told with
  | nil =>
    cases ran
    exact bursting
  | cons event rest ih =>
    rw [run_cons_iff] at ran
    obtain ⟨next, stepped, ran⟩ := ran
    have moves := step_moves stepped
    rw [trace, turns_cons stepped, List.forall_mem_cons] at ready
    rw [trace, turns_cons stepped, changeTimes_cons] at close ⊢
    rw [List.forall_mem_cons] at attended
    obtain ⟨here, attended⟩ := attended
    obtain ⟨passes, ready⟩ := ready
    cases event with
    | change =>
      rw [if_pos rfl] at close ⊢
      obtain ⟨soon, close⟩ := List.isChain_cons_cons.mp close
      rw [List.getLastD_cons, List.count_cons_of_ne (by simp)]
      refine ih (bursting.onwards here moves ?_) ran attended ready close
      have stage := bursting.stage.changed bursting.orderly soon moves
      cases moves <;> exact stage
    | closeSource => exact absurd rfl here.1
    | abandon => exact absurd rfl here.2
    | proceed =>
      rw [if_neg (by simp)] at close ⊢
      rw [List.count_cons_of_ne (by simp)]
      refine ih (bursting.onwards here moves ?_) ran attended ready close
      obtain ⟨more, waiting, stage⟩ :=
        bursting.stage.proceeded bursting.orderly bursting.sending bursting.heard moves
      rwa [waiting, ← Nat.add_assoc]
    | receive =>
      rw [if_neg (by simp)] at close ⊢
      rw [List.count_cons_self, Nat.add_comm _ 1, ← Nat.add_assoc]
      refine ih (bursting.onwards here moves ?_) ran attended ready close
      have stage := bursting.stage.received bursting.orderly moves
      cases moves with
      | received waits =>
        have same : told + 1 + (initial.reports.waiting - 1) = told + initial.reports.waiting := by omega
        rwa [← same] at stage
    | elapse span =>
      rw [if_neg (by simp)] at close ⊢
      rw [List.count_cons_of_ne (by simp)]
      refine ih (bursting.onwards here moves ?_) ran attended ready close
      cases moves with
      | elapsed stuck inTime =>
        exact bursting.stage.elapsed (fun passing => passes (Nat.lt_add_of_pos_right passing)) (.elapsed stuck inTime)

theorem Silent.changed (silent : Silent window watcher) (moves : watcher.Moves .change after) :
    Bursting window watcher.now watcher.now 0 after := by
  have next := moves.orderly silent.orderly
  have waits := moves.waits_after_change silent.orderly silent.idle
  cases moves <;> exact ⟨next, silent.sending, silent.heard,
    .due silent.idle waits rfl (by simp [silent.taken]) (Nat.le_add_right _ _) (.inl silent.taken)⟩

theorem Silent.stays (silent : Silent window watcher) (attended : event ≠ .closeSource ∧ event ≠ .abandon)
    (unchanged : event ≠ .change) (moves : watcher.Moves event after) :
    Silent window after ∧ event ≠ .receive := by
  have next := moves.orderly silent.orderly
  cases moves with
  | queued | missed => exact absurd rfl unchanged
  | sourceClosed => exact absurd rfl attended.1
  | abandoned => exact absurd rfl attended.2
  | dozes _ waits => exact absurd silent.empty (Nat.ne_of_gt waits)
  | ends _ ended => simp [ChangeStream.ended, silent.sending] at ended
  | reports asleep | drops asleep | breaksOff asleep => cases silent.idle.symm.trans asleep
  | received waits => exact absurd silent.taken (Nat.ne_of_gt waits)
  | elapsed => exact ⟨⟨next, silent.idle, silent.empty, silent.sending, silent.heard, silent.taken⟩, by simp⟩

theorem Silent.bursting (silent : Silent window initial) (ran : initial.run events = some final)
    (attended : ∀ event ∈ events, event ≠ .closeSource ∧ event ≠ .abandon)
    (ready : ∀ turn ∈ initial.trace events, turn.before.now < turn.after.now → turn.before.reports.waiting = 0)
    (changes : changeTimes (initial.trace events) = first :: later)
    (close : (first :: later).IsChain fun earlier next => next < earlier + window) :
    Bursting window first (later.getLastD first) (events.count .receive) final := by
  induction events generalizing initial with
  | nil => cases changes
  | cons event rest ih =>
    rw [run_cons_iff] at ran
    obtain ⟨next, stepped, ran⟩ := ran
    have moves := step_moves stepped
    rw [trace, turns_cons stepped, List.forall_mem_cons] at ready
    rw [trace, turns_cons stepped, changeTimes_cons] at changes
    rw [List.forall_mem_cons] at attended
    obtain ⟨here, attended⟩ := attended
    obtain ⟨_, ready⟩ := ready
    by_cases change : event = .change
    · subst change
      rw [if_pos rfl] at changes
      cases changes
      rw [List.count_cons_of_ne (by simp)]
      have bursting := (silent.changed moves).run ran attended ready close
      rwa [Nat.zero_add] at bursting
    · rw [if_neg change] at changes
      obtain ⟨silent, other⟩ := silent.stays here change moves
      rw [List.count_cons_of_ne other]
      exact ih silent ran attended ready changes

theorem Stage.ended (stage : Stage window first last made watcher) (orderly : watcher.Orderly window)
    (quiet : watcher.Past (last + 2 * window)) :
    (watcher.debouncer.point = .idle ∧ watcher.debouncer.raw.waiting = 0) ∧
      0 < made ∧ first + made * window ≤ last + window ∧ last + window ≤ first + 2 * (made * window) := by
  cases stage with
  | due idle waits now =>
    have stuck := quiet.stuck (by omega)
    exact absurd (stuck.idle idle).1 (Nat.ne_of_gt waits)
  | sleeps asleep covers within =>
    have later := quiet.before_wake orderly asleep
    omega
  | rests idle empty reported past covers within late soon =>
    exact ⟨⟨idle, empty⟩, reported, Nat.le_trans late within, Nat.le_trans (Nat.add_le_add_right covers window) soon⟩

private theorem changeTimes_length (ran : initial.run events = some final) :
    (changeTimes (initial.trace events)).length = events.count .change := by
  induction events generalizing initial with
  | nil => rfl
  | cons event rest ih =>
    obtain ⟨next, stepped, ran⟩ := run_cons_iff.mp ran
    rw [trace, turns_cons stepped, changeTimes_cons, List.count_cons, ← ih ran]
    by_cases change : event = .change
    · simp [change, trace]
    · simp [change, trace]

/-- A burst is reported as often as its length asks for: at most once a window, and at least once in
two windows. One that is shorter than a window is reported once. There is silence again after it. -/
theorem burst_reports_bounded (burst : Burst window initial events final first later) :
    Silent window final ∧ 0 < events.count .receive ∧ events.count .receive ≤ later.length + 1 ∧
      first + events.count .receive * window ≤ later.getLastD first + window ∧
      later.getLastD first + window ≤ first + 2 * (events.count .receive * window) ∧
      (later.getLastD first < first + window → events.count .receive = 1) := by
  have bursting := burst.silent.bursting burst.ran burst.attended burst.ready burst.changes burst.close
  obtain ⟨⟨idle, empty⟩, reported, late, soon⟩ := bursting.stage.ended bursting.orderly burst.quiet
  rw [burst.taken, Nat.add_zero] at reported late soon
  have accounted := received_accounted burst.ran
  have nothing : outstanding initial = 0 := by
    simp [outstanding, burst.silent.empty, burst.silent.taken, burst.silent.idle, inHand]
  rw [← changeTimes_length burst.ran, burst.changes, List.length_cons, nothing] at accounted
  refine ⟨⟨bursting.orderly, idle, empty, bursting.sending, bursting.heard, burst.taken⟩, reported, by omega, late,
    soon, fun short => ?_⟩
  have fewer : events.count .receive * window < 2 * window := by omega
  have once := Nat.lt_of_mul_lt_mul_right fewer
  omega

/-- The third change comes after the report of the first two. -/
def outlasting : List WatcherEvent :=
  [.change, .proceed, .elapse 60, .change, .elapse 40, .proceed, .receive, .elapse 20, .change, .proceed,
    .elapse 100, .proceed, .receive, .elapse 100]

theorem outlasting_burst : Burst 100 (resting 100 0) outlasting (resting 100 320) 0 [60, 120] where
  silent := ⟨resting_orderly 100 0, rfl, rfl, rfl, rfl, rfl⟩
  ran := by decide
  attended := by decide
  ready := by decide
  changes := by decide
  close := by decide
  quiet := by decide
  taken := rfl

theorem outlasting_reports_bounded :
    Burst 100 (resting 100 0) outlasting (resting 100 320) 0 [60, 120] ∧
      Silent 100 (resting 100 320) ∧ 0 < outlasting.count .receive ∧ outlasting.count .receive ≤ 3 ∧
      0 + outlasting.count .receive * 100 ≤ 120 + 100 ∧
      120 + 100 ≤ 0 + 2 * (outlasting.count .receive * 100) ∧
      (120 < 0 + 100 → outlasting.count .receive = 1) :=
  ⟨outlasting_burst, burst_reports_bounded outlasting_burst⟩

/-- Changes less than a window apart are not always reported once. -/
theorem burst_reported_twice : ¬∀ (window : Nat) (initial final : Watcher) (events : List WatcherEvent)
    (first : Nat) (later : List Nat), Burst window initial events final first later →
    events.count .receive = 1 := fun once =>
  absurd (once 100 _ _ outlasting 0 [60, 120] outlasting_burst) (by decide)

end MockKeeper.Watcher
