import MockKeeper.Proofs.DebounceTiming

/-! How a debouncer comes to its end. It hears of a closed source once it has reported all changes,
and of a taker that went away when it tries to report, never otherwise. -/

namespace MockKeeper.Watcher

variable {window deadline : Nat} {initial final watcher after : Watcher} {event : WatcherEvent}
  {events : List WatcherEvent}

/-- Nobody will make a change any more, and by the deadline the debouncer has stopped. -/
structure Closing (deadline : Nat) (watcher : Watcher) : Prop where
  closed : watcher.debouncer.raw.senderOpen = false
  idle : watcher.debouncer.point = .idle → watcher.now ≤ deadline ∧
    (watcher.debouncer.raw.waiting = 0 ∨ watcher.now + watcher.debouncer.window ≤ deadline)
  asleep : ∀ wake, watcher.debouncer.point = .asleep wake → wake ≤ deadline

theorem Moves.closing (moves : watcher.Moves event after) (orderly : watcher.Orderly window)
    (unchanged : event ≠ .change) (closing : Closing deadline watcher) : Closing deadline after := by
  cases moves with
  | queued | missed => exact absurd rfl unchanged
  | sourceClosed => exact ⟨rfl, closing.idle, closing.asleep⟩
  | dozes idle waits =>
    refine ⟨closing.closed, nofun, fun wake asleep => ?_⟩
    cases asleep
    exact (closing.idle idle).2.resolve_left (Nat.ne_of_gt waits)
  | ends | breaksOff => exact ⟨closing.closed, nofun, nofun⟩
  | reports asleep | drops asleep =>
    have inTime := Nat.le_trans (orderly.inTime _ asleep).1 (closing.asleep _ asleep)
    exact ⟨closing.closed, fun _ => ⟨inTime, .inl rfl⟩, nofun⟩
  | received | abandoned => exact ⟨closing.closed, closing.idle, closing.asleep⟩
  | elapsed stuck =>
    refine ⟨closing.closed, fun idle => ?_, closing.asleep⟩
    cases (stuck.idle idle).2.symm.trans closing.closed

theorem Closing.stopped (closing : Closing deadline watcher) (orderly : watcher.Orderly window)
    (past : watcher.Past deadline) : watcher.debouncer.point = .stopped := by
  cases point : watcher.debouncer.point with
  | idle =>
    have stuck := past.stuck (closing.idle point).1
    cases (stuck.idle point).2.symm.trans closing.closed
  | asleep wake => exact absurd (closing.asleep wake point) (Nat.not_le.mpr (past.before_wake orderly point))
  | stopped => rfl

theorem stopped_after_close (orderly : watcher.Orderly window)
    (ran : watcher.run (.closeSource :: events) = some final) (unchanged : .change ∉ events)
    (past : final.Past (watcher.now + window)) : final.debouncer.point = .stopped := by
  obtain ⟨next, stepped, ran⟩ := run_cons_iff.mp ran
  have moves := step_moves stepped
  have closing : Closing (watcher.now + window) next := by
    cases moves
    refine ⟨rfl, fun _ => ⟨Nat.le_add_right _ _, .inr ?_⟩, fun wake asleep => (orderly.inTime wake asleep).2⟩
    exact Nat.le_of_eq (congrArg _ orderly.lasting)
  have kept : final.Orderly window ∧ Closing (watcher.now + window) final := by
    refine runAll_keeps_within (motive := fun watcher => watcher.Orderly window ∧ Closing _ watcher)
      (fun before input member after stepped both => ?_) ran ⟨moves.orderly orderly, closing⟩
    have moves := step_moves stepped
    exact ⟨moves.orderly both.1, moves.closing both.1 (fun change => unchanged (change ▸ member)) both.2⟩
  exact kept.2.stopped kept.1 past

/-- Nothing can be received from the stream any more, at the latest after what waits there. -/
def RunsOut (watcher : Watcher) : Prop :=
  watcher.reports.ended = true ∨ ∃ next, watcher.step .receive = some next ∧ next.reports.ended = true

theorem Orderly.runsOut (orderly : watcher.Orderly window) (stopped : watcher.debouncer.point = .stopped) :
    watcher.RunsOut := by
  have closed := (orderly.finished stopped).1
  by_cases waits : 0 < watcher.reports.waiting
  · have single := orderly.waiting
    refine .inr ⟨_, by simp only [step, ChangeStream.take, if_pos waits]; rfl, ?_⟩
    simp [ChangeStream.ended, closed, single]
  · exact .inl (by simp [ChangeStream.ended, closed, Nat.eq_zero_of_not_pos waits])

theorem Moves.stops_iff (moves : watcher.Moves event after) (going : watcher.debouncer.point ≠ .stopped) :
    after.debouncer.point = .stopped ↔ event = .proceed ∧
      ((∃ wake, watcher.debouncer.point = .asleep wake) ∧ watcher.reports.receiverOpen = false ∨
        watcher.debouncer.point = .idle ∧ watcher.debouncer.raw.ended = true) := by
  cases moves with
  | queued | missed | sourceClosed | received | abandoned | elapsed => simpa [Debouncer.closeSource] using going
  | dozes idle waits => simp [idle, ChangeStream.ended, Nat.ne_of_gt waits]
  | ends idle ended => simp [idle, ended, Debouncer.stop]
  | reports asleep _ heard | drops asleep _ heard => simp [asleep, heard]
  | breaksOff asleep _ unheard => simp [asleep, unheard, Debouncer.stop]

theorem Moves.stays_stopped (moves : watcher.Moves event after) (stopped : watcher.debouncer.point = .stopped) :
    after.debouncer.point = .stopped := by
  cases moves with
  | dozes other | ends other | reports other | drops other | breaksOff other => cases stopped.symm.trans other
  | _ => exact stopped

theorem stopped_sends_nothing (stopped : initial.debouncer.point = .stopped)
    (ran : initial.run events = some final) :
    (initial.trace events).filter sends = [] ∧ final.debouncer.point = .stopped := by
  have kept {first : List WatcherEvent} {before : Watcher} (reached : initial.run first = some before) :
      before.debouncer.point = .stopped :=
    runAll_keeps (motive := fun watcher => watcher.debouncer.point = .stopped)
      (fun _ _ _ stepped stopped => (step_moves stepped).stays_stopped stopped) reached stopped
  refine ⟨List.filter_eq_nil_iff.mpr ?_, kept ran⟩
  rintro ⟨before, input, after⟩ member sending
  obtain ⟨_, _, _, _, reached, _⟩ := runAll_around ran member
  obtain ⟨_, wake, asleep⟩ := sends_iff.mp sending
  cases (kept reached).symm.trans asleep

theorem unheard_sends_once (gone : initial.reports.receiverOpen = false) (ran : initial.run events = some final) :
    ((initial.trace events).filter sends).length ≤ 1 ∧
      ((initial.trace events).filter sends ≠ [] → final.debouncer.point = .stopped) := by
  induction events generalizing initial with
  | nil => exact ⟨Nat.zero_le 1, fun sent => absurd rfl sent⟩
  | cons event rest ih =>
    obtain ⟨next, stepped, ran⟩ := run_cons_iff.mp ran
    have moves := step_moves stepped
    rw [trace, turns_cons stepped]
    by_cases sending : sends ⟨initial, event, next⟩ = true
    · obtain ⟨proceeds, wake, asleep⟩ := sends_iff.mp sending
      have stopped := (moves.stops_iff (by simp [asleep])).mpr ⟨proceeds, .inl ⟨⟨wake, asleep⟩, gone⟩⟩
      obtain ⟨silent, ended⟩ := stopped_sends_nothing stopped ran
      rw [trace] at silent
      rw [List.filter_cons_of_pos sending, silent]
      exact ⟨Nat.le_refl 1, fun _ => ended⟩
    · rw [List.filter_cons_of_neg sending]
      exact ih (moves.stays_unheard gone) ran

end MockKeeper.Watcher
