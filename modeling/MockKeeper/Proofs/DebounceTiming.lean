import MockKeeper.Proofs.WatcherTraces

/-! A debouncer in time. Each change is covered by a report no later than a window after it, while
reports are tried no closer together than that. What keeps the first is that a sleep
ends a window after the change that began it, and the second that the next sleep begins after it. -/

namespace MockKeeper.Watcher

def sends (turn : Turn) : Bool := turn.input = .proceed && turn.before.debouncer.wake?.isSome

def Past (watcher : Watcher) (moment : Nat) : Prop :=
  moment < watcher.now ∨ moment = watcher.now ∧ watcher.Waits

instance (watcher : Watcher) (moment : Nat) : Decidable (watcher.Past moment) :=
  inferInstanceAs (Decidable (_ ∨ _))

variable {window deadline moment : Nat} {initial final watcher after : Watcher} {event : WatcherEvent}
  {events : List WatcherEvent}

theorem Past.before_wake {wake : Nat} (past : watcher.Past moment) (orderly : watcher.Orderly window)
    (asleep : watcher.debouncer.point = .asleep wake) : moment < wake := by
  have inTime := (orderly.inTime wake asleep).1
  rcases past with late | ⟨rfl, stuck⟩
  · exact Nat.lt_of_lt_of_le late inTime
  · exact stuck.asleep wake asleep

theorem Past.stuck (past : watcher.Past moment) (inTime : watcher.now ≤ moment) : watcher.Waits := by
  rcases past with late | ⟨_, stuck⟩
  · exact absurd inTime (Nat.not_le.mpr late)
  · exact stuck

theorem sends_iff : sends ⟨watcher, event, after⟩ = true ↔
    event = .proceed ∧ ∃ wake, watcher.debouncer.point = .asleep wake := by
  unfold sends Debouncer.wake?
  cases watcher.debouncer.point <;> simp

theorem Moves.stays_unheard (moves : watcher.Moves event after) (gone : watcher.reports.receiverOpen = false) :
    after.reports.receiverOpen = false := by
  cases moves with
  | reports _ _ heard | drops _ _ heard => cases gone.symm.trans heard
  | abandoned => rfl
  | _ => exact gone

/-- A report is due by the deadline, if anybody is there to take it. -/
inductive Due (deadline : Nat) (watcher : Watcher) : Prop
  | unheard (gone : watcher.reports.receiverOpen = false)
  | idle (idle : watcher.debouncer.point = .idle) (waits : 0 < watcher.debouncer.raw.waiting)
      (soon : watcher.now + watcher.debouncer.window ≤ deadline)
  | asleep {wake : Nat} (asleep : watcher.debouncer.point = .asleep wake) (soon : wake ≤ deadline)

/-- A report is tried by the deadline, and one waits after that. -/
structure Tells (deadline : Nat) (turn : Turn) : Prop where
  sends : sends turn = true
  waits : 0 < turn.after.reports.waiting
  inTime : turn.before.now ≤ deadline

theorem Moves.due (moves : watcher.Moves event after) (orderly : watcher.Orderly window)
    (due : Due deadline watcher) : Tells deadline ⟨watcher, event, after⟩ ∨ Due deadline after := by
  cases due with
  | unheard gone => exact .inr (.unheard (moves.stays_unheard gone))
  | idle idle waits soon =>
    refine .inr ?_
    cases moves with
    | queued => exact .idle idle (Nat.succ_pos _) soon
    | missed | sourceClosed | received => exact .idle idle waits soon
    | dozes => exact .asleep rfl soon
    | ends _ ended => simp [ChangeStream.ended, Nat.ne_of_gt waits] at ended
    | reports asleep | drops asleep | breaksOff asleep => cases idle.symm.trans asleep
    | abandoned => exact .unheard rfl
    | elapsed stuck => exact absurd (stuck.idle idle).1 (Nat.ne_of_gt waits)
  | @asleep wake asleep soon =>
    have inTime : watcher.now ≤ deadline := Nat.le_trans (orderly.inTime wake asleep).1 soon
    cases moves with
    | queued | missed | sourceClosed | received | elapsed => exact .inr (.asleep asleep soon)
    | dozes idle | ends idle => cases asleep.symm.trans idle
    | reports => exact .inl ⟨sends_iff.mpr ⟨rfl, wake, asleep⟩, Nat.succ_pos _, inTime⟩
    | drops _ _ _ full =>
      rw [orderly.single] at full
      exact .inl ⟨sends_iff.mpr ⟨rfl, wake, asleep⟩, full, inTime⟩
    | breaksOff _ _ unheard => exact .inr (.unheard unheard)
    | abandoned => exact .inr (.unheard rfl)

theorem told_by_deadline (orderly : initial.Orderly window) (due : Due deadline initial)
    (ran : initial.run events = some final) :
    (∃ turn ∈ initial.trace events, Tells deadline turn) ∨ Due deadline final := by
  induction events generalizing initial with
  | nil =>
    cases ran
    exact .inr due
  | cons event rest ih =>
    obtain ⟨next, stepped, ran⟩ := run_cons_iff.mp ran
    have moves := step_moves stepped
    rw [trace, turns_cons stepped]
    cases moves.due orderly due with
    | inl tells => exact .inl ⟨_, List.mem_cons_self, tells⟩
    | inr due =>
      refine (ih (moves.orderly orderly) due ran).imp_left ?_
      rintro ⟨turn, member, tells⟩
      exact ⟨turn, List.mem_cons_of_mem _ member, tells⟩

theorem Due.not_past (due : Due deadline watcher) (orderly : watcher.Orderly window)
    (heard : watcher.reports.receiverOpen = true) : ¬watcher.Past deadline := by
  intro past
  cases due with
  | unheard gone => cases gone.symm.trans heard
  | idle idle waits soon =>
    have stuck := past.stuck (Nat.le_trans (Nat.le_add_right _ _) soon)
    exact absurd (stuck.idle idle).1 (Nat.ne_of_gt waits)
  | asleep asleep soon => exact absurd soon (Nat.not_le.mpr (past.before_wake orderly asleep))

theorem change_due (orderly : watcher.Orderly window) (sending : watcher.debouncer.raw.senderOpen = true)
    (moves : watcher.Moves .change after) : Due (watcher.now + window) after := by
  cases point : watcher.debouncer.point with
  | idle =>
    have waits := moves.waits_after_change orderly point
    rw [← orderly.lasting]
    cases moves <;> exact .idle point waits (Nat.le_refl _)
  | asleep wake =>
    have soon := (orderly.inTime wake point).2
    cases moves <;> exact .asleep point soon
  | stopped =>
    rcases (orderly.finished point).2 with closed | gone
    · cases closed.symm.trans sending
    · exact .unheard (moves.stays_unheard gone)

/-- No report is tried before the moment. -/
structure Spares (moment : Nat) (watcher : Watcher) : Prop where
  idle : watcher.debouncer.point = .idle → moment ≤ watcher.now + watcher.debouncer.window
  asleep : ∀ wake, watcher.debouncer.point = .asleep wake → moment ≤ wake

theorem Moves.spares (moves : watcher.Moves event after) (spares : Spares moment watcher) :
    Spares moment after := by
  cases moves with
  | queued | missed | sourceClosed | received | abandoned => exact ⟨spares.idle, spares.asleep⟩
  | dozes idle =>
    refine ⟨nofun, fun wake asleep => ?_⟩
    cases asleep
    exact spares.idle idle
  | ends | breaksOff => exact ⟨nofun, nofun⟩
  | reports asleep due | drops asleep due =>
    exact ⟨fun _ => Nat.le_add_right_of_le (Nat.le_trans (spares.asleep _ asleep) due), nofun⟩
  | elapsed =>
    refine ⟨fun idle => ?_, spares.asleep⟩
    have soon := spares.idle idle
    simp only
    omega

private theorem Moves.due_to_wake {wake : Nat} (moves : watcher.Moves .proceed after)
    (asleep : watcher.debouncer.point = .asleep wake) : wake ≤ watcher.now := by
  cases moves with
  | dozes idle | ends idle => cases asleep.symm.trans idle
  | reports other due | drops other due | breaksOff other due =>
    cases asleep.symm.trans other
    exact due

theorem spared_until (spares : Spares moment initial) (ran : initial.run events = some final) :
    ∀ turn ∈ (initial.trace events).filter sends, moment ≤ turn.before.now := by
  rintro ⟨before, input, after⟩ member
  obtain ⟨member, sending⟩ := List.mem_filter.mp member
  obtain ⟨stepped, first, last, _, reached, _⟩ := runAll_around ran member
  obtain ⟨rfl, wake, asleep⟩ := sends_iff.mp sending
  have spares : Spares moment before :=
    runAll_keeps (fun _ _ _ stepped spares => (step_moves stepped).spares spares) reached spares
  exact Nat.le_trans (spares.asleep wake asleep) ((step_moves stepped).due_to_wake asleep)

theorem Moves.spares_next (moves : watcher.Moves event after) (sending : sends ⟨watcher, event, after⟩ = true) :
    Spares (watcher.now + watcher.debouncer.window) after := by
  obtain ⟨rfl, wake, asleep⟩ := sends_iff.mp sending
  cases moves with
  | dozes idle | ends idle => cases asleep.symm.trans idle
  | reports | drops => exact ⟨fun _ => Nat.le_refl _, nofun⟩
  | breaksOff => exact ⟨nofun, nofun⟩

theorem sends_spaced (orderly : initial.Orderly window) (ran : initial.run events = some final) :
    ((initial.trace events).filter sends).Pairwise fun earlier later =>
      earlier.before.now + window ≤ later.before.now := by
  induction events generalizing initial with
  | nil => exact .nil
  | cons event rest ih =>
    obtain ⟨next, stepped, ran⟩ := run_cons_iff.mp ran
    have moves := step_moves stepped
    have later := ih (moves.orderly orderly) ran
    rw [trace, turns_cons stepped]
    by_cases sending : sends ⟨initial, event, next⟩ = true
    · rw [List.filter_cons_of_pos sending]
      have spares := moves.spares_next sending
      rw [orderly.lasting] at spares
      exact .cons (spared_until spares ran) later
    · rwa [List.filter_cons_of_neg sending]

def inHand : DebouncePoint → Nat
  | .asleep _ => 1
  | _ => 0

/-- The reports that can still be received without another change. -/
def outstanding (watcher : Watcher) : Nat :=
  watcher.debouncer.raw.waiting + inHand watcher.debouncer.point + watcher.reports.waiting

theorem Moves.accounted (moves : watcher.Moves event after) :
    outstanding after + (if event == .receive then 1 else 0) ≤
      outstanding watcher + (if event == .change then 1 else 0) := by
  unfold outstanding
  cases moves <;> simp only [beq_iff_eq, reduceCtorEq, if_true, if_false, Debouncer.closeSource, Debouncer.stop,
    ChangeStream.close, ChangeStream.abandon, ChangeStream.drain, inHand, *] <;> omega

theorem received_accounted (ran : initial.run events = some final) :
    outstanding final + events.count .receive ≤ outstanding initial + events.count .change := by
  induction events generalizing initial with
  | nil =>
    cases ran
    exact Nat.le_refl _
  | cons event rest ih =>
    obtain ⟨next, stepped, ran⟩ := run_cons_iff.mp ran
    have first := (step_moves stepped).accounted
    have later := ih ran
    simp only [List.count_cons]
    omega

end MockKeeper.Watcher
