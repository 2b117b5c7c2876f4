import MockKeeper.Watch.Debounce
import MockKeeper.Proofs.Traces

/-! Runs of a debouncer between those who make changes and the one who takes its reports. Time
passes only when the debouncer has nothing to do, and never past the end of its sleep. -/

namespace MockKeeper.Watcher

abbrev Turn := MockKeeper.Turn Watcher WatcherEvent

def run (watcher : Watcher) (events : List WatcherEvent) : Option Watcher := runAll step watcher events

def trace (watcher : Watcher) (events : List WatcherEvent) : List Turn := turns step watcher events

def resting (window start : Nat) : Watcher := { debouncer := { window }, now := start }

structure Waits (watcher : Watcher) : Prop where
  idle : watcher.debouncer.point = .idle →
    watcher.debouncer.raw.waiting = 0 ∧ watcher.debouncer.raw.senderOpen = true
  asleep : ∀ wake, watcher.debouncer.point = .asleep wake → watcher.now < wake

inductive Moves (watcher : Watcher) : WatcherEvent → Watcher → Prop
  | queued (heard : watcher.debouncer.raw.receiverOpen = true)
      (room : watcher.debouncer.raw.waiting < watcher.debouncer.raw.capacity) :
      Moves watcher .change { watcher with debouncer := { watcher.debouncer with
        raw := { watcher.debouncer.raw with waiting := watcher.debouncer.raw.waiting + 1 } } }
  | missed (shut : watcher.debouncer.raw.receiverOpen = false ∨
        watcher.debouncer.raw.capacity ≤ watcher.debouncer.raw.waiting) :
      Moves watcher .change watcher
  | sourceClosed : Moves watcher .closeSource { watcher with debouncer := watcher.debouncer.closeSource }
  | dozes (idle : watcher.debouncer.point = .idle) (waits : 0 < watcher.debouncer.raw.waiting) :
      Moves watcher .proceed { watcher with debouncer := { watcher.debouncer with
        raw := { watcher.debouncer.raw with waiting := watcher.debouncer.raw.waiting - 1 }
        point := .asleep (watcher.now + watcher.debouncer.window) } }
  | ends (idle : watcher.debouncer.point = .idle) (ended : watcher.debouncer.raw.ended = true) :
      Moves watcher .proceed { watcher with
        debouncer := (watcher.debouncer.stop watcher.reports).1, reports := watcher.reports.close }
  | reports {wake : Nat} (asleep : watcher.debouncer.point = .asleep wake) (due : wake ≤ watcher.now)
      (heard : watcher.reports.receiverOpen = true) (room : watcher.reports.waiting < watcher.reports.capacity) :
      Moves watcher .proceed { watcher with
        debouncer := { watcher.debouncer with raw := watcher.debouncer.raw.drain, point := .idle }
        reports := { watcher.reports with waiting := watcher.reports.waiting + 1 } }
  | drops {wake : Nat} (asleep : watcher.debouncer.point = .asleep wake) (due : wake ≤ watcher.now)
      (heard : watcher.reports.receiverOpen = true) (full : watcher.reports.capacity ≤ watcher.reports.waiting) :
      Moves watcher .proceed { watcher with
        debouncer := { watcher.debouncer with raw := watcher.debouncer.raw.drain, point := .idle } }
  | breaksOff {wake : Nat} (asleep : watcher.debouncer.point = .asleep wake) (due : wake ≤ watcher.now)
      (unheard : watcher.reports.receiverOpen = false) :
      Moves watcher .proceed { watcher with
        debouncer := (watcher.debouncer.stop watcher.reports).1, reports := watcher.reports.close }
  | received (waits : 0 < watcher.reports.waiting) :
      Moves watcher .receive { watcher with
        reports := { watcher.reports with waiting := watcher.reports.waiting - 1 } }
  | abandoned : Moves watcher .abandon { watcher with reports := watcher.reports.abandon }
  | elapsed {span : Nat} (waits : watcher.Waits)
      (inTime : ∀ wake, watcher.debouncer.point = .asleep wake → watcher.now + span ≤ wake) :
      Moves watcher (.elapse span) { watcher with now := watcher.now + span }

variable {watcher after initial final : Watcher} {event : WatcherEvent} {events : List WatcherEvent}

theorem run_cons_iff : watcher.run (event :: events) = some final ↔
    ∃ next, watcher.step event = some next ∧ next.run events = some final :=
  runAll_cons_eq_some

theorem run_split {first last : List WatcherEvent} (ran : initial.run (first ++ last) = some final)
    (reached : initial.run first = some watcher) : watcher.run last = some final := by
  rwa [run, runAll_append, ← run, reached] at ran

theorem waits_iff : watcher.Waits ↔ watcher.debouncer.proceed watcher.reports watcher.now = none := by
  have meaning : watcher.Waits ↔ (watcher.debouncer.point = .idle →
        watcher.debouncer.raw.waiting = 0 ∧ watcher.debouncer.raw.senderOpen = true) ∧
      ∀ wake, watcher.debouncer.point = .asleep wake → watcher.now < wake :=
    ⟨fun waits => ⟨waits.idle, waits.asleep⟩, fun ⟨idle, asleep⟩ => ⟨idle, asleep⟩⟩
  rw [meaning]
  unfold Debouncer.proceed
  cases watcher.debouncer.point with
  | idle =>
    by_cases waits : 0 < watcher.debouncer.raw.waiting
    · simp [ChangeStream.take, waits, Nat.ne_of_gt waits]
    · have empty : watcher.debouncer.raw.waiting = 0 := by omega
      simp [ChangeStream.take, ChangeStream.ended, empty]
  | asleep wake =>
    by_cases due : wake ≤ watcher.now
    · simp only [if_pos due]
      have late : ¬watcher.now < wake := Nat.not_lt.mpr due
      split <;> simp [late]
    · simp [due, Nat.lt_of_not_le due]
  | stopped => simp

instance (watcher : Watcher) : Decidable watcher.Waits := decidable_of_iff _ waits_iff.symm

private theorem offer_cases (stream : ChangeStream) :
    stream.receiverOpen = false ∧ stream.offer = (.closed, stream) ∨
    stream.receiverOpen = true ∧ stream.waiting < stream.capacity ∧
      stream.offer = (.accepted, { stream with waiting := stream.waiting + 1 }) ∨
    stream.receiverOpen = true ∧ stream.capacity ≤ stream.waiting ∧ stream.offer = (.full, stream) := by
  unfold ChangeStream.offer
  cases heard : stream.receiverOpen with
  | false => exact .inl ⟨rfl, rfl⟩
  | true =>
    by_cases room : stream.waiting < stream.capacity
    · exact .inr (.inl ⟨rfl, room, if_pos room⟩)
    · exact .inr (.inr ⟨rfl, Nat.le_of_not_lt room, if_neg room⟩)

private theorem change_moves : watcher.Moves .change { watcher with debouncer := watcher.debouncer.change } := by
  rcases offer_cases watcher.debouncer.raw with ⟨shut, offered⟩ | ⟨heard, room, offered⟩ | ⟨_, full, offered⟩
  · have same : watcher.debouncer.change = watcher.debouncer := by rw [Debouncer.change, offered]
    rw [same]
    exact .missed (.inl shut)
  · rw [Debouncer.change, offered]
    exact .queued heard room
  · have same : watcher.debouncer.change = watcher.debouncer := by rw [Debouncer.change, offered]
    rw [same]
    exact .missed (.inr full)

private theorem proceed_moves {debouncer : Debouncer} {reports : ChangeStream}
    (proceeded : watcher.debouncer.proceed watcher.reports watcher.now = some (debouncer, reports)) :
    watcher.Moves .proceed { watcher with debouncer, reports } := by
  unfold Debouncer.proceed at proceeded
  split at proceeded
  next idle =>
    by_cases waits : 0 < watcher.debouncer.raw.waiting
    · rw [show watcher.debouncer.raw.take = some _ from if_pos waits] at proceeded
      cases proceeded
      exact .dozes idle waits
    · rw [show watcher.debouncer.raw.take = none from if_neg waits] at proceeded
      dsimp only at proceeded
      split at proceeded
      next ended =>
        cases proceeded
        exact .ends idle ended
      next => cases proceeded
  next wake asleep =>
    split at proceeded
    next due =>
      rcases offer_cases watcher.reports with ⟨unheard, offered⟩ | ⟨heard, room, offered⟩ | ⟨heard, full, offered⟩
      · rw [offered] at proceeded
        cases proceeded
        exact .breaksOff asleep due unheard
      · rw [offered] at proceeded
        cases proceeded
        exact .reports asleep due heard room
      · rw [offered] at proceeded
        cases proceeded
        exact .drops asleep due heard full
    next => cases proceeded
  next => cases proceeded

theorem step_moves (stepped : watcher.step event = some after) : watcher.Moves event after := by
  cases event with
  | change =>
    cases stepped
    exact change_moves
  | closeSource =>
    cases stepped
    exact .sourceClosed
  | proceed =>
    obtain ⟨_, proceeded, rfl⟩ := Option.map_eq_some_iff.mp stepped
    exact proceed_moves proceeded
  | receive =>
    obtain ⟨_, taken, rfl⟩ := Option.map_eq_some_iff.mp stepped
    simp only [ChangeStream.take, Option.ite_none_right_eq_some, Option.some.injEq] at taken
    obtain ⟨waits, rfl⟩ := taken
    exact .received waits
  | abandon =>
    cases stepped
    exact .abandoned
  | elapse span =>
    obtain ⟨idle, rfl⟩ : watcher.idleFor span = true ∧ { watcher with now := watcher.now + span } = after := by
      simpa only [step, Option.ite_none_right_eq_some, Option.some.injEq] using stepped
    simp only [idleFor, Bool.and_eq_true, Option.isNone_iff_eq_none] at idle
    refine .elapsed (waits_iff.mpr idle.1) fun wake asleep => ?_
    have inTime := idle.2
    simp only [Debouncer.wake?, asleep, Option.all_some, decide_eq_true_eq] at inTime
    exact inTime

structure Orderly (window : Nat) (watcher : Watcher) : Prop where
  lasting : watcher.debouncer.window = window
  roomy : 0 < watcher.debouncer.raw.capacity
  single : watcher.reports.capacity = 1
  waiting : watcher.reports.waiting ≤ 1
  inTime : ∀ wake, watcher.debouncer.point = .asleep wake → watcher.now ≤ wake ∧ wake ≤ watcher.now + window
  listens : watcher.debouncer.point ≠ .stopped → watcher.debouncer.raw.receiverOpen = true
  /-- A debouncer that stopped had nobody to listen to or nobody to tell. -/
  finished : watcher.debouncer.point = .stopped → watcher.reports.senderOpen = false ∧
    (watcher.debouncer.raw.senderOpen = false ∨ watcher.reports.receiverOpen = false)

variable {window : Nat}

theorem resting_orderly (window start : Nat) : (resting window start).Orderly window where
  lasting := rfl
  roomy := Nat.succ_pos 63
  single := rfl
  waiting := Nat.zero_le 1
  inTime := by simp [resting]
  listens := fun _ => rfl
  finished := by simp [resting]

theorem Moves.orderly (moves : watcher.Moves event after) (orderly : watcher.Orderly window) :
    after.Orderly window := by
  cases moves with
  | queued heard room =>
    exact ⟨orderly.lasting, orderly.roomy, orderly.single, orderly.waiting, orderly.inTime, fun _ => heard,
      orderly.finished⟩
  | missed => exact orderly
  | sourceClosed => exact { orderly with finished := fun stopped => ⟨(orderly.finished stopped).1, .inl rfl⟩ }
  | dozes idle waits =>
    refine { orderly with inTime := fun wake asleep => ?_, listens := fun _ => ?_, finished := nofun }
    · cases asleep
      rw [← orderly.lasting]
      exact ⟨Nat.le_add_right _ _, Nat.le_refl _⟩
    · exact orderly.listens (by simp [idle])
  | ends idle ended =>
    refine { orderly with inTime := nofun, listens := fun going => absurd rfl going, finished := fun _ => ?_ }
    simp only [ChangeStream.ended, Bool.and_eq_true, Bool.not_eq_true'] at ended
    exact ⟨rfl, .inl ended.1⟩
  | reports asleep due heard room =>
    have waiting : watcher.reports.waiting + 1 ≤ 1 := by
      have single := orderly.single
      omega
    exact { orderly with
      waiting, inTime := nofun, listens := fun _ => orderly.listens (by simp [asleep]), finished := nofun }
  | drops asleep due heard full =>
    exact { orderly with inTime := nofun, listens := fun _ => orderly.listens (by simp [asleep]), finished := nofun }
  | breaksOff asleep due unheard =>
    exact { orderly with
      inTime := nofun, listens := fun going => absurd rfl going, finished := fun _ => ⟨rfl, .inr unheard⟩ }
  | received => exact { orderly with waiting := Nat.le_trans (Nat.sub_le _ _) orderly.waiting }
  | abandoned =>
    exact { orderly with
      waiting := Nat.zero_le 1, finished := fun stopped => ⟨(orderly.finished stopped).1, .inr rfl⟩ }
  | elapsed waits inTime =>
    refine { orderly with inTime := fun wake asleep => ⟨inTime wake asleep, ?_⟩ }
    have soon := (orderly.inTime wake asleep).2
    simp only
    omega

/-- The first queue is full only while something waits in it, so a change never goes unnoticed. -/
theorem Moves.waits_after_change (moves : watcher.Moves .change after) (orderly : watcher.Orderly window)
    (idle : watcher.debouncer.point = .idle) : 0 < after.debouncer.raw.waiting := by
  cases moves with
  | queued => exact Nat.succ_pos _
  | missed shut =>
    rcases shut with shut | full
    · cases shut.symm.trans (orderly.listens (by simp [idle]))
    · exact Nat.lt_of_lt_of_le orderly.roomy full

theorem run_orderly (orderly : initial.Orderly window) (ran : initial.run events = some final) :
    final.Orderly window :=
  runAll_keeps (fun _ _ _ stepped before => (step_moves stepped).orderly before) ran orderly

end MockKeeper.Watcher
