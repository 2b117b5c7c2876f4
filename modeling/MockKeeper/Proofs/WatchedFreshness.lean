import MockKeeper.Loop.Watched
import MockKeeper.Proofs.SessionFreshness
import MockKeeper.Proofs.SessionSettling

/-! A directory change is never lost. It may find one queue full, be drained from it with
others, or find the next queue full, but then something that came earlier and is still
under way leads to a launch that comes after it. -/

namespace MockKeeper.WatchedSession
open Session Engine

def run (watched : WatchedSession) (events : List WatchedEvent) : Option WatchedSession :=
  runAll step watched events

structure Fresh (watched : WatchedSession) : Prop where
  session : watched.session.Fresh
  watching : watched.session.watching = true
  changes : watched.session.changes = { capacity := 1 }
  debouncer : watched.debouncer = { window := watched.debouncer.window }

structure Settled (watched : WatchedSession) : Prop where
  session : watched.session.Settled
  debouncer : ∀ moment, watched.now ≤ moment →
    watched.debouncer.proceed watched.session.changes moment = none

/-- The debouncer has nothing to do, and does not sleep. -/
def rests (debouncer : Debouncer) : Bool :=
  match debouncer.point with
  | .idle => debouncer.raw.waiting == 0 && debouncer.raw.senderOpen
  | .asleep _ => false
  | .stopped => true

theorem rests_iff {debouncer : Debouncer} {reports : ChangeStream} {now : Nat} :
    rests debouncer = true ↔ ∀ moment, now ≤ moment → debouncer.proceed reports moment = none := by
  unfold rests Debouncer.proceed
  cases point : debouncer.point with
  | idle =>
    simp only [ChangeStream.take, ChangeStream.ended]
    constructor
    · intro nothing moment _
      simp only [Bool.and_eq_true, beq_iff_eq] at nothing
      simp [nothing.1, nothing.2]
    · intro stuck
      have next := stuck now (Nat.le_refl _)
      by_cases waits : 0 < debouncer.raw.waiting
      · simp [waits] at next
      · cases sender : debouncer.raw.senderOpen <;> simp_all
  | asleep wake =>
    simp only [Bool.false_eq_true, false_iff]
    intro stuck
    have due := stuck (max now wake) (Nat.le_max_left _ _)
    simp only [Nat.le_max_right, if_true] at due
    split at due <;> cases due
  | stopped => simp

instance (watched : WatchedSession) : Decidable watched.Settled :=
  decidable_of_iff (watched.session.Settled ∧ rests watched.debouncer = true)
    ⟨fun ⟨session, idle⟩ => ⟨session, rests_iff.mp idle⟩, fun ⟨session, idle⟩ => ⟨session, rests_iff.mpr idle⟩⟩

variable {watched after : WatchedSession}

inductive Debounces (debouncer : Debouncer) (reports : ChangeStream) (now : Nat) :
    Debouncer → ChangeStream → Prop
  | wakes {raw : ChangeStream} (idle : debouncer.point = .idle) (taken : debouncer.raw.take = some raw) :
      Debounces debouncer reports now
        { debouncer with raw, point := .asleep (now + debouncer.window) } reports
  | drops {wake : Nat} (asleep : debouncer.point = .asleep wake) (due : wake ≤ now)
      (listened : reports.receiverOpen = true) (full : reports.capacity ≤ reports.waiting) :
      Debounces debouncer reports now { debouncer with raw := debouncer.raw.drain, point := .idle } reports
  | reports {wake : Nat} (asleep : debouncer.point = .asleep wake) (due : wake ≤ now)
      (listened : reports.receiverOpen = true) (room : reports.waiting < reports.capacity) :
      Debounces debouncer reports now { debouncer with raw := debouncer.raw.drain, point := .idle }
        { reports with waiting := reports.waiting + 1 }
  | stops (unheard : debouncer.raw.ended = true ∨ reports.receiverOpen = false) :
      Debounces debouncer reports now
        { debouncer with raw := debouncer.raw.abandon, point := .stopped } reports.close

theorem proceed_debounces {debouncer next : Debouncer} {reports later : ChangeStream} {now : Nat}
    (proceeded : debouncer.proceed reports now = some (next, later)) :
    Debounces debouncer reports now next later := by
  unfold Debouncer.proceed at proceeded
  split at proceeded
  next idle =>
    split at proceeded
    next raw taken =>
      cases proceeded
      exact .wakes idle taken
    next =>
      split at proceeded
      next ended =>
        cases proceeded
        exact .stops (.inl ended)
      next => cases proceeded
  next wake asleep =>
    split at proceeded
    next due =>
      cases listened : reports.receiverOpen with
      | false =>
        simp only [ChangeStream.offer, listened] at proceeded
        cases proceeded
        exact .stops (.inr listened)
      | true =>
        by_cases room : reports.waiting < reports.capacity
        · have offered : reports.offer = (.accepted, { reports with waiting := reports.waiting + 1 }) :=
            (if_neg (by simp [listened])).trans (if_pos room)
          rw [offered] at proceeded
          cases proceeded
          exact .reports asleep due listened room
        · have offered : reports.offer = (.full, reports) := (if_neg (by simp [listened])).trans (if_neg room)
          rw [offered] at proceeded
          cases proceeded
          exact .drops asleep due listened (Nat.le_of_not_lt room)
    next => cases proceeded
  next => cases proceeded

inductive Moves (watched : WatchedSession) : WatchedEvent → WatchedSession → Prop
  | session {event : SessionEvent} {session : Session} (stepped : watched.session.step event = some session) :
      Moves watched (.session event) { watched with session }
  | rawChange : Moves watched .rawChange { watched with debouncer := watched.debouncer.change }
  | debounce {debouncer : Debouncer} {changes : ChangeStream}
      (debounces : Debounces watched.debouncer watched.session.changes watched.now debouncer changes) :
      Moves watched .debounce { watched with debouncer, session := { watched.session with changes } }
  | elapse {span : Nat} : Moves watched (.elapse span) { watched with now := watched.now + span }

theorem step_moves {event : WatchedEvent} (moved : watched.step event = some after) :
    watched.Moves event after := by
  cases event with
  | session event =>
    simp only [step] at moved
    split at moved
    next =>
      obtain ⟨session, stepped, rfl⟩ := Option.map_eq_some_iff.mp moved
      exact .session stepped
    next => cases moved
  | rawChange => cases moved; exact .rawChange
  | debounce =>
    obtain ⟨⟨debouncer, changes⟩, proceeded, rfl⟩ := Option.map_eq_some_iff.mp moved
    exact .debounce (proceed_debounces proceeded)
  | elapse span => cases moved; exact .elapse

/-- A debouncer is to a session what the changes, and the end of them, are. -/
theorem Moves.projects {event : WatchedEvent} (moved : watched.Moves event after) :
    ∃ events, watched.session.run events = some after.session := by
  cases moved with
  | @session event session stepped => exact ⟨[event], runAll_cons_eq_some.mpr ⟨session, stepped, rfl⟩⟩
  | rawChange | elapse => exact ⟨[], rfl⟩
  | debounce debounces =>
    cases debounces with
    | wakes | drops => exact ⟨[], rfl⟩
    | reports asleep due listened room =>
      refine ⟨[.change], ?_⟩
      have offered : watched.session.changes.offer = (.accepted,
          { watched.session.changes with waiting := watched.session.changes.waiting + 1 }) :=
        (if_neg (by simp [listened])).trans (if_pos room)
      simp [Session.run, runAll, Session.step, offered]
    | stops =>
      cases unfinished : watched.session.changes.senderOpen with
      | true => exact ⟨[.closeWatcher], by simp [Session.run, runAll, Session.step, unfinished]⟩
      | false =>
        refine ⟨[], ?_⟩
        have closed : watched.session.changes.close = watched.session.changes := by
          simp [ChangeStream.close, ← unfinished]
        rw [closed]
        rfl

theorem run_projects {initial final : WatchedSession} {events : List WatchedEvent}
    (ran : initial.run events = some final) :
    ∃ inner, initial.session.run inner = some final.session := by
  refine runAll_keeps (motive := fun watched => ∃ inner, initial.session.run inner = some watched.session) ?_ ran ⟨[], rfl⟩
  rintro before event after stepped ⟨first, reached⟩
  obtain ⟨last, goes⟩ := (step_moves stepped).projects
  exact ⟨first ++ last, runAll_append_eq_some.mpr ⟨_, reached, goes⟩⟩

/-- The debouncer hears of changes and is heard, unless the loop cannot serve them any more. -/
structure Wired (watched : WatchedSession) : Prop where
  source : watched.debouncer.raw.senderOpen = true
  room : 0 < watched.debouncer.raw.capacity
  heard : watched.session.Excused ∨ watched.debouncer.point ≠ .stopped ∧
    watched.debouncer.raw.receiverOpen = true ∧ watched.session.changes.receiverOpen = true ∧
    0 < watched.session.changes.capacity

theorem Fresh.wired (fresh : watched.Fresh) : watched.Wired := by
  refine ⟨?_, ?_, .inr ⟨?_, ?_, ?_, ?_⟩⟩
  · rw [fresh.debouncer]
  · rw [fresh.debouncer]
    exact Nat.zero_lt_succ _
  · rw [fresh.debouncer]
    exact nofun
  · rw [fresh.debouncer]
  · rw [fresh.changes]
  · rw [fresh.changes]
    exact Nat.zero_lt_one

theorem offer_keeps (stream : ChangeStream) : stream.offer.2.senderOpen = stream.senderOpen ∧
    stream.offer.2.receiverOpen = stream.receiverOpen ∧ stream.offer.2.capacity = stream.capacity := by
  unfold ChangeStream.offer
  split
  · exact ⟨rfl, rfl, rfl⟩
  · split <;> exact ⟨rfl, rfl, rfl⟩

theorem Wired.excused_of_stop (wired : watched.Wired)
    (unheard : watched.debouncer.raw.ended = true ∨ watched.session.changes.receiverOpen = false) :
    watched.session.Excused := by
  rcases wired.heard with excused | ⟨-, -, listened, -⟩
  · exact excused
  · rcases unheard with ended | deaf
    · simp [ChangeStream.ended, wired.source] at ended
    · cases listened.symm.trans deaf

theorem Moves.wired {event : WatchedEvent} (moved : watched.Moves event after)
    (orderly : watched.session.Orderly) (wired : watched.Wired) : after.Wired := by
  cases moved with
  | @session event session stepped =>
    have moved := Session.step_moves stepped
    refine ⟨wired.source, wired.room, ?_⟩
    rcases wired.heard with excused | ⟨going, raw, listened, slot⟩
    · exact .inl (moved.excused orderly excused)
    · rcases moved.changes with excused | ⟨receiver, capacity, -⟩
      · exact .inl excused
      · exact .inr ⟨going, raw, receiver.trans listened, Nat.lt_of_lt_of_eq slot capacity.symm⟩
  | rawChange =>
    obtain ⟨sender, receiver, capacity⟩ := offer_keeps watched.debouncer.raw
    refine ⟨sender.trans wired.source, Nat.lt_of_lt_of_eq wired.room capacity.symm, ?_⟩
    rcases wired.heard with excused | ⟨going, raw, listened, slot⟩
    · exact .inl excused
    · exact .inr ⟨going, receiver.trans raw, listened, slot⟩
  | debounce debounces =>
    cases debounces with
    | wakes idle taken =>
      unfold ChangeStream.take at taken
      split at taken <;> cases taken
      refine ⟨wired.source, wired.room, ?_⟩
      rcases wired.heard with excused | ⟨-, raw, listened, slot⟩
      · exact .inl excused
      · exact .inr ⟨nofun, raw, listened, slot⟩
    | drops | reports =>
      refine ⟨wired.source, wired.room, ?_⟩
      rcases wired.heard with excused | ⟨-, raw, listened, slot⟩
      · exact .inl excused
      · exact .inr ⟨nofun, raw, listened, slot⟩
    | stops unheard => exact ⟨wired.source, wired.room, .inl (wired.excused_of_stop unheard)⟩
  | elapse => exact ⟨wired.source, wired.room, wired.heard⟩

theorem run_wired {initial final : WatchedSession} {events : List WatchedEvent}
    (ran : initial.run events = some final) (regular : initial.session.Regular) (wired : initial.Wired) :
    final.session.Regular ∧ final.Wired := by
  refine runAll_keeps (motive := fun watched => watched.session.Regular ∧ watched.Wired) ?_ ran ⟨regular, wired⟩
  rintro before event after stepped ⟨regular, wired⟩
  obtain ⟨inner, goes⟩ := (step_moves stepped).projects
  exact ⟨run_regular goes regular, (step_moves stepped).wired regular.orderly wired⟩

/-- Why a change that came after so many launches will not be forgotten: one came after it,
or something that leads to one is still under way. -/
inductive Covered (launches : Nat) (watched : WatchedSession) : Prop
  | launched (later : launches < watched.session.engine.launchedCount)
  | seen (waits : 0 < watched.debouncer.raw.waiting)
  | asleep {wake : Nat} (sleeps : watched.debouncer.point = .asleep wake)
  | reported (waits : 0 < watched.session.changes.waiting)
  | restarting (under : watched.session.Relaunching)
  | excused (excused : watched.session.Excused)

variable {launches : Nat}

/-- A change is covered as soon as it is made: where it finds no room, others wait. -/
theorem Wired.covers (wired : watched.Wired) :
    Covered launches { watched with debouncer := watched.debouncer.change } := by
  rcases wired.heard with excused | ⟨-, listened, -⟩
  · exact .excused excused
  · apply Covered.seen
    have room := wired.room
    simp only [Debouncer.change, ChangeStream.offer, listened]
    by_cases free : watched.debouncer.raw.waiting < watched.debouncer.raw.capacity
    · simp [free]
    · simp [free]
      omega

private theorem Covered.session {event : SessionEvent} {session : Session}
    (covered : Covered launches watched) (regular : watched.session.Regular)
    (base : launches ≤ watched.session.engine.launchedCount)
    (moved : watched.session.Moves event session) : Covered launches { watched with session } := by
  cases covered with
  | launched later => exact .launched (Nat.lt_of_lt_of_le later moved.launches_mono)
  | seen waits => exact .seen waits
  | asleep sleeps => exact .asleep sleeps
  | reported waits =>
    rcases moved.changes with excused | ⟨-, -, picked | more⟩
    · exact .excused excused
    · subst picked
      rcases moved.picked regular.orderly regular.flagged with under | excused
      · exact .restarting under
      · exact .excused excused
    · exact .reported (Nat.lt_of_lt_of_le waits more)
  | restarting under =>
    rcases moved.relaunching regular.orderly under with still | now | excused
    · exact .restarting still
    · exact .launched (Nat.lt_of_le_of_lt base now)
    · exact .excused excused
  | excused excused => exact .excused (moved.excused regular.orderly excused)

private theorem Covered.debounce {debouncer : Debouncer} {changes : ChangeStream}
    (covered : Covered launches watched) (wired : watched.Wired)
    (debounces : Debounces watched.debouncer watched.session.changes watched.now debouncer changes) :
    Covered launches { watched with debouncer, session := { watched.session with changes } } := by
  cases covered with
  | launched later => exact .launched later
  | restarting under => exact .restarting ⟨under.between, under.early⟩
  | excused excused => exact .excused excused
  | seen | asleep | reported =>
    cases debounces with
    | wakes => exact .asleep rfl
    | drops asleep due listened full =>
      rcases wired.heard with excused | ⟨-, -, -, slot⟩
      · exact .excused excused
      · exact .reported (Nat.lt_of_lt_of_le slot full)
    | reports => exact .reported (Nat.succ_pos _)
    | stops unheard => exact .excused (wired.excused_of_stop unheard)

structure Kept (launches : Nat) (watched : WatchedSession) : Prop where
  regular : watched.session.Regular
  wired : watched.Wired
  base : launches ≤ watched.session.engine.launchedCount
  covered : Covered launches watched

theorem Moves.kept {event : WatchedEvent} (moved : watched.Moves event after)
    (kept : Kept launches watched) : Kept launches after := by
  obtain ⟨regular, wired, base, covered⟩ := kept
  obtain ⟨events, ran⟩ := moved.projects
  refine ⟨run_regular ran regular, moved.wired regular.orderly wired, ?_, ?_⟩
  · cases moved with
    | session stepped => exact Nat.le_trans base (Session.step_moves stepped).launches_mono
    | rawChange | debounce | elapse => exact base
  · cases moved with
    | session stepped => exact covered.session regular base (Session.step_moves stepped)
    | rawChange => exact wired.covers
    | debounce debounces => exact covered.debounce wired debounces
    | elapse =>
      cases covered with
      | launched later => exact .launched later
      | seen waits => exact .seen waits
      | asleep sleeps => exact .asleep sleeps
      | reported waits => exact .reported waits
      | restarting under => exact .restarting under
      | excused excused => exact .excused excused

theorem Kept.launched (kept : Kept launches watched) (settled : watched.Settled)
    (stands : watched.session.loop.point = .awaiting) (watching : watched.session.watching = true)
    (unasked : watched.session.removal = .unasked) :
    launches < watched.session.engine.launchedCount := by
  obtain ⟨regular, wired, -, covered⟩ := kept
  have armed := regular.orderly.stance_awaiting stands
  have serves : ¬ watched.session.Excused := by
    rintro (asked | unwatched | ended)
    · exact asked unasked
    · cases watching.symm.trans unwatched
    · cases armed.symm.trans ended
  have going := (wired.heard.resolve_left serves).1
  have rest := rests_iff.mpr settled.debouncer
  unfold rests at rest
  cases covered with
  | launched later => exact later
  | seen waits =>
    cases point : watched.debouncer.point with
    | idle =>
      simp only [point, Bool.and_eq_true, beq_iff_eq] at rest
      omega
    | asleep wake => simp [point] at rest
    | stopped => exact absurd point going
  | asleep sleeps => simp [sleeps] at rest
  | reported waits =>
    have next := settled.session .pickChange rfl
    simp [Session.step, watching, ChangeStream.take, waits, ControlLoop.step, stands] at next
  | restarting under => cases armed.symm.trans under.between
  | excused excused => exact absurd excused serves

/-- A running instance is never stale: where nobody can go on and an uninterrupted loop waits
with its watcher, the instance that runs was launched after every change in the directory.
Launches and instances have the same numbers then, so that an instance comes after a change
if its number is not among those of the launches before. -/
theorem current_instance_is_fresh {initial middle final : WatchedSession} {before rest : List WatchedEvent}
    (fresh : initial.Fresh) (reached : initial.run before = some middle)
    (ran : middle.run (.rawChange :: rest) = some final) (settled : final.Settled)
    (stands : final.session.loop.point = .awaiting) (watching : final.session.watching = true)
    (unasked : final.session.removal = .unasked) :
    ∃ index, final.session.engine.current = some index ∧
      middle.session.engine.launchedCount ≤ index ∧
      final.session.engine.launchedCount = index + 1 ∧
      (∀ other entry, final.session.engine.instances[other]? = some entry → entry.gone? = none →
        other = index) ∧
      (final.session.engine.Reliable → ∀ other,
        final.session.engine.runningAt other = true ↔ other = index) := by
  obtain ⟨first, reachedInner⟩ := run_projects reached
  obtain ⟨last, ranInner⟩ := run_projects ran
  have inner : initial.session.run (first ++ last) = some final.session :=
    runAll_append_eq_some.mpr ⟨_, reachedInner, ranInner⟩
  obtain ⟨next, changed, goes⟩ := runAll_cons_eq_some.mp ran
  have before := run_wired reached fresh.session.regular fresh.wired
  have moved := step_moves changed
  have kept : Kept middle.session.engine.launchedCount next := by
    cases moved
    exact ⟨before.1, Moves.rawChange.wired before.1.orderly before.2, Nat.le_refl _, before.2.covers⟩
  have later := runAll_keeps (fun _ _ _ stepped kept => (step_moves stepped).kept kept) goes kept
  have newer := later.launched settled stands watching unasked
  obtain ⟨orderly, tallied, -⟩ := later.regular
  have armed := orderly.stance_awaiting stands
  have free := orderly.lock_free unasked stands
  obtain ⟨index, current⟩ := (run_holding fresh.session inner).held (orderly.kept unasked) free
    (by simp [armed]) (by simp [armed])
  have latest := orderly.steady.latest index current
  have count := tallied (by simp [armed])
  rw [show final.session.engine.launching = 0 by simp [launching, free]] at count
  refine ⟨index, current, by omega, by omega, ?_, ?_⟩
  · intro other entry found there
    exact orderly.steady.only_current free current found there
  · intro reliable
    obtain ⟨-, -, place, held, alone⟩ :=
      restarts_settle fresh.session inner reliable unasked stands settled.session
    cases held.symm.trans current
    exact alone

def unusedWatch : WatchedSession := { session := unused, debouncer := { window := 200 } }

/-- Two changes are made while the loop waits, and are reported as one after the sleep. -/
def restartingOnce : List WatchedEvent :=
  [.rawChange, .debounce, .elapse 200, .debounce] ++ restarting.tail.map .session

theorem instance_after_changes_is_fresh : ∃ middle final,
    unusedWatch.run ((SessionEvent.run :: asks ++ arms "one").map .session) = some middle ∧
    middle.run (.rawChange :: restartingOnce) = some final ∧ final.Settled ∧
    middle.session.engine.launchedCount = 1 ∧
    ∀ other, final.session.engine.runningAt other = true ↔ other = 1 := by
  have facts : (unusedWatch.run ((SessionEvent.run :: asks ++ arms "one").map .session)).any (fun middle =>
      middle.session.engine.launchedCount == 1 &&
      (middle.run (.rawChange :: restartingOnce)).any fun final => decide (final.Settled ∧
        (final.session.engine.instances.map Instance.id).Nodup ∧
        (∀ entry ∈ final.session.engine.instances, ¬ entry.Abandoned) ∧
        final.session.removal = .unasked ∧ final.session.watching = true ∧
        final.session.engine.current = some 1 ∧ (final.session.loop.step .changed).isSome = true)) = true := by
    decide +kernel
  simp only [Option.any_eq_true, Bool.and_eq_true, beq_iff_eq, decide_eq_true_eq] at facts
  obtain ⟨middle, reached, count, final, ran, settled, distinct, kept, unasked, watching, current, stands⟩ :=
    facts
  have waits : final.session.loop.point = .awaiting := by
    cases point : final.session.loop.point <;> simp [ControlLoop.step, point] at stands
    rfl
  have fresh : unusedWatch.Fresh := ⟨unused_fresh, rfl, rfl, rfl⟩
  obtain ⟨index, held, -, -, -, alone⟩ :=
    current_instance_is_fresh fresh reached ran settled waits watching unasked
  cases held.symm.trans current
  exact ⟨middle, final, reached, ran, settled, count, alone ⟨distinct, kept⟩⟩

end MockKeeper.WatchedSession
