import MockKeeper.Proofs.WatcherTraces

/-! Waking up is more than one act: the debouncer takes what waits one by one, until it finds
nothing, and then reports. What others do meanwhile comes to the same as if those who make changes
had waited until it was over, and the one who takes reports had been there before it. -/

namespace MockKeeper.Watcher

def byMaker : WatcherEvent → Bool
  | .change | .closeSource => true
  | _ => false

def byTaker : WatcherEvent → Bool
  | .receive | .abandon => true
  | _ => false

/-- The debouncer takes what waits, until it finds nothing. The events are what others do meanwhile. -/
inductive Drains : Watcher → List WatcherEvent → Watcher → Prop
  | done {watcher : Watcher} (empty : watcher.debouncer.raw.take = none) : Drains watcher [] watcher
  | takes {watcher after : Watcher} {raw : ChangeStream} {events : List WatcherEvent}
      (taken : watcher.debouncer.raw.take = some raw)
      (more : Drains { watcher with debouncer := { watcher.debouncer with raw } } events after) :
      Drains watcher events after
  | meanwhile {watcher next after : Watcher} {event : WatcherEvent} {events : List WatcherEvent}
      (others : byMaker event || byTaker event) (stepped : watcher.step event = some next)
      (more : Drains next events after) : Drains watcher (event :: events) after

def report (watcher : Watcher) : Watcher :=
  match watcher.reports.offer with
  | (.closed, _) =>
    { watcher with debouncer := (watcher.debouncer.stop watcher.reports).1, reports := watcher.reports.close }
  | (_, reports) => { watcher with debouncer := { watcher.debouncer with point := .idle }, reports }

def drained (watcher : Watcher) : Watcher :=
  { watcher with debouncer := { watcher.debouncer with raw := watcher.debouncer.raw.drain } }

variable {watcher other next ready after : Watcher} {event : WatcherEvent} {events : List WatcherEvent}

private theorem take_eq_none {stream : ChangeStream} (empty : stream.take = none) : stream.drain = stream := by
  have nothing : stream.waiting = 0 := by
    simp only [ChangeStream.take, ite_eq_right_iff, reduceCtorEq, imp_false] at empty
    exact Nat.eq_zero_of_not_pos empty
  simp only [ChangeStream.drain, ← nothing]

theorem Drains.empty (drains : Drains watcher events after) : drained after = after := by
  induction drains with
  | @done watcher empty => simp only [drained, take_eq_none empty]
  | takes _ _ ih | meanwhile _ _ _ ih => exact ih

theorem proceed_eq_report {wake : Nat} (asleep : watcher.debouncer.point = .asleep wake) (due : wake ≤ watcher.now) :
    watcher.step .proceed = some (report (drained watcher)) := by
  simp only [step, Debouncer.proceed, asleep, if_pos due, report, drained]
  rcases watcher.reports.offer with ⟨offer, reports⟩
  cases offer <;> rfl

private theorem drain_offer (stream : ChangeStream) : stream.offer.2.drain = stream.drain := by
  unfold ChangeStream.offer
  split
  next => rfl
  next => split <;> rfl

/-- How many changes wait makes no difference to what others can do. -/
private theorem step_drained (others : byMaker event || byTaker event) :
    (watcher.step event).map drained = ((drained watcher).step event).map drained := by
  cases event with
  | proceed | elapse => cases others
  | change =>
    simp only [step, Option.map_some, Option.some.injEq, drained, Debouncer.change, drain_offer]
    rfl
  | closeSource | abandon => rfl
  | receive =>
    simp only [step, drained]
    cases watcher.reports.take <;> rfl

private theorem step_alike (others : byMaker event || byTaker event) (alike : drained other = drained watcher)
    (stepped : watcher.step event = some next) :
    ∃ last, other.step event = some last ∧ drained last = drained next := by
  have same : (other.step event).map drained = ((drained other).step event).map drained := step_drained others
  rw [alike, ← step_drained others, stepped] at same
  exact Option.map_eq_some_iff.mp same

private theorem run_alike (others : ∀ event ∈ events, byMaker event || byTaker event)
    (alike : drained other = drained watcher) (ran : watcher.run events = some next) :
    ∃ last, other.run events = some last ∧ drained last = drained next := by
  induction events generalizing watcher other with
  | nil =>
    cases ran
    exact ⟨other, rfl, alike⟩
  | cons event rest ih =>
    obtain ⟨between, stepped, ran⟩ := run_cons_iff.mp ran
    obtain ⟨first, stepped, alike⟩ := step_alike (others event List.mem_cons_self) alike stepped
    obtain ⟨last, ran, alike⟩ := ih (fun event member => others event (List.mem_cons_of_mem _ member)) alike ran
    exact ⟨last, run_cons_iff.mpr ⟨first, stepped, ran⟩, alike⟩

private theorem Drains.runs (drains : Drains watcher events after) (alike : drained other = drained watcher) :
    ∃ last, other.run events = some last ∧ drained last = drained after := by
  induction drains generalizing other with
  | done => exact ⟨other, rfl, alike⟩
  | takes taken _ ih =>
    simp only [ChangeStream.take, Option.ite_none_right_eq_some, Option.some.injEq] at taken
    obtain ⟨_, rfl⟩ := taken
    exact ih alike
  | meanwhile others stepped _ ih =>
    obtain ⟨first, stepped, alike⟩ := step_alike others alike stepped
    obtain ⟨last, ran, alike⟩ := ih alike
    exact ⟨last, run_cons_iff.mpr ⟨first, stepped, ran⟩, alike⟩

private theorem maker_taker_commute {maker taker : WatcherEvent} (makes : byMaker maker) (takes : byTaker taker) :
    ((watcher.step maker).bind fun next => next.step taker) =
      (watcher.step taker).bind fun next => next.step maker := by
  cases taker with
  | change | closeSource | proceed | elapse => cases takes
  | receive =>
    cases maker with
    | change | closeSource =>
      simp only [step, Option.bind_some, Option.bind_map]
      cases watcher.reports.take <;> rfl
    | _ => cases makes
  | abandon =>
    cases maker with
    | change | closeSource => rfl
    | _ => cases makes

private theorem takers_before_maker (makes : byMaker event) (takers : ∀ event ∈ events, byTaker event)
    (stepped : watcher.step event = some next) (ran : next.run events = some after) :
    ∃ middle, watcher.run events = some middle ∧ middle.step event = some after := by
  induction events generalizing watcher next with
  | nil =>
    cases ran
    exact ⟨watcher, rfl, stepped⟩
  | cons taker rest ih =>
    obtain ⟨taken, took, ran⟩ := run_cons_iff.mp ran
    have commute : ((watcher.step event).bind fun next => next.step taker) =
        (watcher.step taker).bind fun next => next.step event :=
      maker_taker_commute makes (takers taker List.mem_cons_self)
    rw [stepped, Option.bind_some, took] at commute
    obtain ⟨first, took, stepped⟩ := Option.bind_eq_some_iff.mp commute.symm
    obtain ⟨middle, reached, stepped⟩ := ih (fun event member => takers event (List.mem_cons_of_mem _ member)) stepped ran
    exact ⟨middle, run_cons_iff.mpr ⟨first, took, reached⟩, stepped⟩

/-- Takers can be done with before anybody makes a change. -/
private theorem takers_first (others : ∀ event ∈ events, byMaker event || byTaker event)
    (ran : watcher.run events = some after) :
    ∃ middle, watcher.run (events.filter byTaker) = some middle ∧ middle.run (events.filter byMaker) = some after := by
  induction events generalizing watcher with
  | nil => exact ⟨watcher, rfl, ran⟩
  | cons event rest ih =>
    obtain ⟨next, stepped, ran⟩ := run_cons_iff.mp ran
    obtain ⟨middle, taken, made⟩ := ih (fun event member => others event (List.mem_cons_of_mem _ member)) ran
    have either := others event List.mem_cons_self
    cases makes : byMaker event with
    | true =>
      have notTaker : byTaker event = false := by cases event <;> first | rfl | cases makes
      rw [List.filter_cons_of_neg (by simp [notTaker]), List.filter_cons_of_pos makes]
      obtain ⟨middle, taken, stepped⟩ := takers_before_maker makes (fun event member => (List.mem_filter.mp member).2)
        stepped taken
      exact ⟨middle, taken, run_cons_iff.mpr ⟨_, stepped, made⟩⟩
    | false =>
      rw [makes, Bool.false_or] at either
      rw [List.filter_cons_of_pos either, List.filter_cons_of_neg (by simp [makes])]
      exact ⟨middle, run_cons_iff.mpr ⟨next, stepped, taken⟩, made⟩

private theorem abandon_offer (stream : ChangeStream) : stream.abandon.offer.2 = stream.offer.2.abandon := by
  have shut : stream.abandon.offer.2 = stream.abandon := rfl
  rw [shut]
  unfold ChangeStream.offer
  split
  next => rfl
  next => split <;> rfl

private theorem report_maker_commute (makes : byMaker event) (stepped : watcher.step event = some next) :
    (report watcher).step event = some (report next) := by
  cases event with
  | change =>
    cases stepped
    simp only [step, report, Option.some.injEq]
    rcases watcher.reports.offer with ⟨offer, reports⟩
    cases offer with
    | closed => simp only [Debouncer.change, Debouncer.stop, abandon_offer]
    | accepted | full => rfl
  | closeSource =>
    cases stepped
    simp only [step, report, Option.some.injEq]
    rcases watcher.reports.offer with ⟨offer, reports⟩
    cases offer <;> rfl
  | _ => cases makes

private theorem report_makers_commute (makers : ∀ event ∈ events, byMaker event)
    (ran : watcher.run events = some ready) : (report watcher).run events = some (report ready) := by
  induction events generalizing watcher with
  | nil =>
    cases ran
    rfl
  | cons event rest ih =>
    obtain ⟨next, stepped, ran⟩ := run_cons_iff.mp ran
    exact run_cons_iff.mpr ⟨report next, report_maker_commute (makers event List.mem_cons_self) stepped,
      ih (fun event member => makers event (List.mem_cons_of_mem _ member)) ran⟩

private theorem others_keep_sleep {wake : Nat} (others : ∀ event ∈ events, byMaker event || byTaker event)
    (ran : watcher.run events = some after) (asleep : watcher.debouncer.point = .asleep wake) (due : wake ≤ watcher.now) :
    after.debouncer.point = .asleep wake ∧ wake ≤ after.now := by
  refine runAll_keeps_within (motive := fun watcher => watcher.debouncer.point = .asleep wake ∧ wake ≤ watcher.now)
    (fun before input member after stepped kept => ?_) ran ⟨asleep, due⟩
  have others := others input member
  cases step_moves stepped with
  | dozes | ends | reports | drops | breaksOff | elapsed => cases others
  | _ => exact kept

private theorem takers_keep_drained (takers : ∀ event ∈ events, byTaker event) (empty : drained watcher = watcher)
    (ran : watcher.run events = some after) : drained after = after := by
  refine runAll_keeps_within (motive := fun watcher => drained watcher = watcher)
    (fun before input member after stepped kept => ?_) ran empty
  have takes := takers input member
  have apart (reports : ChangeStream) : drained { before with reports } = { before with reports } :=
    congrArg (fun watcher : Watcher => { watcher with reports }) kept
  cases step_moves stepped with
  | received | abandoned => exact apart _
  | _ => cases takes

private theorem Drains.others (drains : Drains watcher events after) :
    ∀ event ∈ events, byMaker event || byTaker event := by
  induction drains with
  | done => exact nofun
  | takes _ _ ih => exact ih
  | meanwhile others _ _ ih => exact List.forall_mem_cons.mpr ⟨others, ih⟩

/-- However others come in between, it is as if the debouncer woke up and reported at once. -/
theorem wakeup_at_once {wake : Nat} {during between : List WatcherEvent} {middle : Watcher}
    (asleep : watcher.debouncer.point = .asleep wake) (due : wake ≤ watcher.now)
    (drains : Drains watcher during middle) (others : ∀ event ∈ between, byMaker event || byTaker event)
    (ran : middle.run between = some ready) :
    watcher.run (during ++ between.filter byTaker ++ .proceed :: between.filter byMaker) = some (report ready) := by
  obtain ⟨taken, took, made⟩ := takers_first others ran
  obtain ⟨first, reached, alike⟩ := drains.runs rfl
  have takers : ∀ event ∈ between.filter byTaker, byMaker event || byTaker event := by
    intro event member
    rw [(List.mem_filter.mp member).2, Bool.or_true]
  obtain ⟨last, onwards, alike⟩ := run_alike takers alike took
  have empty : drained taken = taken :=
    takers_keep_drained (fun event member => (List.mem_filter.mp member).2) drains.empty took
  have before : watcher.run (during ++ between.filter byTaker) = some last :=
    runAll_append_eq_some.mpr ⟨first, reached, onwards⟩
  obtain ⟨sleeps, due⟩ := others_keep_sleep (by
    intro event member
    exact (List.mem_append.mp member).elim (drains.others event) (takers event)) before asleep due
  refine runAll_append_eq_some.mpr ⟨last, before, run_cons_iff.mpr ⟨_, proceed_eq_report sleeps due, ?_⟩⟩
  rw [alike, empty]
  exact report_makers_commute (fun event member => (List.mem_filter.mp member).2) made

end MockKeeper.Watcher
