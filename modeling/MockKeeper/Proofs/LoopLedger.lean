import MockKeeper.Proofs.Lookup
import MockKeeper.Proofs.LoopTraces

/-! The books of the control loop. Every stop it handled belongs to a restart it asked for, or to
an instance it started, and its counters say what it did. -/

namespace MockKeeper.ControlLoop

namespace Turn

/-- The engine call that the loop is at after a turn of its own. -/
def asks (turn : Turn) : Option Operation :=
  match turn.input with
  | .interrupt => none
  | _ => Session.operation? turn.after

def starts (turn : Turn) : Bool := decide (turn.asks = some .start)

def restarts (turn : Turn) : Bool := decide (turn.asks = some (.restart Session.stopChannel))

def notices (turn : Turn) : Bool := decide (turn.asks = some (.notifyOnStop Session.stopChannel))

def waits (turn : Turn) : Bool :=
  match turn.input with
  | .armed => true
  | _ => false

def handlesStop (turn : Turn) : Bool :=
  match turn.input with
  | .stopped _ => true
  | _ => false

def settles (turn : Turn) : Bool := turn.handlesStop && decide (0 < turn.before.restartsPending)

/-- The stop has an error, and the loop is not ending. -/
def handlesCrash (turn : Turn) : Bool :=
  match turn.input with
  | .stopped event => event.isError && !turn.before.terminating
  | _ => false

end Turn

def crashWarning : String := "mock engine stopped unexpectedly: "

def warnsOfCrash (line : LogLine) : Bool :=
  line.level == .warn && crashWarning.toList.isPrefixOf line.text.toList

theorem warnsOfCrash_crash (message : String) : warnsOfCrash (.warn (crashWarning ++ message)) = true := by
  have opens : crashWarning.toList.isPrefixOf (crashWarning ++ message).toList = true := by
    rw [String.toList_append]
    exact List.isPrefixOf_iff_prefix.mpr (List.prefix_append _ _)
  simp only [warnsOfCrash, LogLine.warn, opens, beq_self_eq_true, Bool.and_self]

theorem warnsOfCrash_closed (label rest : String) :
    warnsOfCrash (.warn ("stopped watching " ++ label ++ rest)) = false := by
  simp [warnsOfCrash, LogLine.warn, crashWarning, String.toList_append, List.isPrefixOf]

theorem warnsOfCrash_info {line : LogLine} (level : line.level = .info) : warnsOfCrash line = false := by
  simp [warnsOfCrash, level]

/-- One stop more than was handled is accounted for where the loop goes on: that of the instance
that is there, or that is to be started. -/
def outstanding (loop : ControlLoop) : Nat :=
  match loop.point with
  | .ready | .leaving none | .returned (.ok _) => 1
  | _ => 0

def arming (loop : ControlLoop) : Nat :=
  match loop.point with
  | .arming => 1
  | _ => 0

def counters (loop : ControlLoop) : Nat × Nat × Nat × Nat :=
  (loop.restartsPending, loop.summary.restarts, loop.summary.unexpectedStops, loop.log.countP warnsOfCrash)

structure Books (before after : ControlLoop) (turns : List Turn) : Prop where
  stops : after.restartsPending + turns.countP Turn.handlesStop + before.outstanding =
    before.restartsPending + turns.countP Turn.restarts + turns.countP Turn.starts + after.outstanding
  pending : after.restartsPending + turns.countP Turn.settles =
    before.restartsPending + turns.countP Turn.restarts
  restarts : after.summary.restarts = before.summary.restarts + turns.countP Turn.restarts
  crashes : after.summary.unexpectedStops = before.summary.unexpectedStops + turns.countP Turn.handlesCrash
  warnings : after.log.countP warnsOfCrash = before.log.countP warnsOfCrash + turns.countP Turn.handlesCrash
  notices : before.arming + turns.countP Turn.notices = turns.countP Turn.waits + after.arming

namespace Books

theorem nil (loop : ControlLoop) : Books loop loop [] := by
  constructor <;> simp

theorem cons {before next after : ControlLoop} {turn : Turn} {rest : List Turn}
    (first : Books before next [turn]) (last : Books next after rest) : Books before after (turn :: rest) := by
  have split (counts : Turn → Bool) : (turn :: rest).countP counts = [turn].countP counts + rest.countP counts := by
    rw [← List.countP_append]
    rfl
  constructor
  · have := first.stops
    have := last.stops
    simp only [split]
    omega
  · have := first.pending
    have := last.pending
    simp only [split]
    omega
  · rw [last.restarts, first.restarts, split, Nat.add_assoc]
  · rw [last.crashes, first.crashes, split, Nat.add_assoc]
  · rw [last.warnings, first.warnings, split, Nat.add_assoc]
  · have := first.notices
    have := last.notices
    simp only [split]
    omega

theorem quiet (turn : Turn) (stop : turn.handlesStop = false) (restart : turn.restarts = false)
    (same : turn.after.counters = turn.before.counters)
    (start : turn.before.outstanding = turn.starts.toNat + turn.after.outstanding)
    (notice : turn.before.arming + turn.notices.toNat = turn.waits.toNat + turn.after.arming) :
    Books turn.before turn.after [turn] := by
  have crash : turn.handlesCrash = false := by
    unfold Turn.handlesStop at stop
    unfold Turn.handlesCrash
    split at stop
    next => cases stop
    next => rfl
  simp only [counters, Prod.mk.injEq] at same
  obtain ⟨pending, restarts, crashes, warnings⟩ := same
  have settles : turn.settles = false := by rw [Turn.settles, stop, Bool.false_and]
  constructor <;> simp only [countP_single, stop, crash, restart, settles, Bool.toNat_false]
  · omega
  · omega
  · exact restarts
  · exact crashes
  · exact warnings
  · exact notice

theorem stopped {loop after : ControlLoop} {event : StopEvent} (stands : loop.point = .awaiting)
    (restarts : after.summary.restarts = loop.summary.restarts)
    (crashes : after.summary.unexpectedStops =
      loop.summary.unexpectedStops + (event.isError && !loop.terminating).toNat)
    (warnings : after.log.countP warnsOfCrash =
      loop.log.countP warnsOfCrash + (event.isError && !loop.terminating).toNat)
    (never : Turn.restarts ⟨loop, .stopped event, after⟩ = false)
    (stops : after.restartsPending + 1 = loop.restartsPending +
      (Turn.starts ⟨loop, .stopped event, after⟩).toNat + after.outstanding)
    (pending : after.restartsPending + (Turn.settles ⟨loop, .stopped event, after⟩).toNat = loop.restartsPending)
    (notice : (Turn.notices ⟨loop, .stopped event, after⟩).toNat = after.arming) :
    Books loop after [⟨loop, .stopped event, after⟩] := by
  have none : loop.outstanding = 0 ∧ loop.arming = 0 := by
    simp only [outstanding, arming, stands, and_self]
  constructor <;> simp only [countP_single, never, Bool.toNat_false, none.1, none.2]
  · exact stops
  · exact pending
  · exact restarts
  · exact crashes
  · exact warnings
  · rw [Nat.zero_add, notice]
    exact (Nat.zero_add _).symm

end Books

theorem crash?_isSome (loop : ControlLoop) (event : StopEvent) :
    (loop.crash? event).isSome = (event.isError && !loop.terminating) := by
  unfold crash?
  cases loop.terminating <;> simp [StopEvent.isError]

theorem reportCrash_eq (loop : ControlLoop) (event : StopEvent) :
    ∃ log summary, loop.reportCrash event = { loop with log, summary } ∧
      summary.restarts = loop.summary.restarts ∧
      summary.unexpectedStops = loop.summary.unexpectedStops + (event.isError && !loop.terminating).toNat ∧
      log.countP warnsOfCrash = loop.log.countP warnsOfCrash + (event.isError && !loop.terminating).toNat := by
  rw [← crash?_isSome]
  unfold reportCrash
  cases crash : loop.crash? event with
  | none => exact ⟨loop.log, loop.summary, rfl, rfl, rfl, rfl⟩
  | some error =>
    refine ⟨_, _, rfl, rfl, rfl, ?_⟩
    have warned := warnsOfCrash_crash error.message
    simp [note, List.countP_append, crashWarning] at warned ⊢
    exact warned

theorem counters_note (loop : ControlLoop) {line : LogLine} (other : warnsOfCrash line = false) :
    (loop.note line).counters = loop.counters := by
  simp [counters, note, List.countP_append, other]

theorem afterCall_books {loop : ControlLoop} {input : LoopInput} {failure : Option EngineError}
    (answers : input = .restarted failure ∧ loop.point = .restarting ∨
      input = .recovered failure ∧ loop.point = .recovering) :
    Books loop (loop.afterCall failure) [⟨loop, input, loop.afterCall failure⟩] := by
  have idle : loop.outstanding = 0 ∧ loop.arming = 0 := by
    rcases answers with ⟨-, stands⟩ | ⟨-, stands⟩ <;> simp only [outstanding, arming, stands, and_self]
  rcases answers with ⟨rfl, -⟩ | ⟨rfl, -⟩ <;> cases failure
  · exact .quiet ⟨loop, .restarted none, _⟩ rfl rfl rfl idle.1 (by rw [idle.2]; rfl)
  · exact .quiet ⟨loop, .restarted (some _), _⟩ rfl rfl rfl idle.1 idle.2
  · exact .quiet ⟨loop, .recovered none, _⟩ rfl rfl rfl idle.1 (by rw [idle.2]; rfl)
  · exact .quiet ⟨loop, .recovered (some _), _⟩ rfl rfl rfl idle.1 idle.2

theorem step_books {loop after : ControlLoop} {input : LoopInput} (stepped : loop.step input = some after) :
    Books loop after [⟨loop, input, after⟩] := by
  cases step_steps stepped with
  | run stands =>
    exact .quiet ⟨loop, .run, _⟩ rfl rfl rfl (by rw [outstanding, stands]; rfl) (by rw [arming, stands]; rfl)
  | started stands =>
    exact .quiet ⟨loop, .started none, _⟩ rfl rfl rfl (by rw [outstanding, stands]; rfl)
      (by rw [arming, stands]; rfl)
  | @unstarted error stands =>
    exact .quiet ⟨loop, .started (some error), _⟩ rfl rfl rfl (by rw [outstanding, stands]; rfl)
      (by rw [arming, stands]; rfl)
  | armed stands =>
    exact .quiet ⟨loop, .armed, _⟩ rfl rfl rfl (by rw [outstanding, stands]; rfl) (by rw [arming, stands]; rfl)
  | ignored stands =>
    exact .quiet ⟨loop, .changed, _⟩ rfl rfl rfl (by rw [outstanding, stands]; rfl) (by rw [arming, stands]; rfl)
  | @changed line stands going level =>
    -- The one turn that asks for a restart, so it is not a quiet one.
    have idle : loop.outstanding = 0 ∧ loop.arming = 0 := by
      simp only [outstanding, arming, stands, and_self]
    refine ⟨?_, rfl, rfl, rfl, ?_, ?_⟩
    · rw [idle.1]
      rfl
    · simp [note, List.countP_append, warnsOfCrash_info level, Turn.handlesCrash]
    · rw [idle.2]
      rfl
  | closed stands =>
    have same : loop.handleClosedWatcher.counters = loop.counters :=
      counters_note loop (warnsOfCrash_closed loop.label _)
    exact .quiet ⟨loop, .watcherClosed, _⟩ rfl rfl same (by rw [outstanding, stands]; rfl)
      (by rw [arming, stands]; rfl)
  | @settled event stands restarted =>
    obtain ⟨log, summary, equal, restarts, crashes, warnings⟩ := reportCrash_eq loop event
    rw [equal]
    have lowered : loop.restartsPending - 1 + 1 = loop.restartsPending := by omega
    refine .stopped stands restarts crashes warnings rfl lowered ?_ rfl
    simpa [Turn.settles, Turn.handlesStop, restarted] using lowered
  | @crashed event line stands alone crash level =>
    obtain ⟨log, summary, equal, restarts, crashes, warnings⟩ := reportCrash_eq loop event
    rw [equal]
    refine .stopped stands restarts crashes ?_ rfl rfl (by simp [note, Turn.settles, alone]) rfl
    simp only [note, List.countP_append, List.countP_singleton, warnsOfCrash_info level]
    exact warnings
  | @last event stands alone =>
    obtain ⟨log, summary, equal, restarts, crashes, warnings⟩ := reportCrash_eq loop event
    rw [equal]
    exact .stopped stands restarts crashes warnings rfl rfl (by simp [Turn.settles, alone]) rfl
  | restarted stands => exact afterCall_books (.inl ⟨rfl, stands⟩)
  | recovered stands => exact afterCall_books (.inr ⟨rfl, stands⟩)
  | @left failure stands =>
    cases failure with
    | none =>
      exact .quiet ⟨loop, .leave, _⟩ rfl rfl rfl (by rw [outstanding, stands]; rfl) (by rw [arming, stands]; rfl)
    | some error =>
      exact .quiet ⟨loop, .leave, _⟩ rfl rfl rfl (by rw [outstanding, stands]; rfl) (by rw [arming, stands]; rfl)
  | interrupted going level =>
    exact .quiet ⟨loop, .interrupt, _⟩ rfl rfl (counters_note loop (warnsOfCrash_info level))
      (Nat.zero_add _).symm (Nat.zero_add _).symm
  | again => exact .quiet ⟨loop, .interrupt, loop⟩ rfl rfl rfl (Nat.zero_add _).symm (Nat.zero_add _).symm

variable {initial final : ControlLoop} {inputs : List LoopInput}

theorem run_books (ran : initial.run inputs = some final) : Books initial final (initial.trace inputs) := by
  apply runAll_induction Books.nil ?_ ran
  intro before input next after rest stepped books
  exact (step_books stepped).cons books

theorem terminating_stays {loop after : ControlLoop} {input : LoopInput} (stepped : loop.step input = some after)
    (ending : loop.terminating = true) : after.terminating = true := by
  cases step_steps stepped with
  | run | started | unstarted | armed | ignored | changed | closed | again => exact ending
  | @settled event | @crashed event | @last event =>
    obtain ⟨log, summary, equal, -⟩ := reportCrash_eq loop event
    rw [equal]
    exact ending
  | @restarted failure | @recovered failure => cases failure <;> exact ending
  | left | interrupted => rfl

theorem no_restart_of_terminating {loop after : ControlLoop} {input : LoopInput}
    (stepped : loop.step input = some after) (ending : loop.terminating = true) :
    Turn.restarts ⟨loop, input, after⟩ = false := by
  cases step_steps stepped with
  | changed stands going => cases ending.symm.trans going
  | @restarted failure | @recovered failure | @left failure => cases failure <;> rfl
  | run | started | unstarted | armed | ignored | closed | settled | crashed | last | interrupted | again => rfl

theorem run_restarts_nothing (ran : initial.run inputs = some final) (ending : initial.terminating = true) :
    (initial.trace inputs).countP Turn.restarts = 0 := by
  induction inputs generalizing initial with
  | nil => rfl
  | cons input rest ih =>
    obtain ⟨next, stepped, ran⟩ := runAll_cons_eq_some.mp ran
    have now := no_restart_of_terminating stepped ending
    have later := ih ran (terminating_stays stepped ending)
    rw [trace, turns_cons stepped, List.countP_cons_of_neg (by simp [now])]
    exact later

structure Plain (loop : ControlLoop) : Prop where
  phase : loop.point = .awaiting → loop.phase = .awaitingEvent
  summary : ∀ summary, loop.point = .returned (.ok summary) → summary = loop.summary

theorem step_plain {loop after : ControlLoop} {input : LoopInput} (stepped : loop.step input = some after)
    (plain : loop.Plain) : after.Plain := by
  cases step_steps stepped with
  | run | started | unstarted | ignored | changed | closed | settled | crashed | last => exact ⟨nofun, nofun⟩
  | armed => exact ⟨fun _ => rfl, nofun⟩
  | @restarted failure | @recovered failure => cases failure <;> exact ⟨nofun, nofun⟩
  | @left failure =>
    cases failure with
    | none =>
      refine ⟨nofun, ?_⟩
      intro summary returned
      cases returned
      rfl
    | some error => exact ⟨nofun, nofun⟩
  | interrupted => exact ⟨plain.phase, plain.summary⟩
  | again => exact plain

theorem run_plain (ran : initial.run inputs = some final) (plain : initial.Plain) : final.Plain :=
  runAll_keeps (fun _ _ _ stepped plain => step_plain stepped plain) ran plain

def forgetLog (loop : ControlLoop) : ControlLoop := { loop with log := [] }

private theorem handleChange_forgetLog (loop : ControlLoop) :
    loop.forgetLog.handleChange.forgetLog = loop.handleChange.forgetLog := by
  cases ending : loop.terminating <;> simp [handleChange, forgetLog, ending]

private theorem handleStop_forgetLog (loop : ControlLoop) (event : StopEvent) :
    (loop.forgetLog.handleStop event).forgetLog = (loop.handleStop event).forgetLog := by
  have same : loop.forgetLog.crash? event = loop.crash? event := rfl
  have reported : (loop.forgetLog.reportCrash event).forgetLog = (loop.reportCrash event).forgetLog := by
    unfold reportCrash
    rw [same]
    cases loop.crash? event <;> rfl
  by_cases restarted : 0 < loop.restartsPending
  · have restartedToo : 0 < loop.forgetLog.restartsPending := restarted
    simp only [handleStop, if_pos restarted, if_pos restartedToo]
    exact congrArg (fun loop' => { loop' with restartsPending := loop.restartsPending - 1, point := .arming })
      reported
  · have aloneToo : ¬ 0 < loop.forgetLog.restartsPending := restarted
    simp only [handleStop, if_neg restarted, if_neg aloneToo, same]
    by_cases recovers : ((loop.crash? event).isSome && loop.policy == .restart) = true
    · have recoversToo : ((loop.crash? event).isSome && loop.forgetLog.policy == .restart) = true := recovers
      rw [if_pos recovers, if_pos recoversToo]
      exact congrArg (fun loop' => { loop' with phase := .running, point := .recovering }) reported
    · have endsToo : ¬ ((loop.crash? event).isSome && loop.forgetLog.policy == .restart) = true := recovers
      rw [if_neg recovers, if_neg endsToo]
      exact congrArg (fun loop' => { loop' with point := .leaving none }) reported

/-- What the loop has logged does not matter for what it does. -/
theorem step_forgetLog (loop : ControlLoop) (input : LoopInput) :
    (loop.forgetLog.step input).map forgetLog = (loop.step input).map forgetLog := by
  unfold step
  have same : loop.forgetLog.point = loop.point := rfl
  rw [same]
  split
  case h_5 => exact congrArg some (handleChange_forgetLog loop)
  case h_7 event _ => exact congrArg some (handleStop_forgetLog loop event)
  case h_8 failure _ => cases failure <;> rfl
  case h_9 failure _ => cases failure <;> rfl
  case h_11 => cases ending : loop.terminating <;> simp [forgetLog, note, ending]
  all_goals rfl

theorem run_forgetLog (loop : ControlLoop) (inputs : List LoopInput) :
    (loop.forgetLog.run inputs).map forgetLog = (loop.run inputs).map forgetLog := by
  induction inputs generalizing loop with
  | nil => rfl
  | cons input rest ih =>
    have stepped := step_forgetLog loop input
    simp only [run, runAll] at ih ⊢
    cases one : loop.forgetLog.step input <;> cases other : loop.step input <;>
      simp only [one, other, Option.map_none, Option.map_some, Option.some.injEq, reduceCtorEq] at stepped
    · rfl
    next first second =>
      simp only [Option.bind_some]
      rw [← ih first, stepped, ih second]

theorem run_of_forgetLog {loop other : ControlLoop} (same : loop.forgetLog = other.forgetLog)
    (inputs : List LoopInput) : (loop.run inputs).map forgetLog = (other.run inputs).map forgetLog := by
  rw [← run_forgetLog loop, same, run_forgetLog other]

private theorem interrupt_closed (loop : ControlLoop) : ∃ next closed, loop.step .interrupt = some next ∧
    loop.handleClosedWatcher.step .interrupt = some closed ∧ next.point = loop.point ∧
    next.phase = loop.phase ∧ closed.forgetLog = next.handleClosedWatcher.forgetLog := by
  cases ending : loop.terminating with
  | true => exact ⟨loop, loop.handleClosedWatcher, by simp [step, ending],
      by simp [step, handleClosedWatcher, note, ending], rfl, rfl, rfl⟩
  | false =>
    have stops (other : ControlLoop) (going : other.terminating = false) : other.step .interrupt =
        some { other.note (.info "stopping mock engine") with terminating := true } := by
      simp [step, going]
    exact ⟨_, _, stops loop ending, stops loop.handleClosedWatcher ending, rfl, rfl, rfl⟩

/-- A loop that was told of its closed watcher goes on as one that was not. -/
theorem run_closed {loop : ControlLoop} (stands : loop.point = .awaiting) (phase : loop.phase = .awaitingEvent)
    {others : List LoopInput} (interrupts : ∀ input ∈ others, input = .interrupt) (last : List LoopInput) :
    (loop.handleClosedWatcher.run (others ++ .armed :: last)).map forgetLog =
      (loop.run (others ++ last)).map forgetLog := by
  -- Interrupts may come before the loop is registered again. They leave its point alone.
  induction others generalizing loop with
  | nil =>
    have rearmed : loop.handleClosedWatcher.run (.armed :: last) =
        run { loop.handleClosedWatcher with phase := .awaitingEvent, point := .awaiting } last := rfl
    rw [List.nil_append, List.nil_append, rearmed]
    apply run_of_forgetLog
    simp only [forgetLog, handleClosedWatcher, note, ← stands, ← phase]
  | cons input rest ih =>
    cases interrupts input List.mem_cons_self
    have others : ∀ input ∈ rest, input = .interrupt :=
      fun input member => interrupts input (List.mem_cons_of_mem _ member)
    obtain ⟨next, closed, stepped, steppedClosed, point, samePhase, same⟩ := interrupt_closed loop
    have onwards := ih (point.trans stands) (samePhase.trans phase) others
    have first : loop.run (.interrupt :: rest ++ last) = next.run (rest ++ last) := by
      simp only [run, List.cons_append, runAll, stepped, Option.bind_some]
    have firstClosed : loop.handleClosedWatcher.run (.interrupt :: rest ++ .armed :: last) =
        closed.run (rest ++ .armed :: last) := by
      simp only [run, List.cons_append, runAll, steppedClosed, Option.bind_some]
    rw [first, firstClosed, run_of_forgetLog same, onwards]

def returnedOk (loop : ControlLoop) : Bool :=
  match loop.point with
  | .returned (.ok _) => true
  | _ => false

/-- Where the loop waits or has returned, each stop it handled was that of a restart or of an
instance it started, and the last of these is left only where it goes on or failed. Its counters
are those of its calls and its warnings, it is registered once for each wait, a closed watcher
makes no difference to it, and once it is ending it restarts nothing. -/
theorem stops_conserved (fresh : initial.Fresh) (ran : initial.run inputs = some final) :
    ((final.point = .awaiting ∨ ∃ result, final.point = .returned result) →
        ((initial.trace inputs).countP Turn.handlesStop : Int) =
          ((initial.trace inputs).countP Turn.restarts - final.restartsPending) +
            ((initial.trace inputs).countP Turn.starts - 1) + final.returnedOk.toNat) ∧
      final.restartsPending + (initial.trace inputs).countP Turn.settles =
        (initial.trace inputs).countP Turn.restarts ∧
      final.summary.restarts = (initial.trace inputs).countP Turn.restarts ∧
      final.summary.unexpectedStops = (initial.trace inputs).countP Turn.handlesCrash ∧
      final.log.countP warnsOfCrash = (initial.trace inputs).countP Turn.handlesCrash ∧
      (∀ summary, final.point = .returned (.ok summary) → summary = final.summary) ∧
      (initial.trace inputs).countP Turn.notices = (initial.trace inputs).countP Turn.waits + final.arming ∧
      (∀ first last middle, inputs = first ++ last → initial.run first = some middle →
        middle.terminating = true → (middle.trace last).countP Turn.restarts = 0) ∧
      ∀ first others last middle, initial.run first = some middle → middle.point = .awaiting →
        (∀ input ∈ others, input = .interrupt) →
          (initial.run (first ++ .watcherClosed :: (others ++ .armed :: last))).map forgetLog =
            (initial.run (first ++ (others ++ last))).map forgetLog := by
  have books := run_books ran
  have plain : initial.Plain := ⟨by simp [fresh.point], by simp [fresh.point]⟩
  have none : initial.outstanding = 1 ∧ initial.arming = 0 := by
    simp only [outstanding, arming, fresh.point, and_self]
  refine ⟨?_, ?_, ?_, ?_, ?_, (run_plain ran plain).summary, ?_, ?_, ?_⟩
  · intro stands
    have stops := books.stops
    have left : final.outstanding = final.returnedOk.toNat := by
      unfold outstanding returnedOk
      rcases stands with awaits | ⟨result, returned⟩
      · simp [awaits]
      · cases result <;> simp [returned]
    rw [fresh.pending, none.1, left] at stops
    omega
  · rw [books.pending, fresh.pending, Nat.zero_add]
  · rw [books.restarts, fresh.summary]
    exact Nat.zero_add _
  · rw [books.crashes, fresh.summary]
    exact Nat.zero_add _
  · rw [books.warnings, fresh.log]
    exact Nat.zero_add _
  · have notices := books.notices
    omega
  · intro first last middle cut reached ending
    subst cut
    obtain ⟨_, same, onwards⟩ := runAll_append_eq_some.mp ran
    cases reached.symm.trans same
    exact run_restarts_nothing onwards ending
  · intro first others last middle reached stands interrupts
    have phase := (run_plain reached plain).phase stands
    have closed : middle.step .watcherClosed = some middle.handleClosedWatcher := by
      simp [step, stands]
    have reached : runAll step initial first = some middle := reached
    have after (inputs : List LoopInput) : initial.run (first ++ inputs) = middle.run inputs := by
      rw [run, runAll_append, reached]
      rfl
    have goesOn : middle.run (.watcherClosed :: (others ++ .armed :: last)) =
        middle.handleClosedWatcher.run (others ++ .armed :: last) := by
      rw [run, runAll, closed]
      rfl
    rw [after, after, goesOn]
    exact run_closed stands phase interrupts last

/-- A restart is followed by a crash, and a change comes too late after an interrupt. -/
def eventful : List LoopInput :=
  [.run, .started none, .armed, .changed, .restarted none, .armed, .stopped ⟨"one", none⟩, .armed,
    .stopped ⟨"two", some (.exited "two" "exit code 1")⟩, .recovered none, .armed, .interrupt, .changed, .armed,
    .stopped ⟨"three", none⟩, .leave]

theorem eventful_stops_conserved : ∃ final, run { policy := .restart } eventful = some final ∧
    final.returnedOk = true ∧ final.summary.restarts = 1 ∧ final.summary.unexpectedStops = 1 ∧
    (trace { policy := .restart } eventful).countP Turn.starts = 2 := by
  have facts : (run { policy := .restart } eventful).any (fun final =>
      final.returnedOk && decide (final.restartsPending = 0 ∧ final.summary.restarts = 1 ∧
        final.summary.unexpectedStops = 1 ∧
        (trace { policy := .restart } eventful).countP Turn.handlesStop = 3)) = true := by
    decide +kernel
  simp only [Option.any_eq_true, Bool.and_eq_true, decide_eq_true_eq] at facts
  obtain ⟨final, ran, returned, none, one, crash, three⟩ := facts
  have fresh : Fresh { policy := .restart } := by constructor <;> rfl
  have done : ∃ result, final.point = .returned result := by
    unfold returnedOk at returned
    split at returned
    next summary point => exact ⟨_, point⟩
    next => cases returned
  obtain ⟨stops, -, restarts, -⟩ := stops_conserved fresh ran
  have stops := stops (.inr done)
  rw [returned, Bool.toNat_true] at stops
  exact ⟨final, ran, returned, one, crash, by omega⟩

end MockKeeper.ControlLoop
