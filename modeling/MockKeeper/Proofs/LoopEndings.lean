import MockKeeper.Proofs.InterruptLedger

/-! What a run of the control loop leaves behind. Its phase is final however it ends. The flag
that refuses later interrupts is set as well, except where the first start fails before anyone
has interrupted the loop. -/

namespace MockKeeper

namespace ControlLoop

/-- The first start has not succeeded. -/
def Idle (loop : ControlLoop) : Prop :=
  loop.point = .ready ∨ loop.point = .starting ∨ ∃ error, loop.point = .returned (.error error)

theorem step_idle {loop after : ControlLoop} {input : LoopInput} (stepped : loop.step input = some after)
    (unstarted : input ≠ .started none) (idle : loop.Idle) : after.Idle := by
  cases step_steps stepped with
  | run => exact .inr (.inl rfl)
  | started => exact absurd rfl unstarted
  | unstarted => exact .inr (.inr ⟨_, rfl⟩)
  | interrupted | again => exact idle
  | armed stands | ignored stands | changed stands | closed stands | settled stands | crashed stands | last stands
  | restarted stands | recovered stands | left stands =>
    obtain ready | starting | ⟨error, returned⟩ := idle
    · cases stands.symm.trans ready
    · cases stands.symm.trans starting
    · cases stands.symm.trans returned

def Ended (loop : ControlLoop) : Prop := ∀ result, loop.point = .returned result → loop.phase = .terminated

theorem step_ended {loop after : ControlLoop} {input : LoopInput} (stepped : loop.step input = some after)
    (ended : loop.Ended) : after.Ended := by
  cases step_steps stepped with
  | unstarted | left => exact fun _ _ => rfl
  | interrupted | again => exact ended
  | run | started | armed | ignored | changed | closed | settled | crashed | last => exact nofun
  | @restarted failure | @recovered failure => cases failure <;> exact nofun

end ControlLoop

namespace InterruptedLoop

variable {initial final : InterruptedLoop} {inputs : List InterruptedInput}

theorem run_idle (ran : initial.run inputs = some final) (unstarted : .loop (.started none) ∉ inputs)
    (idle : initial.loop.Idle) : final.loop.Idle := by
  induction inputs generalizing initial with
  | nil =>
    cases ran
    exact idle
  | cons input rest ih =>
    obtain ⟨next, stepped, onwards⟩ := runAll_cons_eq_some.mp ran
    simp only [List.mem_cons, not_or] at unstarted
    apply ih onwards unstarted.2
    cases step_steps stepped with
    | moved own moved =>
      apply ControlLoop.step_idle moved _ idle
      rintro rfl
      exact unstarted.1 rfl
    | accepted made going asked => exact ControlLoop.step_idle asked nofun idle
    | called | trapped | signalled | rearmed | refused | removing | removed => exact idle

theorem leaving_of_endsFirst {state after : InterruptedLoop} {input : InterruptedInput}
    (stepped : state.step input = some after) (ends : Turn.endsFirst ⟨state, input, after⟩ = true) :
    ∃ failure, state.loop.point = .leaving failure := by
  cases step_steps stepped with
  | @moved input loop own moved =>
    cases input with
    | leave =>
      cases ControlLoop.step_steps moved with
      | left stands => exact ⟨_, stands⟩
    | _ => cases ends
  | called | trapped | signalled | rearmed | accepted | refused | removing | removed => cases ends

theorem started_of_endsFirst (ran : initial.run inputs = some final) (ready : initial.loop.point = .ready)
    {turn : Turn} (member : turn ∈ initial.trace inputs) (ends : turn.endsFirst = true) :
    .loop (.started none) ∈ inputs := by
  obtain ⟨stepped, first, last, rfl, reached, -⟩ := runAll_around ran member
  apply List.mem_append_left
  apply Classical.byContradiction
  intro absent
  -- Otherwise the loop was idle up to this turn, and an idle loop is not about to leave.
  obtain ⟨failure, leaving⟩ := leaving_of_endsFirst stepped ends
  obtain ready | starting | ⟨error, returned⟩ := run_idle reached absent (.inl ready)
  · cases leaving.symm.trans ready
  · cases leaving.symm.trans starting
  · cases leaving.symm.trans returned

theorem flag_set_iff (ran : initial.run inputs = some final) (ready : initial.loop.point = .ready)
    {result : Except EngineError Summary} (returned : final.loop.point = .returned result) :
    final.loop.terminating = true ↔ initial.loop.terminating = true ∨ .loop (.started none) ∈ inputs ∨
      ∃ turn ∈ initial.trace inputs, turn.takesFlag = true ∧ ∃ call, turn.input = .ask call := by
  have books := run_books ran
  rw [← accepts_pos_iff]
  constructor
  · intro ending
    cases before : initial.loop.terminating with
    | true => exact .inl rfl
    | false =>
      have flag := books.flag
      have takers := books.takers
      rw [before, ending, Bool.toNat_true, Bool.toNat_false] at flag
      by_cases accepts : 0 < (initial.trace inputs).countP Turn.accepts
      · exact .inr (.inr accepts)
      · have ends : 0 < (initial.trace inputs).countP Turn.endsFirst := by omega
        obtain ⟨turn, member, ends⟩ := List.countP_pos_iff.mp ends
        exact .inr (.inl (started_of_endsFirst ran ready member ends))
  · rintro (before | started | accepts)
    · exact run_keeps ControlLoop.terminating_stays ran before
    · exact (underway_of_started ran started).flagged result returned
    · have takers := books.takers
      have flag := books.flag
      cases going : final.loop.terminating with
      | true => rfl
      | false =>
        rw [going, Bool.toNat_false] at flag
        omega

/-- What becomes of a call once the flag is set. -/
inductive Late : Option Interrupt → Option Interrupt → Prop
  | same (entry : Option Interrupt) : Late entry entry
  | made : Late none (some .made)
  | refused : Late (some .made) (some (.answered false))
  | removing : Late (some .accepted) (some .removing)
  | removed : Late (some .removing) (some (.answered true))

theorem Late.move (state : InterruptedLoop) {call : Nat} {old interrupt : Interrupt}
    (found : state.interrupts[call]? = some old) (late : Late (some old) (some interrupt)) (other : Nat) :
    Late state.interrupts[other]? (state.move call interrupt).interrupts[other]? := by
  rw [getElem?_move state found]
  split
  next same =>
    rw [← same, found]
    exact late
  next => exact .same _

theorem Late.call (interrupts : List Interrupt) (call : Nat) :
    Late interrupts[call]? (interrupts ++ [Interrupt.made])[call]? := by
  rcases getElem?_made interrupts call with same | ⟨none, made⟩
  · rw [same]
    exact .same _
  · rw [none, made]
    exact .made

theorem step_late {state after : InterruptedLoop} {input : InterruptedInput}
    (stepped : state.step input = some after) (ending : state.loop.terminating = true) (call : Nat) :
    Late state.interrupts[call]? after.interrupts[call]? := by
  cases step_steps stepped with
  | moved | trapped | rearmed => exact .same _
  | called | signalled => exact .call state.interrupts call
  | accepted made going => cases going.symm.trans ending
  | refused made => exact .move state made .refused call
  | removing accepted => exact .move state accepted .removing call
  | removed removing => exact .move state removing .removed call

theorem run_late {motive : Option Interrupt → Prop}
    (kept : ∀ {before after}, Late before after → motive before → motive after)
    (ran : initial.run inputs = some final) (ending : initial.loop.terminating = true) (call : Nat)
    (first : motive initial.interrupts[call]?) : motive final.interrupts[call]? := by
  have both : final.loop.terminating = true ∧ motive final.interrupts[call]? := by
    refine runAll_keeps (motive := fun state => state.loop.terminating = true ∧ motive state.interrupts[call]?) ?_ ran
      ⟨ending, first⟩
    intro before input after stepped held
    refine ⟨?_, kept (step_late stepped held.1 call) held.2⟩
    rcases loop_steps stepped with same | ⟨input, moved⟩
    · rw [same]
      exact held.1
    · exact ControlLoop.terminating_stays moved held.1
  exact both.2

theorem remover_of_step {state after : InterruptedLoop} {input : InterruptedInput}
    (stepped : state.step input = some after) (removes : Turn.removes ⟨state, input, after⟩ = true) :
    ∃ call, input = .remove call ∧ state.interrupts[call]? = some .accepted := by
  have asks : Turn.asks ⟨state, input, after⟩ = some (.remove Session.stopChannel) := of_decide_eq_true removes
  cases step_steps stepped with
  | removing accepted => exact ⟨_, rfl, accepted⟩
  | @moved input loop => exact absurd asks (ControlLoop.operation?_ne_remove loop _)
  | called | trapped | signalled | rearmed | accepted | refused | removed => cases asks

/-- However a run of the loop ends, its phase is final. The flag is set unless the first start has
failed, without a call that took the flag before. Where it is set every call that comes later is
refused, and the engine is asked for a removal only by a call that was accepted before. -/
theorem returned_loop_is_over (ran : initial.run inputs = some final) (ready : initial.loop.point = .ready)
    {result : Except EngineError Summary} (returned : final.loop.point = .returned result) :
    final.loop.phase = .terminated ∧
      (final.loop.terminating = true ↔ initial.loop.terminating = true ∨ .loop (.started none) ∈ inputs ∨
        ∃ turn ∈ initial.trace inputs, turn.takesFlag = true ∧ ∃ call, turn.input = .ask call) ∧
      ∀ later last, final.run later = some last →
        last.loop.point = .returned result ∧ last.loop.phase = .terminated ∧
          (final.loop.terminating = true → last.loop.terminating = true ∧
            (∀ (call : Nat) (interrupt : Interrupt),
              final.interrupts[call]? = none ∨ final.interrupts[call]? = some .made →
                last.interrupts[call]? = some interrupt → interrupt = .made ∨ interrupt = .answered false) ∧
            (∀ call : Nat, last.interrupts[call]? = some .made → ∃ after, last.step (.ask call) = some after ∧
              after.interrupts[call]? = some (.answered false) ∧ after.loop = last.loop) ∧
            ∀ turn ∈ final.trace later, turn.removes = true →
              ∃ call, turn.input = .remove call ∧ final.interrupts[call]? = some .accepted) := by
  have unreturned : initial.loop.Ended := fun _ returned => by cases ready.symm.trans returned
  have ended := run_keeps ControlLoop.step_ended ran unreturned
  refine ⟨ended result returned, flag_set_iff ran ready returned, ?_⟩
  intro later last onwards
  have stays : last.loop.point = .returned result :=
    run_keeps (fun stepped held => ControlLoop.returned_stays stepped held) onwards returned
  refine ⟨stays, run_keeps ControlLoop.step_ended onwards ended result stays, ?_⟩
  intro ending
  have set := run_keeps ControlLoop.terminating_stays onwards ending
  refine ⟨set, ?_, fun call made => ask_refused made set, ?_⟩
  · intro call interrupt new found
    have refused : last.interrupts[call]? = none ∨ last.interrupts[call]? = some .made ∨
        last.interrupts[call]? = some (.answered false) := by
      refine run_late (motive := fun entry => entry = none ∨ entry = some .made ∨ entry = some (.answered false))
        ?_ onwards ending call (new.imp_right .inl)
      intro before after late entry
      cases late with
      | same => exact entry
      | made => exact .inr (.inl rfl)
      | refused => exact .inr (.inr rfl)
      | removing | removed => simp at entry
    rw [found] at refused
    simpa using refused
  · intro turn member removes
    obtain ⟨stepped, first, rest, -, reached, -⟩ := runAll_around onwards member
    obtain ⟨call, remove, accepted⟩ := remover_of_step stepped removes
    refine ⟨call, remove, ?_⟩
    apply Classical.byContradiction
    intro other
    have still : turn.before.interrupts[call]? ≠ some .accepted := by
      refine run_late (motive := (· ≠ some .accepted)) ?_ reached ending call other
      intro before after late entry
      cases late with
      | same => exact entry
      | made | refused | removing | removed => exact nofun
    exact still accepted

def failedRestart : List InterruptedInput :=
  [.loop .run, .loop (.started none), .loop .armed, .loop .changed, .loop (.restarted (some (.system "disk full"))),
    .loop .leave]

theorem interrupt_after_failed_restart_is_refused : ∃ final last, run { loop := {} } failedRestart = some final ∧
    final.loop.point = .returned (.error (.system "disk full")) ∧ final.loop.phase = .terminated ∧
    final.loop.terminating = true ∧ final.run [.interrupt, .ask 0] = some last ∧
    last.interrupts = [.answered false] ∧ ∀ turn ∈ final.trace [.interrupt, .ask 0], turn.removes = false := by
  obtain ⟨final, ran⟩ : ∃ final, run { loop := {} } failedRestart = some final := ⟨_, rfl⟩
  have returned : final.loop.point = .returned (.error (.system "disk full")) := by
    cases ran
    rfl
  obtain ⟨phase, flag, later⟩ := returned_loop_is_over ran rfl returned
  have ending := flag.mpr (.inr (.inl (by simp [failedRestart])))
  obtain ⟨last, onwards⟩ : ∃ last, final.run [.interrupt, .ask 0] = some last := by
    cases ran
    exact ⟨_, rfl⟩
  obtain ⟨-, -, refuses⟩ := later _ last onwards
  obtain ⟨-, -, -, removes⟩ := refuses ending
  refine ⟨final, last, ran, returned, phase, ending, onwards, ?_, ?_⟩
  · cases ran
    cases onwards
    rfl
  · intro turn member
    apply Bool.eq_false_iff.mpr
    intro asks
    obtain ⟨call, -, accepted⟩ := removes turn member asks
    cases ran
    cases accepted

/-- Where the first start fails the loop returns without the flag, and a call that comes later has
the engine removed. -/
theorem interrupt_after_failed_start_is_accepted :
    ∃ final last, run { loop := {} } [.loop .run, .loop (.started (some (.system "disk full")))] = some final ∧
      final.loop.point = .returned (.error (.system "disk full")) ∧ final.loop.terminating = false ∧
      final.run [.interrupt, .ask 0, .remove 0, .removed 0] = some last ∧ last.interrupts = [.answered true] ∧
      (final.trace [.interrupt, .ask 0, .remove 0, .removed 0]).countP Turn.removes = 1 :=
  ⟨_, _, rfl, rfl, rfl, rfl, rfl, rfl⟩

end InterruptedLoop

end MockKeeper
