import MockKeeper.Proofs.InstanceObservers
import MockKeeper.Proofs.Lookup
import Mathlib.Data.List.Nodup

/-! Everyone who waits for an engine instance learns of the same ending. A channel is told of it
once, however often it was registered and through whichever clones. -/

namespace MockKeeper.ObservedInstance

def Turn.notifiesTo (channel : Nat) (turn : Turn) : Bool := decide (turn.notifies.map Prod.fst = some channel)

theorem notifies_report {state after : ObservedInstance} {channel : Nat} {error : Option EngineError}
    (gone : state.entry.gone? = some error) (waiting : channel ∈ state.entry.waiters) :
    Turn.notifies ⟨state, .report channel, after⟩ = some (channel, ⟨state.entry.id, error⟩) := by
  simp only [Turn.notifies, Instance.report_eq gone waiting, Option.map_some]

theorem notice_of_step {state after : ObservedInstance} {input : ObservedInput}
    (stepped : state.step input = some after) {channel : Nat} {event : StopEvent}
    (notified : Turn.notifies ⟨state, input, after⟩ = some (channel, event)) :
    event.id = state.entry.id ∧ state.entry.gone? = some event.error ∧
      after.channels = state.notify channel event := by
  cases step_steps stepped with
  | reported gone waiting =>
    rw [notifies_report gone waiting] at notified
    cases notified
    exact ⟨rfl, gone, rfl⟩
  | marked | killed | ended | examined | published | registered | waited | answered | used => cases notified

/-- A notice is one of those that are due, and a registration makes one due unless it was made before. -/
theorem step_notices {state after : ObservedInstance} {input : ObservedInput}
    (stepped : state.step input = some after) (channel : Nat) :
    (Turn.notifiesTo channel ⟨state, input, after⟩).toNat + after.entry.waiters.count channel +
      state.entry.watchers.count channel = after.entry.watchers.count channel + state.entry.waiters.count channel := by
  cases step_steps stepped with
  | marked | killed | ended | examined | published | waited | answered | used =>
    exact (congrArg (· + _) (Nat.zero_add _)).trans (Nat.add_comm _ _)
  | @registered clone other found =>
    have none : Turn.notifiesTo channel ⟨state, .register clone, { state with entry := state.entry.watch other }⟩ =
        false := rfl
    have counts : (state.entry.watch other).waiters.count channel + state.entry.watchers.count channel =
        (state.entry.watch other).watchers.count channel + state.entry.waiters.count channel := by
      unfold Instance.watch
      split
      · exact Nat.add_comm _ _
      · simp only [List.count_append]
        omega
    rw [none, Bool.toNat_false, Nat.zero_add]
    exact counts
  | @reported other error gone waiting =>
    simp only [Turn.notifiesTo, notifies_report gone waiting, Option.map_some, Option.some.injEq]
    by_cases same : other = channel
    · subst same
      have due := List.count_pos_iff.mpr waiting
      simp only [decide_true, Bool.toNat_true, List.count_erase_self]
      omega
    · simp only [same, decide_false, Bool.toNat_false, List.count_erase_of_ne (Ne.symm same)]
      omega

theorem step_registered {state after : ObservedInstance} {input : ObservedInput}
    (stepped : state.step input = some after) (channel : Nat) : after.clones = state.clones ∧
      (channel ∈ after.entry.watchers ↔ channel ∈ state.entry.watchers ∨
        ∃ clone, input = .register clone ∧ state.clones[clone]? = some channel) := by
  cases step_steps stepped with
  | marked | killed | ended | examined | published | reported | waited | answered | used =>
    exact ⟨rfl, by simp [Instance.markStopping, Instance.requestKill]⟩
  | @registered clone other found =>
    refine ⟨rfl, ?_⟩
    unfold Instance.watch
    split
    next known =>
      simp [found]
      rintro rfl
      exact known
    next => simp [found, eq_comm]

theorem step_nodup {state after : ObservedInstance} {input : ObservedInput}
    (stepped : state.step input = some after) (distinct : state.entry.watchers.Nodup) :
    after.entry.watchers.Nodup := by
  cases step_steps stepped with
  | marked | killed | ended | examined | published | reported | waited | answered | used => exact distinct
  | registered =>
    unfold Instance.watch
    split
    · exact distinct
    next new =>
      refine List.nodup_append.mpr ⟨distinct, by simp, ?_⟩
      intro other member last same equal
      rw [equal, List.mem_singleton.mp same] at member
      exact new member

variable {initial final : ObservedInstance} {inputs : List ObservedInput}

theorem run_notices (ran : initial.run inputs = some final) (channel : Nat) :
    (initial.trace inputs).countP (Turn.notifiesTo channel) + final.entry.waiters.count channel +
      initial.entry.watchers.count channel =
        final.entry.watchers.count channel + initial.entry.waiters.count channel := by
  refine runAll_induction (motive := fun before after turns =>
    turns.countP (Turn.notifiesTo channel) + after.entry.waiters.count channel +
      before.entry.watchers.count channel =
        after.entry.watchers.count channel + before.entry.waiters.count channel) ?_ ?_ ran
  · intro state
    simp [Nat.add_comm]
  · intro before input next after rest stepped later
    have now := step_notices stepped channel
    have one : ∀ turn : Turn, (turn :: rest).countP (Turn.notifiesTo channel) =
        rest.countP (Turn.notifiesTo channel) + (turn.notifiesTo channel).toNat := by
      intro turn
      rw [List.countP_cons]
      cases turn.notifiesTo channel <;> rfl
    rw [one]
    omega

theorem run_registered (ran : initial.run inputs = some final) (channel : Nat) :
    channel ∈ final.entry.watchers ↔ channel ∈ initial.entry.watchers ∨
      ∃ clone, .register clone ∈ inputs ∧ initial.clones[clone]? = some channel := by
  induction inputs generalizing initial with
  | nil =>
    cases ran
    simp
  | cons input rest ih =>
    obtain ⟨next, stepped, onwards⟩ := runAll_cons_eq_some.mp ran
    obtain ⟨clones, watchers⟩ := step_registered stepped channel
    rw [ih onwards, watchers, clones]
    simp only [List.mem_cons, or_and_right, exists_or, eq_comm, or_assoc]

theorem New.notices (new : initial.New) (ran : initial.run inputs = some final) (channel : Nat) :
    (initial.trace inputs).countP (Turn.notifiesTo channel) + final.entry.waiters.count channel =
      final.entry.watchers.count channel := by
  have books := run_notices ran channel
  rw [new.entry] at books
  exact books

theorem New.distinct (new : initial.New) (ran : initial.run inputs = some final) : final.entry.watchers.Nodup := by
  refine runAll_keeps (motive := fun state => state.entry.watchers.Nodup) ?_ ran ?_
  · exact fun _ _ _ stepped distinct => step_nodup stepped distinct
  · rw [new.entry]
    exact .nil

theorem New.registered (new : initial.New) (ran : initial.run inputs = some final) (channel : Nat) :
    channel ∈ final.entry.watchers ↔ ∃ clone, .register clone ∈ inputs ∧ initial.clones[clone]? = some channel := by
  have registered := run_registered ran channel
  rw [new.entry] at registered
  simpa using registered

/-- What a call was told is what is published. -/
def Honest (state : ObservedInstance) : Prop :=
  ∀ (call : Nat) (error : Option EngineError), state.waits[call]? = some (some error) → state.Over error

theorem step_honest {name : String} {past : List ObservedInput} {state after : ObservedInstance}
    {input : ObservedInput} (stepped : state.step input = some after) (told : Told name past state)
    (honest : state.Honest) : after.Honest := by
  intro call error found
  cases step_steps stepped with
  | marked | killed | ended | examined | published | registered | reported | used =>
    exact step_over stepped (honest call error found)
  | waited =>
    apply step_over stepped
    rcases List.mem_append.mp (List.mem_of_getElem? found) with old | new
    · obtain ⟨before, same⟩ := List.mem_iff_getElem?.mp old
      exact honest before error same
    · cases List.mem_singleton.mp new
  | @answered other published asked gone =>
    apply step_over stepped
    simp only [List.getElem?_modify] at found
    split at found
    next same =>
      rw [← same, asked] at found
      cases found
      exact told.over gone
    next => exact honest call error (by simpa using found)

theorem run_honest {name : String} {past : List ObservedInput} (ran : initial.run inputs = some final)
    (told : Told name past initial) (honest : initial.Honest) : final.Honest := by
  induction inputs generalizing initial past with
  | nil =>
    cases ran
    exact honest
  | cons input rest ih =>
    obtain ⟨next, stepped, onwards⟩ := runAll_cons_eq_some.mp ran
    exact ih onwards (step_told stepped told) (step_honest stepped told honest)

def stage (state : ObservedInstance) : Nat :=
  match state.entry.supervision, state.verdict with
  | .ended _, none => 2
  | .ended _, some _ => 1
  | _, _ => 0

def due (state : ObservedInstance) : Nat :=
  state.stage + state.entry.waiters.length + state.waits.countP Option.isNone

theorem step_due {name : String} {past : List ObservedInput} {state after : ObservedInstance} {input : ObservedInput}
    (stepped : state.step input = some after) (told : Told name past state) (own : input.isOwn = true) :
    after.due < state.due := by
  cases step_steps stepped with
  | marked | killed | ended | registered | waited | used => cases own
  | examined unjudged ended => simp [due, stage, unjudged, ended]
  | @published verdict judged =>
    have story := told.story
    simp only [due, stage]
    rw [judged] at story ⊢
    generalize state.entry.supervision = supervision at story
    cases story with
    | @examined outcome marked examined => cases outcome <;> simp [Instance.judged]
  | @reported channel error gone waiting =>
    have fewer : (state.entry.waiters.erase channel).length + 1 = state.entry.waiters.length := by
      have pos := List.length_pos_of_mem waiting
      rw [List.length_erase_of_mem waiting]
      omega
    simp only [due, stage]
    omega
  | @answered call error asked gone =>
    have fewer := countP_modify Option.isNone (fun _ => some error) asked
    simp only [Option.isNone_none, Option.isNone_some, Bool.false_eq_true, if_true, if_false] at fewer
    simp only [due, stage]
    omega

theorem settles {name : String} {past : List ObservedInput} {state : ObservedInstance} (told : Told name past state) :
    ∃ own last, (∀ input ∈ own, input.isOwn = true) ∧ state.run own = some last ∧ last.Settled := by
  by_cases settled : state.Settled
  · exact ⟨[], state, by simp, rfl, settled⟩
  · unfold Settled at settled
    push Not at settled
    obtain ⟨input, own, possible⟩ := settled
    obtain ⟨next, stepped⟩ := Option.ne_none_iff_exists'.mp possible
    have fewer := step_due stepped told own
    obtain ⟨rest, last, owns, ran, settled⟩ := settles (step_told stepped told)
    refine ⟨input :: rest, last, List.forall_mem_cons.mpr ⟨own, owns⟩, ?_, settled⟩
    simp only [run, runAll, stepped, Option.bind_some]
    exact ran
termination_by state.due

theorem Settled.gone {name : String} {past : List ObservedInput} {state : ObservedInstance} (settled : state.Settled)
    (told : Told name past state) {outcome : Outcome} (ended : .ended outcome ∈ past) :
    ∃ error, state.entry.gone? = some error := by
  have story := told.story
  generalize stands : state.entry.supervision = supervision at story
  generalize judged : state.verdict = verdict at story
  cases story with
  | running unended => exact absurd ended (unended outcome)
  | ended =>
    have examine := settled .examine rfl
    simp [step, judged, Instance.examine_eq stands] at examine
  | examined =>
    have publish := settled .publish rfl
    simp [step, judged] at publish
  | published => exact ⟨_, Instance.gone?_judged stands⟩

theorem Settled.waiters {state : ObservedInstance} (settled : state.Settled) {error : Option EngineError}
    (gone : state.entry.gone? = some error) : state.entry.waiters = [] := by
  apply List.eq_nil_iff_forall_not_mem.mpr
  intro channel waiting
  have report := settled (.report channel) rfl
  simp [step, Instance.report_eq gone waiting] at report

theorem Settled.waits {state : ObservedInstance} (settled : state.Settled) (honest : state.Honest)
    {error : Option EngineError} (gone : state.entry.gone? = some error) {call : Nat}
    {told : Option (Option EngineError)} (found : state.waits[call]? = some told) : told = some error := by
  cases told with
  | none =>
    have answer := settled (.answer call) rfl
    simp [step, found, gone] at answer
  | some other => exact (honest call other found).gone.symm.trans gone

/-- All who have to do with an instance agree. The ending is fixed once it is published, and never
changes; it is an error unless a stop was asked for before the supervisor looked, the ending was
clean or the supervisor died. Each wait and each notice tells it, and a channel is given one notice
at most. Once the instance has ended and nothing is left to do, each wait was told, and a channel
was given a notice where it was registered through some clone. -/
theorem observers_agree (new : initial.New) (ran : initial.run inputs = some final) :
    (∀ error, final.entry.gone? = some error →
      (∀ later last, final.run later = some last → last.entry.gone? = some error) ∧
        ∃ first last outcome, inputs = first ++ .examine :: last ∧ .examine ∉ first ∧ .examine ∉ last ∧
          .ended outcome ∈ first ∧ (error = none ↔ .mark ∈ first ∨ outcome = .success ∨ outcome = .lost) ∧
          (error ≠ none → error = Instance.publishedError initial.entry.id false outcome)) ∧
      (∀ (call : Nat) (error : Option EngineError), final.waits[call]? = some (some error) →
        final.entry.gone? = some error) ∧
      (∀ turn ∈ initial.trace inputs, ∀ channel event, turn.notifies = some (channel, event) →
        event.id = initial.entry.id ∧ final.entry.gone? = some event.error ∧
          turn.after.channels = turn.before.notify channel event) ∧
      (∀ channel, (initial.trace inputs).countP (Turn.notifiesTo channel) ≤ 1) ∧
      ((∃ outcome, .ended outcome ∈ inputs) → final.Settled → final.entry.gone?.isSome = true ∧
        (∀ (call : Nat) (told : Option (Option EngineError)), final.waits[call]? = some told →
          told = final.entry.gone?) ∧
        ∀ channel, (initial.trace inputs).countP (Turn.notifiesTo channel) = 1 ↔
          ∃ clone, .register clone ∈ inputs ∧ initial.clones[clone]? = some channel) ∧
      ∃ own last, (∀ input ∈ own, input.isOwn = true) ∧ final.run own = some last ∧ last.Settled := by
  have told : Told initial.entry.id inputs final := run_told ran new.told
  have honest : final.Honest := by
    apply run_honest ran new.told
    intro call error found
    rw [new.waits] at found
    cases found
  refine ⟨?_, fun call error found => (honest call error found).gone, ?_, ?_, ?_, settles told⟩
  · intro error gone
    exact ⟨fun later last onwards => (run_over onwards (told.over gone)).gone, told.ending gone⟩
  · intro turn member channel event notified
    obtain ⟨stepped, first, last, rfl, reached, onwards⟩ := runAll_around ran member
    obtain ⟨id, gone, channels⟩ := notice_of_step stepped notified
    have toldBefore : Told initial.entry.id first turn.before := run_told reached new.told
    exact ⟨id.trans toldBefore.id, (run_over onwards (step_over stepped (toldBefore.over gone))).gone, channels⟩
  · -- What was given and what is still due add up to the registrations, and those are distinct.
    intro channel
    have most := List.nodup_iff_count_le_one.mp (new.distinct ran) channel
    have notices := new.notices ran channel
    omega
  · rintro ⟨outcome, ended⟩ settled
    obtain ⟨error, gone⟩ := settled.gone told ended
    refine ⟨by rw [gone]; rfl, ?_, ?_⟩
    · intro call answer found
      rw [gone]
      exact settled.waits honest gone found
    · intro channel
      have notices := new.notices ran channel
      rw [settled.waiters gone, List.count_nil, Nat.add_zero] at notices
      rw [notices, ← new.registered ran]
      constructor
      · intro once
        exact List.count_pos_iff.mp (by omega)
      · intro member
        exact List.count_eq_one_of_mem (new.distinct ran) member

/-- A channel is registered through two clones, one of them again after the end. The stop is asked for
when the failure was examined already, and before it is published. -/
def lateMark : List ObservedInput :=
  [.register 0, .wait, .register 1, .ended (.failure "exit code 1"), .examine, .mark, .publish, .report 0, .register 0,
    .wait, .answer 1, .answer 0]

def twiceCloned : ObservedInstance := { entry := { id := "one" }, clones := [0, 0], channels := [{}] }

theorem late_mark_is_not_seen : ∃ final, twiceCloned.run lateMark = some final ∧
    final.entry.stopRequested = true ∧ final.entry.gone? = some (some (.exited "one" "exit code 1")) ∧
    final.waits = [some (some (.exited "one" "exit code 1")), some (some (.exited "one" "exit code 1"))] ∧
    final.channels.map StopChannel.queue = [[⟨"one", some (.exited "one" "exit code 1")⟩]] ∧
    (twiceCloned.trace lateMark).countP (Turn.notifiesTo 0) ≤ 1 := by
  have new : New twiceCloned := ⟨rfl, rfl, rfl⟩
  obtain ⟨final, ran⟩ : ∃ final, twiceCloned.run lateMark = some final := ⟨_, rfl⟩
  obtain ⟨-, waits, -, most, -, -⟩ := observers_agree new ran
  refine ⟨final, ran, ?_, ?_, ?_, ?_, most 0⟩
  · cases ran
    rfl
  · apply waits 0
    cases ran
    rfl
  · cases ran
    rfl
  · cases ran
    rfl

end MockKeeper.ObservedInstance
