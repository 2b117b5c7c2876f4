import MockKeeper.Proofs.InstanceLife
import MockKeeper.Proofs.Traces

/-! An engine instance and everyone around it: its supervisor, those who ask for its end, calls
that wait for the end, and channels that are registered through clones. These act in any order.
The ending is examined once, and what was asked for by then decides what is published. -/

namespace MockKeeper

namespace Instance

def judged (id : String) (stopRequested : Bool) (outcome : Outcome) : Supervision :=
  match outcome with
  | .lost => .lost
  | outcome => .published (publishedError id stopRequested outcome)

theorem gone?_judged {entry : Instance} {id : String} {stopRequested : Bool} {outcome : Outcome}
    (stands : entry.supervision = judged id stopRequested outcome) :
    entry.gone? = some (publishedError id stopRequested outcome) := by
  unfold gone?
  rw [stands]
  cases outcome <;> rfl

theorem examine_eq {entry : Instance} {outcome : Outcome} (ended : entry.supervision = .ended outcome) :
    entry.examine =
      some { entry with supervision := judged entry.id entry.stopRequested outcome } := by
  unfold examine
  rw [ended]
  cases outcome <;> rfl

theorem ended_of_examine {entry after : Instance} (examined : entry.examine = some after) :
    ∃ outcome, entry.supervision = .ended outcome := by
  unfold examine at examined
  split at examined
  next ended => exact ⟨_, ended⟩
  next outcome _ ended => exact ⟨outcome, ended⟩
  next => cases examined

theorem publishedError_eq_none {id : String} {stopRequested : Bool} {outcome : Outcome} :
    publishedError id stopRequested outcome = none ↔
      stopRequested = true ∨ outcome = .success ∨ outcome = .lost := by
  cases outcome <;> cases stopRequested <;> simp [publishedError]

theorem report_eq {entry : Instance} {error : Option EngineError} {channel : Nat} (gone : entry.gone? = some error)
    (waiting : channel ∈ entry.waiters) :
    entry.report channel =
      some (⟨entry.id, error⟩, { entry with waiters := entry.waiters.erase channel }) := by
  simp [report, gone, waiting]

theorem gone_of_report {entry after : Instance} {channel : Nat} {event : StopEvent}
    (reported : entry.report channel = some (event, after)) : entry.gone? = some event.error := by
  unfold report at reported
  split at reported
  next error gone =>
    split at reported <;> cases reported
    exact gone
  next => cases reported

end Instance

structure ObservedInstance where
  entry : Instance
  /-- What the supervisor has made of the ending, until it publishes it. -/
  verdict : Option Supervision := none
  /-- The calls that wait for the end, and what each was told. -/
  waits : List (Option (Option EngineError)) := []
  clones : List Nat := []
  channels : List StopChannel := []

inductive ObservedInput
  | mark
  | kill
  | ended (outcome : Outcome)
  /-- The supervisor looks whether the stop was asked for. -/
  | examine
  | publish
  | register (clone : Nat)
  | report (channel : Nat)
  | wait
  | answer (call : Nat)
  | used (channel : Nat) (queue : StopChannel)

/-- What the supervisor and those who wait do by themselves. -/
def ObservedInput.isOwn : ObservedInput → Bool
  | .examine | .publish | .report _ | .answer _ => true
  | _ => false

namespace ObservedInstance

def notify (state : ObservedInstance) (channel : Nat) (event : StopEvent) : List StopChannel :=
  state.channels.modify channel fun queue => (queue.notify event).2

def step (state : ObservedInstance) : ObservedInput → Option ObservedInstance
  | .mark => some { state with entry := state.entry.markStopping }
  | .kill => some { state with entry := state.entry.requestKill }
  | .ended outcome => (state.entry.finish outcome).map fun entry => { state with entry }
  | .examine =>
    if state.verdict.isSome then none
    else (state.entry.examine).map fun entry => { state with verdict := some entry.supervision }
  | .publish => (state.verdict).map fun verdict =>
      { state with entry := { state.entry with supervision := verdict }, verdict := none }
  | .register clone => (state.clones[clone]?).map fun channel =>
      { state with entry := state.entry.watch channel }
  | .report channel => (state.entry.report channel).map fun (event, entry) =>
      { state with entry, channels := state.notify channel event }
  | .wait => some { state with waits := state.waits ++ [none] }
  | .answer call =>
    match state.waits[call]?, state.entry.gone? with
    | some none, some error => some { state with waits := state.waits.modify call fun _ => some error }
    | _, _ => none
  | .used channel queue => some { state with channels := state.channels.set channel queue }

abbrev Turn := MockKeeper.Turn ObservedInstance ObservedInput

def run (state : ObservedInstance) (inputs : List ObservedInput) : Option ObservedInstance :=
  runAll step state inputs

def trace (state : ObservedInstance) (inputs : List ObservedInput) : List Turn := turns step state inputs

def Turn.notifies (turn : Turn) : Option (Nat × StopEvent) :=
  match turn.input with
  | .report channel => (turn.before.entry.report channel).map fun reported => (channel, reported.1)
  | _ => none

structure New (state : ObservedInstance) : Prop where
  entry : state.entry = { id := state.entry.id, pid := state.entry.pid }
  verdict : state.verdict = none
  waits : state.waits = []

def Settled (state : ObservedInstance) : Prop := ∀ input, input.isOwn = true → state.step input = none

inductive Steps (state : ObservedInstance) : ObservedInput → ObservedInstance → Prop
  | marked : Steps state .mark { state with entry := state.entry.markStopping }
  | killed : Steps state .kill { state with entry := state.entry.requestKill }
  | ended {outcome : Outcome} (running : state.entry.supervision = .running) :
      Steps state (.ended outcome) { state with entry := { state.entry with supervision := .ended outcome } }
  | examined {outcome : Outcome} (unjudged : state.verdict = none)
      (ended : state.entry.supervision = .ended outcome) :
      Steps state .examine
        { state with verdict := some (Instance.judged state.entry.id state.entry.stopRequested outcome) }
  | published {verdict : Supervision} (judged : state.verdict = some verdict) :
      Steps state .publish { state with entry := { state.entry with supervision := verdict }, verdict := none }
  | registered {clone channel : Nat} (found : state.clones[clone]? = some channel) :
      Steps state (.register clone) { state with entry := state.entry.watch channel }
  | reported {channel : Nat} {error : Option EngineError} (gone : state.entry.gone? = some error)
      (waiting : channel ∈ state.entry.waiters) :
      Steps state (.report channel)
        { state with
          entry := { state.entry with waiters := state.entry.waiters.erase channel }
          channels := state.notify channel ⟨state.entry.id, error⟩ }
  | waited : Steps state .wait { state with waits := state.waits ++ [none] }
  | answered {call : Nat} {error : Option EngineError} (asked : state.waits[call]? = some none)
      (gone : state.entry.gone? = some error) :
      Steps state (.answer call) { state with waits := state.waits.modify call fun _ => some error }
  | used {channel : Nat} {queue : StopChannel} :
      Steps state (.used channel queue) { state with channels := state.channels.set channel queue }

theorem step_steps {state after : ObservedInstance} {input : ObservedInput}
    (stepped : state.step input = some after) : state.Steps input after := by
  cases input with
  | mark =>
    cases stepped
    exact .marked
  | kill =>
    cases stepped
    exact .killed
  | ended outcome =>
    obtain ⟨entry, finished, rfl⟩ := Option.map_eq_some_iff.mp stepped
    unfold Instance.finish at finished
    split at finished <;> cases finished
    next running => exact .ended running
  | examine =>
    simp only [step] at stepped
    split at stepped
    · cases stepped
    · next unjudged =>
      obtain ⟨entry, examined, rfl⟩ := Option.map_eq_some_iff.mp stepped
      obtain ⟨outcome, ended⟩ := Instance.ended_of_examine examined
      rw [Instance.examine_eq ended] at examined
      cases examined
      exact .examined (by simpa using unjudged) ended
  | publish =>
    obtain ⟨verdict, judged, rfl⟩ := Option.map_eq_some_iff.mp stepped
    exact .published judged
  | register clone =>
    obtain ⟨channel, found, rfl⟩ := Option.map_eq_some_iff.mp stepped
    exact .registered found
  | report channel =>
    obtain ⟨⟨event, entry⟩, reported, rfl⟩ := Option.map_eq_some_iff.mp stepped
    have gone := Instance.gone_of_report reported
    obtain ⟨id, waiting, rfl⟩ := Instance.report_event reported
    have same : event = ⟨state.entry.id, event.error⟩ := by rw [← id]
    rw [same]
    exact .reported gone waiting
  | wait =>
    cases stepped
    exact .waited
  | answer call =>
    simp only [step] at stepped
    split at stepped <;> cases stepped
    next asked gone => exact .answered asked gone
  | used channel queue =>
    cases stepped
    exact .used

/-- The supervisor that looks and publishes without being disturbed does what it does at once. -/
theorem examine_then_publish {state : ObservedInstance} {entry : Instance} (unjudged : state.verdict = none)
    (examined : state.entry.examine = some entry) :
    state.run [.examine, .publish] = some { state with entry } := by
  obtain ⟨outcome, ended⟩ := Instance.ended_of_examine examined
  have same := Instance.examine_eq ended
  cases same.symm.trans examined
  simp [run, runAll, step, unjudged, same]

variable {initial final : ObservedInstance} {inputs : List ObservedInput}

/-- The supervisor has looked at an ending, once. It counts whether a stop was asked for by then. -/
def Examined (inputs : List ObservedInput) (outcome : Outcome) (marked : Bool) : Prop :=
  ∃ first last, inputs = first ++ .examine :: last ∧ .ended outcome ∈ first ∧ .examine ∉ first ∧ .examine ∉ last ∧
    (marked = true ↔ .mark ∈ first)

/-- How far the ending of an instance has come, by what has happened to it. -/
inductive Story (id : String) (inputs : List ObservedInput) : Supervision → Option Supervision → Prop
  | running (unended : ∀ outcome, .ended outcome ∉ inputs) (unexamined : .examine ∉ inputs) :
      Story id inputs .running none
  | ended {outcome : Outcome} (ended : .ended outcome ∈ inputs) (unexamined : .examine ∉ inputs) :
      Story id inputs (.ended outcome) none
  | examined {outcome : Outcome} {marked : Bool} (examined : Examined inputs outcome marked) :
      Story id inputs (.ended outcome) (some (Instance.judged id marked outcome))
  | published {outcome : Outcome} {marked : Bool} (examined : Examined inputs outcome marked) :
      Story id inputs (Instance.judged id marked outcome) none

theorem Examined.snoc {outcome : Outcome} {marked : Bool} (examined : Examined inputs outcome marked)
    {input : ObservedInput} (other : input ≠ .examine) : Examined (inputs ++ [input]) outcome marked := by
  obtain ⟨first, last, rfl, ended, unexamined, once, mark⟩ := examined
  refine ⟨first, last ++ [input], by simp, ended, unexamined, ?_, mark⟩
  simpa [not_or] using ⟨once, other.symm⟩

theorem Story.snoc {id : String} {supervision : Supervision} {verdict : Option Supervision}
    (story : Story id inputs supervision verdict) {input : ObservedInput} (unexamined : input ≠ .examine)
    (unended : ∀ outcome, input ≠ .ended outcome) : Story id (inputs ++ [input]) supervision verdict := by
  have absent (past : .examine ∉ inputs) : .examine ∉ inputs ++ [input] := by
    simpa [not_or] using ⟨past, unexamined.symm⟩
  cases story with
  | running before examined =>
    refine .running ?_ (absent examined)
    intro outcome member
    rcases List.mem_append.mp member with old | new
    · exact before outcome old
    · exact unended outcome (List.mem_singleton.mp new).symm
  | ended ended examined => exact .ended (List.mem_append_left _ ended) (absent examined)
  | examined examined => exact .examined (examined.snoc unexamined)
  | published examined => exact .published (examined.snoc unexamined)

theorem judged_ne_running {id : String} {marked : Bool} {outcome : Outcome} :
    Instance.judged id marked outcome ≠ .running := by
  cases outcome <;> exact nofun

theorem judged_ne_ended {id : String} {marked : Bool} {outcome other : Outcome} :
    Instance.judged id marked outcome ≠ .ended other := by
  cases outcome <;> exact nofun

structure Told (name : String) (inputs : List ObservedInput) (state : ObservedInstance) : Prop where
  id : state.entry.id = name
  mark : state.entry.stopRequested = true ↔ .mark ∈ inputs
  story : Story name inputs state.entry.supervision state.verdict

theorem New.told (new : initial.New) : Told initial.entry.id [] initial := by
  refine ⟨rfl, ?_, ?_⟩
  · rw [new.entry]
    simp
  · rw [new.entry, new.verdict]
    exact .running (by simp) (by simp)

theorem step_told {name : String} {past : List ObservedInput} {state after : ObservedInstance} {input : ObservedInput}
    (stepped : state.step input = some after) (told : Told name past state) : Told name (past ++ [input]) after := by
  have unmarked (other : input ≠ .mark) : state.entry.stopRequested = true ↔ .mark ∈ past ++ [input] := by
    simpa [other.symm] using told.mark
  have story := told.story
  -- The story is split with what the supervisor has come to as a variable, since a verdict can be either end.
  cases step_steps stepped with
  | marked => exact ⟨told.id, by simp [Instance.markStopping], story.snoc nofun nofun⟩
  | killed => exact ⟨told.id, unmarked nofun, story.snoc nofun nofun⟩
  | registered =>
    refine ⟨?_, ?_, ?_⟩
    · exact (Instance.watch_grows _ _).id.trans told.id
    · unfold Instance.watch
      split <;> exact unmarked nofun
    · unfold Instance.watch
      split <;> exact story.snoc nofun nofun
  | reported | waited | answered | used => exact ⟨told.id, unmarked nofun, story.snoc nofun nofun⟩
  | @ended outcome running =>
    refine ⟨told.id, unmarked nofun, ?_⟩
    rw [running] at story
    generalize state.verdict = verdict at story ⊢
    generalize stands : Supervision.running = supervision at story
    cases story with
    | running unended unexamined => exact .ended (by simp) (by simpa using unexamined)
    | ended | examined => cases stands
    | published => exact absurd stands.symm judged_ne_running
  | @examined outcome unjudged ended =>
    refine ⟨told.id, unmarked nofun, ?_⟩
    rw [unjudged, ended] at story
    generalize stands : Supervision.ended outcome = supervision at story
    dsimp only
    rw [ended, told.id]
    cases story with
    | running => cases stands
    | ended ended unexamined =>
      cases stands
      exact .examined ⟨past, [], rfl, ended, unexamined, by simp, told.mark⟩
    | published => exact absurd stands.symm judged_ne_ended
  | @published verdict judged =>
    refine ⟨told.id, unmarked nofun, ?_⟩
    rw [judged] at story
    generalize state.entry.supervision = supervision at story
    cases story with
    | examined examined => exact .published (examined.snoc nofun)

theorem run_told {name : String} {past : List ObservedInput} (ran : initial.run inputs = some final)
    (told : Told name past initial) : Told name (past ++ inputs) final := by
  induction inputs generalizing initial past with
  | nil =>
    cases ran
    rw [List.append_nil]
    exact told
  | cons input rest ih =>
    obtain ⟨next, stepped, onwards⟩ := runAll_cons_eq_some.mp ran
    have later := ih onwards (step_told stepped told)
    rwa [List.append_assoc] at later

/-- The end is published, and nothing more is to be. -/
structure Over (error : Option EngineError) (state : ObservedInstance) : Prop where
  gone : state.entry.gone? = some error
  verdict : state.verdict = none

theorem Told.over {name : String} {past : List ObservedInput} {state : ObservedInstance} (told : Told name past state)
    {error : Option EngineError} (gone : state.entry.gone? = some error) : state.Over error := by
  refine ⟨gone, ?_⟩
  have story := told.story
  unfold Instance.gone? at gone
  generalize state.entry.supervision = supervision at story gone
  generalize state.verdict = verdict at story
  cases story with
  | running | ended | published => rfl
  | examined => cases gone

/-- What is published comes of the ending that was examined, and of what was asked for by then. -/
theorem Told.ending {name : String} {past : List ObservedInput} {state : ObservedInstance} (told : Told name past state)
    {error : Option EngineError} (gone : state.entry.gone? = some error) :
    ∃ first last outcome, past = first ++ .examine :: last ∧ .examine ∉ first ∧ .examine ∉ last ∧
      .ended outcome ∈ first ∧ (error = none ↔ .mark ∈ first ∨ outcome = .success ∨ outcome = .lost) ∧
      (error ≠ none → error = Instance.publishedError name false outcome) := by
  have story := told.story
  generalize stands : state.entry.supervision = supervision at story
  generalize state.verdict = verdict at story
  cases story with
  | running | ended | examined =>
    unfold Instance.gone? at gone
    rw [stands] at gone
    cases gone
  | @published outcome marked examined =>
    obtain ⟨first, last, equal, ended, unexamined, once, mark⟩ := examined
    cases (Instance.gone?_judged stands).symm.trans gone
    refine ⟨first, last, outcome, equal, unexamined, once, ended, ?_, ?_⟩
    · rw [Instance.publishedError_eq_none, mark]
    · intro failed
      cases marked with
      | false => rfl
      | true => exact absurd (Instance.publishedError_eq_none.mpr (.inl rfl)) failed

theorem step_over {error : Option EngineError} {state after : ObservedInstance} {input : ObservedInput}
    (stepped : state.step input = some after) (fixed : state.Over error) : after.Over error := by
  have gone := fixed.gone
  cases step_steps stepped with
  | marked | killed | reported | waited | answered | used => exact ⟨gone, fixed.verdict⟩
  | registered =>
    refine ⟨?_, fixed.verdict⟩
    unfold Instance.watch
    split <;> exact gone
  | ended running =>
    unfold Instance.gone? at gone
    rw [running] at gone
    cases gone
  | examined unjudged ended =>
    unfold Instance.gone? at gone
    rw [ended] at gone
    cases gone
  | published judged => cases fixed.verdict.symm.trans judged

theorem run_over {error : Option EngineError} (ran : initial.run inputs = some final) (fixed : initial.Over error) :
    final.Over error :=
  runAll_keeps (fun _ _ _ stepped fixed => step_over stepped fixed) ran fixed

end ObservedInstance

end MockKeeper
