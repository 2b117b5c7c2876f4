/-! Runs of a machine whose next state depends on its input, and the turns they are made of. What
is counted over a run is counted over its turns. A machine that takes every input answers it. -/

namespace MockKeeper

structure Turn (σ ι : Type) where
  before : σ
  input : ι
  after : σ

section Machine
variable {σ ι : Type} (step : σ → ι → Option σ)

/-- Many inputs, one after the other. There is no result where one of them cannot be. -/
def runAll (state : σ) : List ι → Option σ
  | [] => some state
  | input :: rest => (step state input).bind fun next => runAll next rest

/-- The turns of a run, up to the first input that cannot be. -/
def turns (state : σ) : List ι → List (Turn σ ι)
  | [] => []
  | input :: rest =>
    match step state input with
    | some next => ⟨state, input, next⟩ :: turns next rest
    | none => []

variable {step} {initial final : σ} {inputs : List ι}

theorem turns_cons {next : σ} {input : ι} (stepped : step initial input = some next) (rest : List ι) :
    turns step initial (input :: rest) = ⟨initial, input, next⟩ :: turns step next rest := by
  simp only [turns, stepped]

theorem runAll_cons_eq_some {input : ι} {rest : List ι} :
    runAll step initial (input :: rest) = some final ↔
      ∃ next, step initial input = some next ∧ runAll step next rest = some final :=
  Option.bind_eq_some_iff

theorem runAll_append (state : σ) (first last : List ι) :
    runAll step state (first ++ last) = (runAll step state first).bind fun middle => runAll step middle last := by
  induction first generalizing state with
  | nil => rfl
  | cons input rest ih =>
    simp only [List.cons_append, runAll]
    cases step state input with
    | none => rfl
    | some next => exact ih next

theorem runAll_keeps_within {motive : σ → Prop}
    (kept : ∀ before, ∀ input ∈ inputs, ∀ after, step before input = some after → motive before → motive after)
    (ran : runAll step initial inputs = some final) (first : motive initial) : motive final := by
  induction inputs generalizing initial with
  | nil =>
    cases ran
    exact first
  | cons input rest ih =>
    obtain ⟨next, stepped, ran⟩ := runAll_cons_eq_some.mp ran
    have later : ∀ before, ∀ input ∈ rest, ∀ after, step before input = some after → motive before → motive after :=
      fun before other member => kept before other (List.mem_cons_of_mem _ member)
    exact ih later ran (kept initial input List.mem_cons_self next stepped first)

theorem runAll_keeps {motive : σ → Prop}
    (kept : ∀ before input after, step before input = some after → motive before → motive after)
    (ran : runAll step initial inputs = some final) (first : motive initial) : motive final :=
  runAll_keeps_within (fun before input _ after => kept before input after) ran first

theorem runAll_append_eq_some {first last : List ι} :
    runAll step initial (first ++ last) = some final ↔
      ∃ middle, runAll step initial first = some middle ∧ runAll step middle last = some final := by
  rw [runAll_append, Option.bind_eq_some_iff]

theorem runAll_back {motive : σ → Prop}
    (back : ∀ before input after, step before input = some after → motive after → motive before)
    (ran : runAll step initial inputs = some final) (last : motive final) : motive initial := by
  induction inputs generalizing initial with
  | nil =>
    cases ran
    exact last
  | cons input rest ih =>
    obtain ⟨next, stepped, ran⟩ := runAll_cons_eq_some.mp ran
    exact back initial input next stepped (ih ran)

/-- What each input keeps under an assumption is kept by a run that meets it at its end,
if the assumption goes back in time. -/
theorem runAll_keeps_of {assumed motive : σ → Prop}
    (back : ∀ before input after, step before input = some after → assumed after → assumed before)
    (kept : ∀ before input after, assumed before → assumed after → step before input = some after →
      motive before → motive after)
    (ran : runAll step initial inputs = some final) (last : assumed final) (first : motive initial) :
    motive final := by
  induction inputs generalizing initial with
  | nil =>
    cases ran
    exact first
  | cons input rest ih =>
    -- The assumption is known at the end of the run only, and goes back to this input.
    obtain ⟨next, stepped, ran⟩ := runAll_cons_eq_some.mp ran
    have later := runAll_back back ran last
    exact ih ran (kept initial input next (back initial input next stepped later) later stepped first)

theorem runAll_induction {motive : σ → σ → List (Turn σ ι) → Prop} (same : ∀ state, motive state state [])
    (turned : ∀ before input next after rest, step before input = some next → motive next after rest →
      motive before after (⟨before, input, next⟩ :: rest))
    (ran : runAll step initial inputs = some final) : motive initial final (turns step initial inputs) := by
  induction inputs generalizing initial with
  | nil =>
    cases ran
    exact same _
  | cons input rest ih =>
    obtain ⟨next, stepped, ran⟩ := runAll_cons_eq_some.mp ran
    rw [turns_cons stepped]
    exact turned initial input next final _ stepped (ih ran)

/-- A turn lies between what was run before it and what is run after it. -/
theorem runAll_around {turn : Turn σ ι} (ran : runAll step initial inputs = some final)
    (member : turn ∈ turns step initial inputs) :
    step turn.before turn.input = some turn.after ∧ ∃ first last, inputs = first ++ turn.input :: last ∧
      runAll step initial first = some turn.before ∧ runAll step turn.after last = some final := by
  induction inputs generalizing initial with
  | nil => cases member
  | cons input rest ih =>
    obtain ⟨next, stepped, ran⟩ := runAll_cons_eq_some.mp ran
    rw [turns_cons stepped] at member
    rcases List.mem_cons.mp member with rfl | later
    · exact ⟨stepped, [], rest, rfl, rfl, ran⟩
    · obtain ⟨steppedLater, first, last, rfl, reached, onwards⟩ := ih ran later
      refine ⟨steppedLater, input :: first, last, rfl, ?_, onwards⟩
      simp only [runAll, stepped, Option.bind_some, reached]

/-- What holds at first, and is kept by each turn of a run, holds before each of them. -/
theorem turns_keep {motive : σ → Prop} (first : motive initial)
    (kept : ∀ turn ∈ turns step initial inputs, motive turn.before → motive turn.after) :
    ∀ turn ∈ turns step initial inputs, motive turn.before := by
  induction inputs generalizing initial with
  | nil => exact nofun
  | cons input rest ih =>
    cases stepped : step initial input with
    | none =>
      intro turn member
      simp only [turns, stepped] at member
      cases member
    | some next =>
      rw [turns_cons stepped] at kept ⊢
      have now : motive next := kept _ List.mem_cons_self first
      exact List.forall_mem_cons.mpr ⟨first, ih now fun other place => kept other (List.mem_cons_of_mem _ place)⟩

/-- What does not hold at first and holds at last comes to hold with one of the turns. -/
theorem turns_reach {motive : σ → Prop} (ran : runAll step initial inputs = some final)
    (first : ¬ motive initial) (last : motive final) :
    ∃ turn ∈ turns step initial inputs, ¬ motive turn.before ∧ motive turn.after := by
  induction inputs generalizing initial with
  | nil =>
    cases ran
    exact absurd last first
  | cons input rest ih =>
    obtain ⟨next, stepped, ran⟩ := runAll_cons_eq_some.mp ran
    rw [turns_cons stepped]
    by_cases now : motive next
    · exact ⟨_, List.mem_cons_self, first, now⟩
    · obtain ⟨turn, member, reaches⟩ := ih ran now
      exact ⟨turn, List.mem_cons_of_mem _ member, reaches⟩

end Machine

section Answering
variable {σ ι ρ β : Type} (step : σ → ι → ρ × σ)

/-- Many inputs to a machine that takes all of them, with what is recorded of each. -/
def runEach (state : σ) : List ι → List ρ × σ
  | [] => ([], state)
  | input :: rest =>
    ((step state input).1 :: (runEach (step state input).2 rest).1, (runEach (step state input).2 rest).2)

variable {step} {initial : σ}

/-- What each input keeps in step with the books, kept from the records, stays so over a run. -/
theorem runEach_keeps {motive : σ → β → Prop} {note : β → ρ → β}
    (kept : ∀ state books input, motive state books → motive (step state input).2 (note books (step state input).1))
    {books : β} (first : motive initial books) (inputs : List ι) :
    motive (runEach step initial inputs).2 ((runEach step initial inputs).1.foldl note books) := by
  induction inputs generalizing initial books with
  | nil => exact first
  | cons input rest ih => exact ih (kept initial books input first)

end Answering

end MockKeeper
