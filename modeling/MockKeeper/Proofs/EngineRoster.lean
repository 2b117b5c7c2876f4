import MockKeeper.Proofs.EngineMoves

/-! An engine keeps one instance at a time. Every instance other than the current one is
gone, except for the one that the holder of the lock is stopping, so a launch never adds a
second instance to one that is still there. -/

namespace MockKeeper.Engine

/-- Every instance of the first list is at its place in the second one, at a later state. -/
def Evolves (before after : List Instance) : Prop :=
  ∀ (index : Nat) (entry : Instance), before[index]? = some entry →
    ∃ later, after[index]? = some later ∧ entry.Grows later

theorem Evolves.refl (instances : List Instance) : Evolves instances instances :=
  fun _ entry found => ⟨entry, found, .refl entry⟩

theorem Evolves.trans {before middle after : List Instance} (first : Evolves before middle)
    (last : Evolves middle after) : Evolves before after := by
  intro index entry found
  obtain ⟨next, foundNext, grows⟩ := first index entry found
  obtain ⟨later, foundLater, growsOn⟩ := last index next foundNext
  exact ⟨later, foundLater, grows.trans growsOn⟩

theorem Evolves.append (instances : List Instance) (entry : Instance) :
    Evolves instances (instances ++ [entry]) := by
  intro index old found
  have inside := (List.getElem?_eq_some_iff.mp found).1
  exact ⟨old, by rw [List.getElem?_append_left inside]; exact found, .refl old⟩

theorem Evolves.modify {instances : List Instance} {index : Nat} {change : Instance → Instance}
    (grows : ∀ entry, instances[index]? = some entry → entry.Grows (change entry)) :
    Evolves instances (instances.modify index change) := by
  intro other entry found
  rw [List.getElem?_modify, found]
  by_cases same : index = other
  · subst same
    exact ⟨change entry, by simp, grows entry found⟩
  · exact ⟨entry, by simp [same], .refl entry⟩

theorem Evolves.length_le {before after : List Instance} (evolves : Evolves before after) :
    before.length ≤ after.length := by
  apply Nat.le_of_not_lt
  intro fewer
  obtain ⟨later, found, -⟩ := evolves after.length _ (List.getElem?_eq_getElem fewer)
  have inside := (List.getElem?_eq_some_iff.mp found).1
  omega

theorem Evolves.origin {before after : List Instance} (evolves : Evolves before after)
    (length : after.length = before.length) {index : Nat} {later : Instance}
    (found : after[index]? = some later) :
    ∃ entry, before[index]? = some entry ∧ entry.Grows later := by
  have inside := (List.getElem?_eq_some_iff.mp found).1
  have earlier : ∃ entry, before[index]? = some entry :=
    ⟨_, List.getElem?_eq_getElem (Nat.lt_of_lt_of_eq inside length)⟩
  obtain ⟨entry, earlier⟩ := earlier
  obtain ⟨next, foundNext, grows⟩ := evolves index entry earlier
  rw [found] at foundNext
  cases foundNext
  exact ⟨entry, earlier, grows⟩

theorem goneAt_eq_true {engine : Engine} {index : Nat} : engine.goneAt index = true ↔
    ∃ entry, engine.instances[index]? = some entry ∧ entry.gone?.isSome = true := by
  simp [goneAt, Option.any_eq_true]

theorem runningAt_eq_true {engine : Engine} {index : Nat} : engine.runningAt index = true ↔
    ∃ entry, engine.instances[index]? = some entry ∧ entry.isRunning = true := by
  simp [runningAt, Option.any_eq_true]

theorem watchedAt_eq_true {engine : Engine} {channel index : Nat} :
    engine.watchedAt channel index = true ↔
      ∃ entry, engine.instances[index]? = some entry ∧ channel ∈ entry.watchers := by
  simp [watchedAt, Option.any_eq_true]

theorem goneAt_mono {before after : Engine} (evolves : Evolves before.instances after.instances)
    {index : Nat} (gone : before.goneAt index = true) : after.goneAt index = true := by
  obtain ⟨entry, found, ended⟩ := goneAt_eq_true.mp gone
  obtain ⟨later, foundLater, grows⟩ := evolves index entry found
  exact goneAt_eq_true.mpr ⟨later, foundLater, grows.gone ended⟩

theorem watchedAt_mono {before after : Engine} (evolves : Evolves before.instances after.instances)
    {channel index : Nat} (watched : before.watchedAt channel index = true) :
    after.watchedAt channel index = true := by
  obtain ⟨entry, found, member⟩ := watchedAt_eq_true.mp watched
  obtain ⟨later, foundLater, grows⟩ := evolves index entry found
  exact watchedAt_eq_true.mpr ⟨later, foundLater, grows.watchers channel member⟩

theorem gone_of_idle {engine : Engine} (idle : engine.runningCurrent = none) {index : Nat}
    (held : engine.current = some index) {entry : Instance}
    (found : engine.instances[index]? = some entry) : entry.gone?.isSome = true := by
  simp only [runningCurrent, held, Option.filter_some, runningAt, found, Option.any_some] at idle
  exact Instance.gone_of_stopped (by simpa using idle)

theorem runningCurrent_eq_some {engine : Engine} {index : Nat} :
    engine.runningCurrent = some index ↔ engine.current = some index ∧ engine.runningAt index = true := by
  simp only [runningCurrent, Option.filter_eq_some_iff]

private theorem terminating_evolves (instances : List Instance) (channel index : Nat) :
    Evolves instances ((instances.modify index (·.watch channel)).modify index Instance.markStopping) :=
  (Evolves.modify fun entry _ => entry.watch_grows channel).trans
    (Evolves.modify fun entry _ => entry.markStopping_grows)

theorem Takes.instances {engine after : Engine} {ticket : Ticket} {operation : Operation}
    (takes : engine.Takes ticket operation after) :
    Evolves engine.instances after.instances ∧
      after.instances.length = engine.instances.length := by
  cases takes with
  | startRefused | restartRefused | removeBare | watchNone => exact ⟨.refl _, rfl⟩
  | startLaunch | restartBare =>
    obtain ⟨stage, call, -, equal⟩ := beginLaunch_eq _ ticket _
    rw [equal]
    exact ⟨.refl _, rfl⟩
  | @restartOld channel index | @removeRunning channel index =>
    exact ⟨terminating_evolves _ channel index, by simp [beginTermination, changeInstance, note]⟩
  | @watchCurrent channel index =>
    exact ⟨.modify fun entry _ => entry.watch_grows channel, by simp [changeInstance, finishCall]⟩

theorem Moves.instances {engine after : Engine} {event : EngineEvent}
    (moved : engine.Moves event after) :
    Evolves engine.instances after.instances ∧ after.instances.length = engine.instances.length ∨
      ∃ work launched, event = .launched (.ok launched) ∧ engine.busy = some work ∧
        work.stage = .launching ∧ after = engine.adopt work launched := by
  cases moved with
  | begin free waits takes => exact .inl takes.instances
  | @relaunched work | @prepared work =>
    obtain ⟨stage, call, -, equal⟩ := beginLaunch_eq _ work.ticket work.operation
    rw [equal]
    exact .inl ⟨.refl _, rfl⟩
  | released | unprepared | unlaunched => exact .inl ⟨.refl _, rfl⟩
  | @launched work launched held stage => exact .inr ⟨work, launched, rfl, held, stage, rfl⟩
  | @ended index outcome entry later found finished =>
    refine .inl ⟨.modify fun old same => ?_, by simp [changeInstance]⟩
    rw [found] at same
    cases same
    exact Instance.finish_grows finished
  | elsewhere => exact .inl ⟨.refl _, rfl⟩
  | killed => exact .inl ⟨.modify fun entry _ => entry.requestKill_grows, by simp [changeInstance]⟩
  | @examined index entry later found examined =>
    refine .inl ⟨.modify fun old same => ?_, by simp [changeInstance]⟩
    rw [found] at same
    cases same
    exact Instance.examine_grows examined
  | @reported index channel entry later event found reported =>
    refine .inl ⟨.modify fun old same => ?_, by simp [changeInstance, deliver]⟩
    rw [found] at same
    cases same
    exact Instance.report_grows reported

theorem Moves.current {engine after : Engine} {event : EngineEvent} (moved : engine.Moves event after)
    {index : Nat} (held : after.current = some index) :
    engine.current = some index ∨ engine.instances.length ≤ index := by
  cases moved with
  | @begin position ticket operation _ free waits takes =>
    cases takes with
    | startRefused | watchCurrent | watchNone | restartRefused => exact .inl held
    | startLaunch | restartBare =>
      obtain ⟨stage, call, -, equal⟩ := beginLaunch_eq _ ticket _
      rw [equal] at held
      exact .inl held
    | restartOld | removeRunning | removeBare => cases held
  | @relaunched work | @prepared work =>
    obtain ⟨stage, call, -, equal⟩ := beginLaunch_eq _ work.ticket work.operation
    rw [equal] at held
    exact .inl held
  | launched =>
    cases held
    exact .inr (Nat.le_refl _)
  | released | unprepared | unlaunched | ended | killed | examined | reported | elsewhere => exact .inl held

theorem adopt_instances (engine : Engine) (work : Work) (launched : Launched) :
    (engine.adopt work launched).instances =
      engine.instances ++ [{ id := launched.id, pid := launched.pid }] := rfl

theorem Moves.evolves {engine after : Engine} {event : EngineEvent}
    (moved : engine.Moves event after) : Evolves engine.instances after.instances := by
  rcases moved.instances with ⟨evolves, -⟩ | ⟨work, launched, -, -, -, rfl⟩
  · exact evolves
  · exact .append _ _

theorem Moves.length {engine after : Engine} {event : EngineEvent} (moved : engine.Moves event after)
    (other : ∀ launched, event ≠ .launched (.ok launched)) :
    after.instances.length = engine.instances.length := by
  rcases moved.instances with ⟨-, length⟩ | ⟨work, launched, same, -⟩
  · exact length
  · exact absurd same (other launched)

def Fits (engine : Engine) : Operation → Stage → Prop
  | .start, .preparing | .start, .launching =>
    engine.removed = false ∧ ∀ index, engine.current = some index → engine.goneAt index = true
  | .restart _, .preparing | .restart _, .launching =>
    engine.removed = false ∧ engine.current = none
  | .restart channel, .terminating index =>
    engine.removed = false ∧ engine.current = none ∧ engine.watchedAt channel index = true
  | .remove channel, .terminating index =>
    engine.removed = true ∧ engine.current = none ∧ engine.watchedAt channel index = true
  | _, _ => False

theorem Fits.grow {before after : Engine} {operation : Operation} {stage : Stage}
    (fits : before.Fits operation stage) (evolves : Evolves before.instances after.instances)
    (current : after.current = before.current) (removed : after.removed = before.removed) :
    after.Fits operation stage := by
  cases operation <;> cases stage <;> simp only [Fits, current, removed] at fits ⊢
  case start.preparing | start.launching =>
    exact ⟨fits.1, fun index held => goneAt_mono evolves (fits.2 index held)⟩
  case restart.preparing | restart.launching => exact fits
  case restart.terminating | remove.terminating =>
    exact ⟨fits.1, fits.2.1, watchedAt_mono evolves fits.2.2⟩

/-- The instances that may still be there: the current one, and one that is being stopped. -/
def Stays (engine : Engine) (index : Nat) : Prop :=
  engine.current = some index ∨ ∃ work, engine.busy = some work ∧ work.stage = .terminating index

/-- An engine has at most one instance that is not gone, and knows which. -/
structure Steady (engine : Engine) : Prop where
  sound : ∀ entry ∈ engine.instances, entry.Sound
  latest : ∀ index, engine.current = some index → index + 1 = engine.instances.length
  alone : ∀ index entry, engine.instances[index]? = some entry → entry.gone? = none → engine.Stays index
  fits : ∀ work, engine.busy = some work → engine.Fits work.operation work.stage
  bare : engine.removed = true → engine.current = none

def AllGone (engine : Engine) : Prop := ∀ entry ∈ engine.instances, entry.gone?.isSome = true

theorem AllGone.of_goneAt {engine : Engine}
    (gone : ∀ index, index < engine.instances.length → engine.goneAt index = true) :
    engine.AllGone := by
  intro entry member
  obtain ⟨index, found⟩ := List.mem_iff_getElem?.mp member
  obtain ⟨other, same, ended⟩ := goneAt_eq_true.mp (gone index (List.getElem?_eq_some_iff.mp found).1)
  rw [found] at same
  cases same
  exact ended

theorem Steady.gone_unless_stays {engine : Engine} (steady : engine.Steady) {index : Nat}
    (inside : index < engine.instances.length) (leaves : ¬ engine.Stays index) :
    engine.goneAt index = true := by
  have found : engine.instances[index]? = some engine.instances[index] := List.getElem?_eq_getElem inside
  refine goneAt_eq_true.mpr ⟨_, found, ?_⟩
  apply Option.isSome_iff_ne_none.mpr
  intro there
  exact leaves (steady.alone index _ found there)

/-- While the backend prepares or launches, nothing that was launched before is there. -/
theorem Steady.allGone_of_launch {engine : Engine} (steady : engine.Steady) {work : Work}
    (held : engine.busy = some work) (stage : work.stage = .preparing ∨ work.stage = .launching) :
    engine.AllGone := by
  apply AllGone.of_goneAt
  intro index inside
  by_cases stays : engine.Stays index
  · rcases stays with current | ⟨other, same, terminating⟩
    · have fits := steady.fits work held
      rcases stage with stage | stage
      all_goals
        rw [stage] at fits
        cases operation : work.operation <;> simp only [operation, Fits] at fits
        · exact fits.2 index current
        · rw [current] at fits; exact absurd fits.2 (by simp)
    · rw [held] at same
      cases same
      rcases stage with stage | stage <;> rw [stage] at terminating <;> cases terminating
  · exact steady.gone_unless_stays inside stays

/-- Facts that an event must give for the one instance to stay the only one. -/
private theorem Steady.moved {before after : Engine} (steady : before.Steady)
    (evolves : Evolves before.instances after.instances)
    (length : after.instances.length = before.instances.length)
    (current : ∀ index, after.current = some index → before.current = some index)
    (stays : ∀ index, before.Stays index → after.goneAt index = false → after.Stays index)
    (fits : ∀ work, after.busy = some work → after.Fits work.operation work.stage)
    (bare : after.removed = true → after.current = none) : after.Steady := by
  refine ⟨?_, ?_, ?_, fits, bare⟩
  · intro later member
    obtain ⟨index, found⟩ := List.mem_iff_getElem?.mp member
    obtain ⟨entry, earlier, grows⟩ := evolves.origin length found
    exact grows.sound (steady.sound entry (List.mem_of_getElem? earlier))
  · intro index held
    rw [length]
    exact steady.latest index (current index held)
  · intro index later found there
    obtain ⟨entry, earlier, grows⟩ := evolves.origin length found
    have before : entry.gone? = none := by
      apply Option.not_isSome_iff_eq_none.mp
      intro gone
      exact absurd (grows.gone gone) (by simp [there])
    exact stays index (steady.alone index entry earlier before) (by simp [goneAt, found, there])

theorem Steady.grow {before after : Engine} (steady : before.Steady)
    (evolves : Evolves before.instances after.instances)
    (length : after.instances.length = before.instances.length) (current : after.current = before.current)
    (busy : after.busy = before.busy) (removed : after.removed = before.removed) : after.Steady := by
  refine steady.moved evolves length ?_ ?_ ?_ ?_
  · intro index held
    rwa [current] at held
  · intro index stays _
    simpa only [Stays, current, busy] using stays
  · intro work held
    rw [busy] at held
    exact (steady.fits work held).grow evolves current removed
  · intro out
    rw [current]
    exact steady.bare (by rwa [removed] at out)

theorem Steady.same {before after : Engine} (steady : before.Steady)
    (instances : after.instances = before.instances) (current : after.current = before.current)
    (busy : after.busy = before.busy) (removed : after.removed = before.removed) : after.Steady :=
  steady.grow (by rw [instances]; exact .refl _) (by rw [instances]) current busy removed

theorem Steady.kept {engine : Engine} (steady : engine.Steady) {index : Nat}
    (held : engine.current = some index) : engine.removed = false := by
  cases removed : engine.removed with
  | false => rfl
  | true => rw [steady.bare removed] at held; cases held

theorem Steady.found {engine : Engine} (steady : engine.Steady) {index : Nat}
    (held : engine.current = some index) : ∃ entry, engine.instances[index]? = some entry :=
  ⟨_, List.getElem?_eq_getElem (by have := steady.latest index held; omega)⟩

theorem Steady.only_current {engine : Engine} (steady : engine.Steady) (free : engine.busy = none)
    {index : Nat} (held : engine.current = some index) {other : Nat} {entry : Instance}
    (found : engine.instances[other]? = some entry) (there : entry.gone? = none) : other = index := by
  rcases steady.alone other entry found there with current | ⟨work, busy, -⟩
  · exact Option.some.inj (current.symm.trans held)
  · cases free.symm.trans busy

private theorem watchedAt_terminating {before after : Engine} {channel index : Nat} {entry : Instance}
    (found : before.instances[index]? = some entry)
    (instances : after.instances =
      (before.instances.modify index (·.watch channel)).modify index Instance.markStopping) :
    after.watchedAt channel index = true := by
  refine watchedAt_eq_true.mpr ⟨(entry.watch channel).markStopping, ?_, entry.mem_watchers_watch channel⟩
  simp [instances, found]

/-- A call that takes the lock checks for an instance before it has one launched, and takes
the current one out before it has it stopped. -/
private theorem Takes.steady {engine after : Engine} {ticket : Ticket} {operation : Operation}
    (takes : engine.Takes ticket operation after) (steady : engine.Steady)
    (free : engine.busy = none) : after.Steady := by
  have stays {index : Nat} (stays : engine.Stays index) : engine.current = some index := by
    rcases stays with current | ⟨work, held, -⟩
    · exact current
    · rw [free] at held; cases held
  obtain ⟨evolves, length⟩ := takes.instances
  cases takes with
  | startRefused | watchNone | watchCurrent | restartRefused =>
    refine steady.moved evolves length (fun _ held => held) ?_ ?_ steady.bare
    · exact fun index there _ => .inl (stays there)
    · intro work held; cases held
  | startLaunch kept idle =>
    obtain ⟨stage, call, choice, equal⟩ := beginLaunch_eq engine ticket .start
    rw [equal] at evolves length ⊢
    refine steady.moved evolves length (fun _ held => held) ?_ ?_ steady.bare
    · exact fun index there _ => .inl (stays there)
    · intro work working
      cases working
      have gone : ∀ index, engine.current = some index → engine.goneAt index = true := by
        intro index held
        obtain ⟨entry, found⟩ := steady.found held
        exact goneAt_eq_true.mpr ⟨entry, found, gone_of_idle idle held found⟩
      rcases choice with ⟨-, rfl, -⟩ | ⟨-, rfl, -⟩ <;> exact ⟨kept, gone⟩
  | @restartOld channel index held =>
    refine steady.moved evolves length (fun _ held => by cases held) ?_ ?_ (fun _ => rfl)
    · intro other there _
      have same := stays there
      rw [held] at same
      cases same
      exact .inr ⟨_, rfl, rfl⟩
    · intro work working
      cases working
      obtain ⟨entry, found⟩ := steady.found held
      exact ⟨steady.kept held, rfl, watchedAt_terminating found rfl⟩
  | @restartBare channel bare kept =>
    obtain ⟨stage, call, choice, equal⟩ :=
      beginLaunch_eq (engine.reportSynthetic channel "restart") ticket (.restart channel)
    rw [equal] at evolves length ⊢
    refine steady.moved evolves length (fun _ held => held) ?_ ?_ steady.bare
    · exact fun index there _ => .inl (stays there)
    · intro work working
      cases working
      rcases choice with ⟨-, rfl, -⟩ | ⟨-, rfl, -⟩ <;> exact ⟨kept, bare⟩
  | @removeRunning channel index line running =>
    have held := (runningCurrent_eq_some.mp running).1
    refine steady.moved evolves length (fun _ held => by cases held) ?_ ?_ (fun _ => rfl)
    · intro other there _
      have same := stays there
      rw [held] at same
      cases same
      exact .inr ⟨_, rfl, rfl⟩
    · intro work working
      cases working
      obtain ⟨entry, found⟩ := steady.found held
      exact ⟨rfl, rfl, watchedAt_terminating found rfl⟩
  | removeBare idle =>
    refine steady.moved evolves length (fun _ held => by cases held) ?_ ?_ (fun _ => rfl)
    · intro index there gone
      have held := stays there
      obtain ⟨entry, found⟩ := steady.found held
      have ended := gone_of_idle idle held found
      have still : engine.goneAt index = false := gone
      rw [goneAt_eq_true.mpr ⟨entry, found, ended⟩] at still
      cases still
    · intro work working; cases working

private theorem Stays.current {engine : Engine} {work : Work} (held : engine.busy = some work)
    (leaves : ∀ index, work.stage = .terminating index → engine.goneAt index = true) {index : Nat}
    (there : engine.Stays index) (still : engine.goneAt index = false) : engine.current = some index := by
  rcases there with current | ⟨other, same, terminating⟩
  · exact current
  · rw [held] at same
    cases same
    rw [leaves index terminating] at still
    cases still

private theorem Steady.advance {engine : Engine} (steady : engine.Steady) {work : Work} {stage : Stage}
    {call : BackendCall} (held : engine.busy = some work)
    (leaves : ∀ index, work.stage = .terminating index → engine.goneAt index = true)
    (fits : engine.Fits work.operation stage) :
    Steady { engine with busy := some { work with stage }, calls := engine.calls ++ [call] } := by
  refine steady.moved (.refl _) rfl (fun _ current => current) ?_ ?_ steady.bare
  · intro index there gone
    exact .inl (there.current held leaves gone)
  · intro other working
    cases working
    exact fits

private theorem Steady.release {engine : Engine} (steady : engine.Steady) {work : Work} {ticket : Ticket}
    {failure : Option EngineError} (held : engine.busy = some work)
    (leaves : ∀ index, work.stage = .terminating index → engine.goneAt index = true) :
    (engine.finishCall ticket failure).Steady := by
  refine steady.moved (.refl _) rfl (fun _ current => current) ?_ ?_ steady.bare
  · intro index there gone
    exact .inl (there.current held leaves gone)
  · intro work working
    cases working

private theorem Steady.adopt {engine : Engine} (steady : engine.Steady) {work : Work} {launched : Launched}
    (held : engine.busy = some work) (stage : work.stage = .launching) :
    (engine.adopt work launched).Steady := by
  have gone := steady.allGone_of_launch held (.inr stage)
  have kept : engine.removed = false := by
    have fits := steady.fits work held
    rw [stage] at fits
    cases operation : work.operation <;> simp only [operation, Fits] at fits
    · exact fits.1
    · exact fits.1
  refine ⟨?_, ?_, ?_, ?_, ?_⟩
  · intro entry member
    rcases List.mem_append.mp member with old | new
    · exact steady.sound entry old
    · rw [List.mem_singleton.mp new]
      exact .launched launched.id launched.pid
  · intro index current
    cases current
    simp [adopt_instances]
  · intro index entry found there
    rw [adopt_instances] at found
    rcases Nat.lt_or_ge index engine.instances.length with inside | outside
    · rw [List.getElem?_append_left inside] at found
      have ended := gone entry (List.mem_of_getElem? found)
      rw [there] at ended
      cases ended
    · have last := (List.getElem?_eq_some_iff.mp found).1
      have same : index = engine.instances.length := by
        simp only [List.length_append, List.length_singleton] at last
        omega
      subst same
      exact .inl rfl
  · intro other working
    cases working
  · intro removed
    have : engine.removed = true := removed
    rw [kept] at this
    cases this

/-- The holder of the lock launches only where nothing is left, and lets go of it only
where what it stopped is gone. -/
theorem Moves.steady {engine after : Engine} {event : EngineEvent} (moved : engine.Moves event after)
    (steady : engine.Steady) : after.Steady := by
  have evolves := moved.evolves
  have length := moved.length
  cases moved with
  | begin free waits takes => exact takes.steady (steady.same rfl rfl rfl rfl) free
  | @relaunched work index channel held stage gone operation kept =>
    obtain ⟨next, call, choice, equal⟩ := beginLaunch_eq engine work.ticket work.operation
    rw [equal]
    have fits := steady.fits work held
    rw [stage, operation] at fits
    apply steady.advance held
    · intro other terminating
      rw [stage] at terminating
      cases terminating
      exact gone
    · rw [operation]
      rcases choice with ⟨-, rfl, -⟩ | ⟨-, rfl, -⟩ <;> exact ⟨kept, fits.2.1⟩
  | released held stage gone settled =>
    apply steady.release held
    intro other terminating
    rw [stage] at terminating
    cases terminating
    exact gone
  | @prepared work held stage =>
    obtain ⟨next, call, choice, equal⟩ :=
      beginLaunch_eq { engine with prepared := true } work.ticket work.operation
    rw [equal]
    have fits := steady.fits work held
    rw [stage] at fits
    have ready : Steady { engine with prepared := true } := steady.same rfl rfl rfl rfl
    apply ready.advance held
    · intro other terminating
      rw [stage] at terminating
      cases terminating
    · rcases choice with ⟨-, rfl, -⟩ | ⟨todo, -⟩
      · cases operation : work.operation <;> simp only [operation, Fits] at fits
        · exact fits
        · exact fits
      · cases todo
  | unprepared held stage | unlaunched held stage =>
    apply steady.release held
    intro other terminating
    rw [stage] at terminating
    cases terminating
  | launched held stage => exact steady.adopt held stage
  | ended | killed | examined | reported | elsewhere =>
    exact steady.grow evolves (length nofun) rfl rfl rfl

end MockKeeper.Engine
