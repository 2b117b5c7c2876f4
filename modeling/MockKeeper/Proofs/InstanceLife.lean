import MockKeeper.Engine.Instance

/-! What stays true of an engine instance whatever happens to it. Its end is published
once, a registration is never taken back, and a channel that waits no longer was told
of the end. -/

namespace MockKeeper.Instance

/-- Each registered channel waits once, or was told that the instance is gone. -/
structure Sound (entry : Instance) : Prop where
  once : entry.waiters.Nodup
  registered : ∀ channel ∈ entry.waiters, channel ∈ entry.watchers
  told : ∀ channel ∈ entry.watchers, channel ∉ entry.waiters → entry.gone?.isSome = true

/-- The supervisor died, or is about to. -/
def Abandoned (entry : Instance) : Prop :=
  entry.supervision = .lost ∨ entry.supervision = .ended .lost

instance (entry : Instance) : Decidable entry.Abandoned := inferInstanceAs (Decidable (_ ∨ _))

structure Grows (before after : Instance) : Prop where
  id : after.id = before.id
  gone : before.gone?.isSome = true → after.gone?.isSome = true
  published : ∀ error, before.supervision = .published error → after.supervision = .published error
  abandoned : before.Abandoned → after.Abandoned
  watchers : ∀ channel ∈ before.watchers, channel ∈ after.watchers
  told : ∀ channel ∈ before.watchers, channel ∉ before.waiters → channel ∉ after.waiters
  sound : before.Sound → after.Sound

theorem Grows.refl (entry : Instance) : Grows entry entry :=
  ⟨rfl, fun gone => gone, fun _ published => published, fun lost => lost,
    fun _ member => member, fun _ _ untold => untold, fun sound => sound⟩

theorem Grows.trans {before middle after : Instance} (first : Grows before middle)
    (last : Grows middle after) : Grows before after :=
  ⟨last.id.trans first.id, fun gone => last.gone (first.gone gone),
    fun error published => last.published error (first.published error published),
    fun lost => last.abandoned (first.abandoned lost),
    fun channel member => last.watchers channel (first.watchers channel member),
    fun channel member told => last.told channel (first.watchers channel member)
      (first.told channel member told),
    fun sound => last.sound (first.sound sound)⟩

theorem Sound.launched (id : String) (pid : Option Nat) : Sound { id, pid } :=
  ⟨.nil, by simp, by simp⟩

theorem isRunning_eq_false {entry : Instance} :
    entry.isRunning = false ↔ ∃ error, entry.supervision = .published error := by
  unfold isRunning
  cases entry.supervision <;> simp

theorem gone_of_stopped {entry : Instance} (stopped : entry.isRunning = false) :
    entry.gone?.isSome = true := by
  obtain ⟨error, published⟩ := isRunning_eq_false.mp stopped
  simp [gone?, published]

/-- Only a dead supervisor leaves an instance that is gone and counts as running. -/
theorem stopped_of_gone {entry : Instance} (gone : entry.gone?.isSome = true)
    (kept : ¬ entry.Abandoned) : entry.isRunning = false := by
  unfold gone? at gone
  unfold Abandoned at kept
  cases state : entry.supervision with
  | published error => exact isRunning_eq_false.mpr ⟨error, state⟩
  | lost => exact absurd (Or.inl state) kept
  | running | ended outcome => simp [state] at gone

private theorem grows_supervision {before after : Instance} (id : after.id = before.id)
    (watchers : after.watchers = before.watchers) (waiters : after.waiters = before.waiters)
    (gone : before.gone?.isSome = true → after.gone?.isSome = true)
    (published : ∀ error, before.supervision = .published error →
      after.supervision = .published error)
    (abandoned : before.Abandoned → after.Abandoned) : Grows before after := by
  refine ⟨id, gone, published, abandoned, ?_, ?_, ?_⟩
  · intro channel member
    rw [watchers]
    exact member
  · intro channel _ told
    rw [waiters]
    exact told
  · intro sound
    refine ⟨?_, ?_, ?_⟩
    · rw [waiters]
      exact sound.once
    · rw [waiters, watchers]
      exact sound.registered
    · rw [waiters, watchers]
      exact fun channel member untold => gone (sound.told channel member untold)

theorem markStopping_grows (entry : Instance) : Grows entry entry.markStopping :=
  grows_supervision rfl rfl rfl (fun gone => gone) (fun _ published => published) (fun lost => lost)

theorem requestKill_grows (entry : Instance) : Grows entry entry.requestKill :=
  grows_supervision rfl rfl rfl (fun gone => gone) (fun _ published => published) (fun lost => lost)

theorem finish_grows {entry after : Instance} {outcome : Outcome}
    (finished : entry.finish outcome = some after) : Grows entry after := by
  unfold finish at finished
  cases state : entry.supervision <;> simp only [state] at finished
  all_goals cases finished
  refine grows_supervision rfl rfl rfl ?_ ?_ ?_
  · simp [gone?, state]
  · simp [state]
  · simp [Abandoned, state]

theorem finish_registrations {entry after : Instance} {outcome : Outcome}
    (finished : entry.finish outcome = some after) :
    after.watchers = entry.watchers ∧ after.waiters = entry.waiters := by
  unfold finish at finished
  split at finished <;> cases finished
  exact ⟨rfl, rfl⟩

theorem examine_registrations {entry after : Instance} (examined : entry.examine = some after) :
    after.watchers = entry.watchers ∧ after.waiters = entry.waiters := by
  unfold examine at examined
  split at examined <;> cases examined <;> exact ⟨rfl, rfl⟩

theorem examine_grows {entry after : Instance} (examined : entry.examine = some after) :
    Grows entry after := by
  unfold examine at examined
  cases state : entry.supervision with
  | ended outcome =>
    cases outcome <;> simp only [state] at examined
    all_goals
      cases examined
      refine grows_supervision rfl rfl rfl ?_ ?_ ?_
      · simp [gone?, state]
      · simp [state]
      · simp [Abandoned, state]
  | running | published error | lost => simp [state] at examined

theorem watch_grows (entry : Instance) (channel : Nat) : Grows entry (entry.watch channel) := by
  unfold watch
  split
  · exact .refl entry
  next new =>
    refine ⟨rfl, fun gone => gone, fun _ published => published, fun lost => lost, ?_, ?_, ?_⟩
    · intro other member
      exact List.mem_append_left _ member
    · intro other member told waiting
      rcases List.mem_append.mp waiting with old | last
      · exact told old
      · rw [List.mem_singleton.mp last] at member
        exact new member
    · intro sound
      have absent : channel ∉ entry.waiters := fun member => new (sound.registered channel member)
      refine ⟨?_, ?_, ?_⟩
      · refine List.nodup_append.mpr ⟨sound.once, by simp, ?_⟩
        intro other member last same equal
        rw [equal, List.mem_singleton.mp same] at member
        exact absent member
      · intro other member
        rcases List.mem_append.mp member with old | last
        · exact List.mem_append_left _ (sound.registered other old)
        · exact List.mem_append_right _ last
      · intro other member untold
        simp only [List.mem_append, not_or] at member untold
        rcases member with old | last
        · exact sound.told other old untold.1
        · exact absurd last untold.2

theorem mem_watchers_watch (entry : Instance) (channel : Nat) :
    channel ∈ (entry.watch channel).watchers := by
  unfold watch
  split
  next known => exact known
  next => simp

theorem report_grows {entry after : Instance} {channel : Nat} {event : StopEvent}
    (reported : entry.report channel = some (event, after)) : Grows entry after := by
  unfold report at reported
  cases state : entry.gone? with
  | none => simp [state] at reported
  | some error =>
    simp only [state] at reported
    split at reported
    · cases reported
      refine ⟨rfl, fun gone => gone, fun _ published => published, fun lost => lost,
        fun _ member => member, fun _ _ told waiting => told (List.mem_of_mem_erase waiting), ?_⟩
      intro sound
      refine ⟨sound.once.erase channel, ?_, ?_⟩
      · exact fun other member => sound.registered other (List.mem_of_mem_erase member)
      · intro other member untold
        exact Option.isSome_iff_exists.mpr ⟨error, state⟩
    · cases reported

theorem report_event {entry after : Instance} {channel : Nat} {event : StopEvent}
    (reported : entry.report channel = some (event, after)) :
    event.id = entry.id ∧ channel ∈ entry.waiters ∧
      after = { entry with waiters := entry.waiters.erase channel } := by
  unfold report at reported
  cases state : entry.gone? with
  | none => simp [state] at reported
  | some error =>
    simp only [state] at reported
    split at reported
    next member =>
      cases reported
      exact ⟨rfl, member, rfl⟩
    · cases reported

end MockKeeper.Instance
