import MockKeeper.Proofs.InstanceObservers

/-! What a backend does to an instance between its launch and the end of its termination. Whichever
backend it is, the supervisor comes to an end that it can publish, and an end that comes after the
stop was asked for is published without an error. -/

namespace MockKeeper.Instance

inductive Evolves : Instance → Instance → Prop
  | same {entry : Instance} : Evolves entry entry
  | marked {entry : Instance} : Evolves entry entry.markStopping
  | killed {entry : Instance} : Evolves entry entry.requestKill
  | finished {before after : Instance} {outcome : Outcome} (known : outcome ≠ .lost)
      (finished : before.finish outcome = some after) : Evolves before after
  | examined {before after : Instance} (examined : before.examine = some after) : Evolves before after
  | trans {before middle after : Instance} (first : Evolves before middle) (last : Evolves middle after) :
      Evolves before after

structure Stopping (entry : Instance) : Prop where
  asked : entry.stopRequested = true
  quiet : ∀ error, entry.supervision = .published error → error = none

theorem finish_eq_some {entry after : Instance} {outcome : Outcome} (finished : entry.finish outcome = some after) :
    entry.supervision = .running ∧ after = { entry with supervision := .ended outcome } := by
  unfold finish at finished
  split at finished <;> cases finished
  next runs => exact ⟨runs, rfl⟩

theorem finish_running {entry : Instance} (outcome : Outcome) (runs : entry.supervision = .running) :
    entry.finish outcome = some { entry with supervision := .ended outcome } := by
  simp [finish, runs]

theorem examine_eq_some {entry after : Instance} (examined : entry.examine = some after) :
    ∃ outcome, entry.supervision = .ended outcome ∧
      after = { entry with supervision := judged entry.id entry.stopRequested outcome } := by
  obtain ⟨outcome, ended⟩ := ended_of_examine examined
  rw [examine_eq ended] at examined
  cases examined
  exact ⟨outcome, ended, rfl⟩

theorem examine_gone {entry : Instance} {outcome : Outcome} (ended : entry.supervision = .ended outcome) :
    ∃ after, entry.examine = some after ∧ after.gone?.isSome = true := by
  let examined := { entry with supervision := judged entry.id entry.stopRequested outcome }
  have stands : examined.supervision = judged entry.id entry.stopRequested outcome := rfl
  exact ⟨examined, examine_eq ended, by simp [gone?_judged stands]⟩

theorem judged_eq_published {id : String} {stopRequested : Bool} {outcome : Outcome} (known : outcome ≠ .lost) :
    judged id stopRequested outcome = .published (publishedError id stopRequested outcome) := by
  cases outcome <;> first | rfl | exact absurd rfl known

namespace Evolves
variable {before after : Instance}

theorem kept (evolves : before.Evolves after) : ¬ before.Abandoned → ¬ after.Abandoned := by
  induction evolves with
  | same | marked | killed => exact fun kept => kept
  | finished known finished =>
    obtain ⟨-, rfl⟩ := finish_eq_some finished
    simp [Abandoned, known]
  | examined examined =>
    obtain ⟨outcome, ended, rfl⟩ := examine_eq_some examined
    intro kept
    have known : outcome ≠ .lost := fun lost => kept (.inr (lost ▸ ended))
    simp [Abandoned, judged_eq_published known]
  | trans _ _ before after => exact fun kept => after (before kept)

theorem stopping (evolves : before.Evolves after) : before.Stopping → after.Stopping := by
  induction evolves with
  | same => exact fun stopping => stopping
  | marked => exact fun stopping => ⟨rfl, stopping.quiet⟩
  | killed => exact fun stopping => ⟨stopping.asked, stopping.quiet⟩
  | finished known finished =>
    obtain ⟨-, rfl⟩ := finish_eq_some finished
    exact fun stopping => ⟨stopping.asked, nofun⟩
  | examined examined =>
    obtain ⟨outcome, -, rfl⟩ := examine_eq_some examined
    refine fun stopping => ⟨stopping.asked, fun error published => ?_⟩
    cases outcome <;> cases published <;> simp [publishedError, stopping.asked]
  | trans _ _ before after => exact fun stopping => after (before stopping)

theorem grows (evolves : before.Evolves after) : before.Grows after := by
  induction evolves with
  | same => exact .refl _
  | marked => exact markStopping_grows _
  | killed => exact requestKill_grows _
  | finished known finished => exact finish_grows finished
  | examined examined => exact examine_grows examined
  | trans _ _ before after => exact before.trans after

theorem stopped (evolves : before.Evolves after) (stopped : before.isRunning = false) : after.isRunning = false := by
  obtain ⟨error, published⟩ := isRunning_eq_false.mp stopped
  exact isRunning_eq_false.mpr ⟨error, evolves.grows.published error published⟩

theorem pid (evolves : before.Evolves after) : after.pid = before.pid := by
  induction evolves with
  | same | marked | killed => rfl
  | finished known finished =>
    obtain ⟨-, rfl⟩ := finish_eq_some finished
    rfl
  | examined examined =>
    obtain ⟨outcome, -, rfl⟩ := examine_eq_some examined
    rfl
  | trans _ _ before after => exact after.trans before

theorem of_run {σ ι : Type} {step : σ → ι → Option σ} {entry : σ → Instance} {initial final : σ} {inputs : List ι}
    (each : ∀ before input after, step before input = some after → (entry before).Evolves (entry after))
    (ran : runAll step initial inputs = some final) : (entry initial).Evolves (entry final) :=
  runAll_keeps (motive := fun state => (entry initial).Evolves (entry state))
    (fun before input after stepped so => so.trans (each before input after stepped)) ran .same

end Evolves

theorem Stopping.told {entry : Instance} (stopping : entry.Stopping) (stopped : entry.isRunning = false) :
    entry.gone? = some none := by
  obtain ⟨error, published⟩ := isRunning_eq_false.mp stopped
  cases stopping.quiet error published
  simp [gone?, published]

theorem stopping_of_running {entry : Instance} (runs : entry.supervision = .running) :
    entry.markStopping.Stopping :=
  ⟨rfl, by simp [markStopping, runs]⟩

theorem kept_of_running {entry : Instance} (runs : entry.supervision = .running) : ¬ entry.Abandoned := by
  simp [Abandoned, runs]

end MockKeeper.Instance
