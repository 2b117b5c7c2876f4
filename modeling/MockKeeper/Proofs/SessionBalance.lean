import MockKeeper.Proofs.SessionHolding
import MockKeeper.Proofs.StopAccounts

/-! The loop tells its last stop from the others by a bare count. The count is right: what
the loop's channel is owed makes up for the restarts whose stop was not seen, and one
more for the instance that the loop has. A removal may add to that, never take from it. -/

namespace MockKeeper.Session
open Engine

def Stance.share (removed : Bool) : Stance → Nat
  | .unstarted | .crashed => if removed then 1 else 0
  | .between => 0
  | .unarmed | .armed | .ended => 1

/-- The stops that a loop needs before it may end. -/
def needed (session : Session) : Nat :=
  session.loop.restartsPending + session.stance.share session.engine.removed

/-- The stops that are owed are those that the loop needs, and where it needs none
everything is gone. -/
structure Balanced (session : Session) : Prop where
  idle : session.engine.removed = false → session.stance = .unstarted ∨ session.stance = .crashed →
    ∀ index, session.engine.current = some index →
      session.engine.goneAt index = true ∧ session.engine.watchedAt stopChannel index = true
  watched : session.engine.removed = false → session.stance = .armed →
    session.engine.unwatched stopChannel = 0
  even : session.engine.removed = false → session.stance ≠ .ended →
    session.engine.promised stopChannel = session.needed
  late : session.engine.removed = true → session.stance ≠ .ended →
    session.needed ≤ session.engine.owed stopChannel ∧
      (session.engine.busy ≠ none → session.engine.owed stopChannel = session.needed)
  ended : session.stance = .ended → session.engine.AllGone

variable {first : Nat} {session after : Session}

theorem needed_eq {pending : Nat} {stance : Stance} {removed : Bool}
    (count : session.loop.restartsPending = pending) (stands : session.stance = stance)
    (out : session.engine.removed = removed) : session.needed = pending + stance.share removed := by
  simp only [needed, count, stands, out]

namespace Balanced

private theorem same (balanced : session.Balanced) (stance : after.stance = session.stance)
    (pending : after.loop.restartsPending = session.loop.restartsPending)
    (evolves : Evolves session.engine.instances after.engine.instances)
    (length : after.engine.instances.length = session.engine.instances.length)
    (current : after.engine.current = session.engine.current)
    (removed : after.engine.removed = session.engine.removed)
    (owed : after.engine.owed stopChannel = session.engine.owed stopChannel)
    (unwatched : after.engine.unwatched stopChannel = session.engine.unwatched stopChannel)
    (busy : after.engine.busy ≠ none → session.engine.busy ≠ none ∨ session.engine.removed = false) :
    after.Balanced := by
  have needs : after.needed = session.needed := by simp only [needed, stance, pending, removed]
  refine ⟨?_, ?_, ?_, ?_, ?_⟩
  · intro kept idle index held
    rw [stance] at idle
    rw [current] at held
    obtain ⟨gone, watched⟩ := balanced.idle (removed ▸ kept) idle index held
    exact ⟨goneAt_mono evolves gone, watchedAt_mono evolves watched⟩
  · intro kept armed
    rw [stance] at armed
    rw [unwatched]
    exact balanced.watched (removed ▸ kept) armed
  · intro kept going
    rw [stance] at going
    rw [needs, promised, owed, unwatched]
    exact balanced.even (removed ▸ kept) going
  · intro out going
    rw [stance] at going
    rw [needs, owed]
    rw [removed] at out
    obtain ⟨enough, exactly⟩ := balanced.late out going
    refine ⟨enough, ?_⟩
    intro working
    rcases busy working with held | kept
    · exact exactly held
    · rw [kept] at out
      cases out
  · intro ended
    rw [stance] at ended
    exact (balanced.ended ended).stays evolves length

theorem aside (balanced : session.Balanced) (stance : after.stance = session.stance)
    (pending : after.loop.restartsPending = session.loop.restartsPending)
    (instances : after.engine.instances = session.engine.instances)
    (channels : after.engine.channels = session.engine.channels)
    (current : after.engine.current = session.engine.current)
    (removed : after.engine.removed = session.engine.removed)
    (busy : after.engine.busy ≠ none → session.engine.busy ≠ none ∨ session.engine.removed = false) :
    after.Balanced :=
  balanced.same stance pending (by rw [instances]; exact .refl _) (by rw [instances]) current removed
    (owed_congr instances channels) (unwatched_congr instances current) busy

end Balanced

theorem queued_eq (session : Session) : session.engine.queued stopChannel = session.queue.length :=
  session.engine.queued_eq_length stopChannel

/-- A registered loop whose last report waits has nothing left to stop. -/
theorem Balanced.allGone_of_last (balanced : session.Balanced) (orderly : session.Orderly)
    (stands : session.loop.point = .awaiting) (alone : session.loop.restartsPending = 0)
    (queued : session.queue ≠ []) : session.engine.AllGone := by
  have free := orderly.free (by simp [operation?, stands])
  have armed := orderly.stance_awaiting stands
  have waits : 0 < session.engine.queued stopChannel := by
    rw [queued_eq]
    exact List.length_pos_iff.mpr queued
  have reported : session.engine.owed stopChannel = 1 → session.engine.unreported stopChannel = 0 := by
    unfold owed
    omega
  apply AllGone.of_goneAt
  intro index inside
  by_cases stays : session.engine.Stays index
  · rcases stays with held | ⟨work, held, stage⟩
    · have kept := orderly.steady.kept held
      have none := balanced.watched kept armed
      have even := balanced.even kept (by simp [armed])
      rw [needed_eq alone armed kept, promised, none] at even
      exact gone_of_reported orderly.steady (reported even) (watched_of_unwatched none held)
    · have removal := orderly.removals free _ (mem_pending_of_busy held)
      have fits := orderly.steady.fits work held
      rw [stage, (Prod.mk.inj removal).2] at fits
      have exactly := (balanced.late fits.1 (by simp [armed])).2 (by simp [held])
      rw [needed_eq alone armed fits.1] at exactly
      exact gone_of_reported orderly.steady (reported exactly) fits.2.2
  · exact orderly.steady.gone_unless_stays inside stays

namespace Balanced

theorem of_ended (ended : session.stance = .ended) (gone : session.engine.AllGone) :
    session.Balanced := by
  refine ⟨?_, ?_, fun _ going => absurd ended going, fun _ going => absurd ended going, fun _ => gone⟩
  · rintro _ (idle | idle) <;> (rw [ended] at idle; cases idle)
  · intro _ armed
    rw [ended] at armed
    cases armed

theorem of_removed (removed : session.engine.removed = true) (going : session.stance ≠ .ended)
    (enough : session.needed ≤ session.engine.owed stopChannel)
    (exactly : session.engine.busy ≠ none → session.engine.owed stopChannel = session.needed) :
    session.Balanced := by
  refine ⟨?_, ?_, ?_, fun _ _ => ⟨enough, exactly⟩, fun ended => absurd ended going⟩
  all_goals
    intro kept
    rw [removed] at kept
    cases kept

private theorem of_exact (removed : session.engine.removed = true) (going : session.stance ≠ .ended)
    (exactly : session.engine.owed stopChannel = session.needed) : session.Balanced :=
  of_removed removed going (Nat.le_of_eq exactly.symm) fun _ => exactly

theorem of_kept (kept : session.engine.removed = false) (going : session.stance ≠ .ended)
    (idle : session.stance = .unstarted ∨ session.stance = .crashed →
      ∀ index, session.engine.current = some index →
        session.engine.goneAt index = true ∧ session.engine.watchedAt stopChannel index = true)
    (watched : session.stance = .armed → session.engine.unwatched stopChannel = 0)
    (even : session.engine.promised stopChannel = session.needed) : session.Balanced := by
  refine ⟨fun _ => idle, fun _ => watched, fun _ _ => even, ?_, fun ended => absurd ended going⟩
  intro removed
  rw [kept] at removed
  cases removed

private theorem not_idle (balanced : session.Balanced) (orderly : session.Orderly)
    (faithful : session.engine.Faithful first) {index : Nat}
    (running : session.engine.runningCurrent = some index) :
    session.stance ≠ .unstarted ∧ session.stance ≠ .crashed := by
  obtain ⟨held, runs⟩ := runningCurrent_eq_some.mp running
  have seen : ¬ (session.stance = .unstarted ∨ session.stance = .crashed) := by
    intro idle
    have gone := (balanced.idle (orderly.steady.kept held) idle index held).1
    rw [faithful.stopped gone] at runs
    cases runs
  exact not_or.mp seen

private theorem takes_start (balanced : session.Balanced) (orderly : session.Orderly)
    (faithful : session.engine.Faithful first) {ticket : Ticket} {position : Nat} {engine : Engine}
    (waits : (ticket, .start) ∈ session.engine.pending)
    (takes : Takes (session.engine.without position) ticket .start engine) :
    Balanced { session with engine } := by
  obtain ⟨rfl, unanswered, places⟩ := orderly.stance_of_pending waits (by simp)
  have idle : session.stance = .unstarted ∧ session.loop.point = .starting ∨
      session.stance = .crashed ∧ session.loop.point = .recovering := by
    simpa [and_comm] using places
  cases takes with
  | startRefused refused =>
    -- The loop saw its instance stop, so only a removal can be why the start is refused.
    have removed : session.engine.removed = true := by
      rcases refused with removed | running
      · exact removed
      · obtain ⟨index, running⟩ := Option.isSome_iff_exists.mp running
        obtain ⟨started, recovered⟩ := balanced.not_idle orderly faithful running
        rcases idle with ⟨stance, -⟩ | ⟨stance, -⟩
        · exact absurd stance started
        · exact absurd stance recovered
    have served := orderly.stance_served waits (by simp)
      (show (session.engine.without position).answers = session.engine.answers from rfl)
    rcases idle with ⟨stance, point⟩ | ⟨stance, point⟩
    all_goals
      rw [point] at served
      have late := (balanced.late removed (by simp [stance])).1
      rw [needed_eq rfl stance removed] at late
      refine of_removed removed (by rw [served]; simp [stanceOf]) ?_ (fun working => absurd rfl working)
      rw [needed_eq rfl served removed]
      exact late
  | startLaunch kept =>
    obtain ⟨stage, call, -, equal⟩ := beginLaunch_eq (session.engine.without position) loopTicket .start
    rw [equal]
    exact balanced.aside rfl rfl rfl rfl rfl rfl fun _ => .inr kept

private theorem takes_restart (balanced : session.Balanced) (orderly : session.Orderly)
    (holding : session.Holding first) (recorded : session.engine.Recorded first stopChannel)
    {ticket : Ticket} {position : Nat} {engine : Engine} (later : engine.Faithful first)
    (free : session.engine.busy = none) {channel : Nat}
    (waits : (ticket, .restart channel) ∈ session.engine.pending)
    (takes : Takes (session.engine.without position) ticket (.restart channel) engine) :
    Balanced { session with engine } := by
  obtain ⟨rfl, unanswered, places⟩ := orderly.stance_of_pending waits (by simp)
  obtain ⟨rfl, point, between⟩ : channel = stopChannel ∧ session.loop.point = .restarting ∧
      session.stance = .between := by
    simpa using places
  cases takes with
  | restartOld held =>
    have kept := orderly.steady.kept held
    have going : session.stance ≠ .ended := by simp [between]
    refine of_kept kept going ?_ ?_ ?_
    · rintro (idle | idle) <;> cases between.symm.trans idle
    · exact fun armed => by cases between.symm.trans armed
    · rw [promised_of_bare rfl]
      exact Eq.trans (owed_terminating orderly.steady held rfl rfl) (balanced.even kept going)
  | restartRefused bare removed =>
    have late := (balanced.late removed (by simp [between])).1
    rw [needed_eq rfl between removed] at late
    have unused : ∀ entry ∈ (session.engine.without position).instances,
        ¬ IsSynthetic session.engine.syntheticNumber entry.id :=
      fun entry member => later.foreign entry member _ (Nat.le_trans recorded.counted session.engine.nextSynthetic_le)
        (Nat.lt_succ_self _)
    have known : (session.engine.without position).Recorded first stopChannel :=
      recorded.moved (.refl _) (Nat.le_refl _) rfl
    have owed := owed_reportSynthetic known (.inl rfl) unused
    have served := orderly.stance_served waits (by simp)
      (show ((session.engine.without position).reportSynthetic stopChannel "restart").answers =
        session.engine.answers from rfl)
    rw [point] at served
    refine of_removed removed (by rw [served]; simp [stanceOf]) ?_ (fun working => absurd rfl working)
    rw [needed_eq rfl served removed]
    exact Nat.le_trans (Nat.succ_le_succ late) (Nat.le_of_eq owed.symm)
  | restartBare bare kept =>
    obtain ⟨index, current⟩ := holding.restarts orderly free waits (by simp) kept
    cases bare.symm.trans current

private theorem takes_watch (balanced : session.Balanced) (orderly : session.Orderly)
    (holding : session.Holding first) {ticket : Ticket} {position : Nat} {engine : Engine}
    (free : session.engine.busy = none) {channel : Nat}
    (waits : (ticket, .notifyOnStop channel) ∈ session.engine.pending)
    (takes : Takes (session.engine.without position) ticket (.notifyOnStop channel) engine) :
    Balanced { session with engine } := by
  obtain ⟨rfl, unanswered, places⟩ := orderly.stance_of_pending waits (by simp)
  obtain ⟨rfl, point, unarmed⟩ : channel = stopChannel ∧ session.loop.point = .arming ∧
      session.stance = .unarmed := by
    simpa using places
  cases takes with
  | @watchCurrent _ index held =>
    have kept := orderly.steady.kept held
    have even := balanced.even kept (by simp [unarmed])
    rw [needed_eq rfl unarmed kept] at even
    have served := orderly.stance_served waits (by simp)
      (show ((session.engine.without position).changeInstance index (·.watch stopChannel)).answers =
        session.engine.answers from rfl)
    rw [point] at served
    obtain ⟨entry, found⟩ := orderly.steady.found held
    have watched : (session.engine.changeInstance index (·.watch stopChannel)).unwatched stopChannel = 0 := by
      apply unwatched_of_watched
      intro other current
      cases held.symm.trans current
      exact watchedAt_watch found
    refine of_kept kept (by rw [served]; simp [stanceOf]) ?_ (fun _ => watched) ?_
    · rintro (idle | idle) <;> cases served.symm.trans idle
    · rw [needed_eq rfl served kept]
      have promised : (session.engine.changeInstance index (·.watch stopChannel)).promised stopChannel =
          session.engine.promised stopChannel := by
        rw [Engine.promised, watched, owed_watch_current orderly.steady held, Nat.add_zero]
      exact promised.trans even
  | watchNone bare =>
    have removed : session.engine.removed = true := by
      cases removed : session.engine.removed with
      | true => rfl
      | false =>
        obtain ⟨index, current⟩ := holding.restarts orderly free waits (by simp) removed
        cases bare.symm.trans current
    have late := (balanced.late removed (by simp [unarmed])).1
    rw [needed_eq rfl unarmed removed] at late
    have served := orderly.stance_served waits (by simp)
      (show (session.engine.without position).answers = session.engine.answers from rfl)
    rw [point] at served
    refine of_removed removed (by rw [served]; simp [stanceOf]) ?_ (fun working => absurd rfl working)
    rw [needed_eq rfl served removed]
    exact late

private theorem takes_remove (balanced : session.Balanced) (orderly : session.Orderly)
    (recorded : session.engine.Recorded first stopChannel) (faithful : session.engine.Faithful first)
    {ticket : Ticket} {position : Nat} {engine : Engine} (later : engine.Faithful first) {channel : Nat}
    (waits : (ticket, .remove channel) ∈ session.engine.pending)
    (takes : Takes (session.engine.without position) ticket (.remove channel) engine) :
    Balanced { session with engine } := by
  obtain ⟨rfl, rfl⟩ := orderly.of_removal waits
  obtain ⟨evolves, length⟩ := takes.instances
  have gone : session.stance = .ended → engine.AllGone :=
    fun ended => (balanced.ended ended).stays evolves length
  cases takes with
  | removeRunning running =>
    obtain ⟨held, -⟩ := runningCurrent_eq_some.mp running
    have kept := orderly.steady.kept held
    obtain ⟨started, recovered⟩ := balanced.not_idle orderly faithful running
    -- The stop of the instance was promised before, so the removal adds nothing of its own.
    by_cases ended : session.stance = .ended
    · exact of_ended ended (gone ended)
    · have share : session.stance.share true = session.stance.share session.engine.removed := by
        rw [kept]
        cases stance : session.stance with
        | unstarted => exact absurd stance started
        | crashed => exact absurd stance recovered
        | between | unarmed | armed | ended => rfl
      have needs := balanced.even kept ended
      rw [needed, ← share] at needs
      exact of_exact rfl ended (Eq.trans (owed_terminating orderly.steady held rfl rfl) needs)
  | removeBare idle =>
    -- The report of the removal is the last stop where no instance is left to give one.
    have unused : ∀ entry ∈ (session.engine.without position).instances,
        ¬ IsSynthetic session.engine.syntheticNumber entry.id :=
      fun entry member => later.foreign entry member _ (Nat.le_trans recorded.counted session.engine.nextSynthetic_le)
        (Nat.lt_succ_self _)
    have known : Recorded first { session.engine.without position with removed := true, current := none }
        stopChannel := recorded.moved (.refl _) (Nat.le_refl _) rfl
    have owed := owed_reportSynthetic known (.inr rfl) unused
    have before : Engine.owed { session.engine.without position with removed := true, current := none }
        stopChannel = session.engine.owed stopChannel := owed_congr rfl rfl
    have answered := session.stance_removed none
      (show ({ session.engine.without position with removed := true, current := none }.reportSynthetic
        stopChannel "removal").answers = session.engine.answers from rfl)
    by_cases ended : session.stance = .ended
    · exact of_ended (answered.trans ended) (gone ended)
    · refine of_removed rfl (by rw [answered]; exact ended) ?_ (fun working => absurd rfl working)
      rw [needed_eq rfl answered (Eq.refl true)]
      refine Nat.le_trans ?_ (Nat.le_of_eq (owed.trans (congrArg (· + 1) before)).symm)
      cases removed : session.engine.removed with
      | true =>
        have late := (balanced.late removed ended).1
        rw [needed_eq rfl rfl removed] at late
        exact Nat.le_succ_of_le late
      | false =>
        have even := balanced.even removed ended
        rw [needed_eq rfl rfl removed, promised] at even
        have most := session.engine.unwatched_le_one stopChannel
        have seen : session.stance = .unstarted ∨ session.stance = .crashed →
            session.engine.unwatched stopChannel = 0 :=
          fun idle => unwatched_of_watched fun index held => (balanced.idle removed idle index held).2
        cases stance : session.stance with
        | unstarted | crashed =>
          rw [seen (by simp [stance])] at even
          simp only [stance, Stance.share] at even ⊢
          simp only [if_true, Bool.false_eq_true, if_false] at even ⊢
          omega
        | between | unarmed | armed | ended =>
          simp only [stance, Stance.share] at even ⊢
          omega

private theorem adopts (balanced : session.Balanced) (orderly : session.Orderly) {work : Work}
    {launched : Launched} (held : session.engine.busy = some work) (stage : work.stage = .launching) :
    Balanced { session with engine := session.engine.adopt work launched } := by
  have kept := (orderly.steady.launching held (.inr stage)).1
  have unarmed := orderly.stance_adopt held stage launched
  have before : session.engine.unwatched stopChannel = 0 ∧ session.stance.share false = 0 ∧
      session.stance ≠ .ended := by
    obtain ⟨-, ⟨-, stance⟩ | ⟨-, stance⟩ | ⟨-, stance, bare⟩⟩ := orderly.stance_launching held (.inr stage)
    · rw [stance]
      exact ⟨unwatched_of_watched fun index current =>
        (balanced.idle kept (.inl stance) index current).2, rfl, by simp⟩
    · rw [stance]
      exact ⟨unwatched_of_watched fun index current =>
        (balanced.idle kept (.inr stance) index current).2, rfl, by simp⟩
    · rw [stance]
      exact ⟨unwatched_of_bare bare, rfl, by simp⟩
  obtain ⟨watched, share, going⟩ := before
  have even := balanced.even kept going
  rw [needed_eq rfl rfl kept, share, promised, watched] at even
  obtain ⟨owed, unwatched⟩ := account_adopt session.engine stopChannel work launched
  refine of_kept kept (by simp [unarmed]) ?_ ?_ ?_
  · rintro (idle | idle) <;> cases unarmed.symm.trans idle
  · exact fun armed => by cases unarmed.symm.trans armed
  · have total : (session.engine.adopt work launched).promised stopChannel =
        session.loop.restartsPending + 1 := by
      rw [promised, owed, unwatched]
      omega
    rw [needed_eq rfl unarmed kept]
    exact total

theorem engine (balanced : session.Balanced) (orderly : session.Orderly)
    (holding : session.Holding first) (recorded : session.engine.Recorded first stopChannel)
    (faithful : session.engine.Faithful first) {event : EngineEvent} {engine : Engine}
    (later : engine.Faithful first) (moved : session.engine.Moves event engine) :
    Balanced { session with engine } := by
  have evolves := moved.evolves
  have length := moved.length
  cases moved with
  | @begin position ticket operation _ free waits takes =>
    have pending := mem_pending_of_waiting waits
    cases operation with
    | start => exact balanced.takes_start orderly faithful pending takes
    | restart channel => exact balanced.takes_restart orderly holding recorded later free pending takes
    | remove channel => exact balanced.takes_remove orderly recorded faithful later pending takes
    | notifyOnStop channel => exact balanced.takes_watch orderly holding free pending takes
  | @relaunched work _ _ held | @prepared work held =>
    obtain ⟨stage, call, -, equal⟩ := beginLaunch_eq _ work.ticket work.operation
    rw [equal]
    exact balanced.aside rfl rfl rfl rfl rfl rfl fun _ => .inl (by simp [held])
  | @released work index held stage gone settled =>
    obtain ⟨-, channel, operation⟩ := orderly.steady.released held stage settled
    have waits := mem_pending_of_busy held
    rw [operation] at waits
    rw [(orderly.of_removal waits).1]
    exact balanced.aside (session.stance_removed none rfl) rfl rfl rfl rfl rfl fun working => absurd rfl working
  | unprepared held stage =>
    exact of_ended (orderly.stance_unlaunched held (.inl stage))
      (orderly.steady.allGone_of_launch held (.inl stage))
  | unlaunched held stage =>
    exact of_ended (orderly.stance_unlaunched held (.inr stage))
      (orderly.steady.allGone_of_launch held (.inr stage))
  | launched held stage => exact balanced.adopts orderly held stage
  | ended found finished =>
    obtain ⟨watchers, waiters⟩ := Instance.finish_registrations finished
    obtain ⟨owed, unwatched⟩ := account_changeInstance stopChannel (fun _ => _) found watchers waiters
    exact balanced.same rfl rfl evolves (length nofun) rfl rfl owed unwatched .inl
  | examined found examined =>
    obtain ⟨watchers, waiters⟩ := Instance.examine_registrations examined
    obtain ⟨owed, unwatched⟩ := account_changeInstance stopChannel (fun _ => _) found watchers waiters
    exact balanced.same rfl rfl evolves (length nofun) rfl rfl owed unwatched .inl
  | killed running =>
    obtain ⟨entry, found, -⟩ := runningAt_eq_true.mp running
    obtain ⟨owed, unwatched⟩ := account_changeInstance stopChannel Instance.requestKill found rfl rfl
    exact balanced.same rfl rfl evolves (length nofun) rfl rfl owed unwatched .inl
  | reported found reported =>
    obtain ⟨owed, unwatched⟩ := account_reported orderly.steady recorded faithful found reported
    exact balanced.same rfl rfl evolves (length nofun) rfl rfl owed unwatched .inl
  | elsewhere => exact balanced.same rfl rfl evolves (length nofun) rfl rfl rfl rfl .inl

end Balanced

end MockKeeper.Session
