import MockKeeper.Proofs.EngineMoves
import MockKeeper.Proofs.Lookup
import Mathlib.Data.List.Perm.Basic

/-! Calls on an engine are neither lost nor answered twice. Each one waits for the lock,
holds it, or has its answer, and no event moves it to more than one of these places. -/

namespace MockKeeper.Engine

/-- The calls without an answer: those that wait for the lock, then the one that holds it. -/
def pending (engine : Engine) : List (Ticket × Operation) :=
  engine.waiting ++ (engine.busy.map fun work => (work.ticket, work.operation)).toList

def tickets (engine : Engine) : List Ticket :=
  engine.pending.map Prod.fst ++ engine.answers.map Prod.fst

inductive Serves (before after : Engine) : Prop
  | kept (waiting : after.waiting = before.waiting) (busy : after.busy = before.busy)
      (answers : after.answers = before.answers)
  | taken {position : Nat} {ticket : Ticket} {operation : Operation} {stage : Stage}
      (free : before.busy = none) (waits : before.waiting[position]? = some (ticket, operation))
      (waiting : after.waiting = before.waiting.eraseIdx position)
      (busy : after.busy = some ⟨ticket, operation, stage⟩) (answers : after.answers = before.answers)
  | served {position : Nat} {ticket : Ticket} {operation : Operation}
      (free : before.busy = none) (waits : before.waiting[position]? = some (ticket, operation))
      (waiting : after.waiting = before.waiting.eraseIdx position) (busy : after.busy = none)
      (answers : after.answers = before.answers ++ [(ticket, none)])
  | advanced {work : Work} {stage : Stage} (held : before.busy = some work)
      (waiting : after.waiting = before.waiting) (busy : after.busy = some { work with stage })
      (answers : after.answers = before.answers)
  | finished {work : Work} {failure : Option EngineError} (held : before.busy = some work)
      (waiting : after.waiting = before.waiting) (busy : after.busy = none)
      (answers : after.answers = before.answers ++ [(work.ticket, failure)])

private theorem Takes.serves {engine after : Engine} {position : Nat} {ticket : Ticket}
    {operation : Operation} (free : engine.busy = none)
    (waits : engine.waiting[position]? = some (ticket, operation))
    (takes : Takes (engine.without position) ticket operation after) :
    Serves engine after := by
  cases takes with
  | startRefused | restartRefused | removeBare | watchCurrent | watchNone =>
    exact .served free waits rfl rfl rfl
  | restartOld | removeRunning => exact .taken free waits rfl rfl rfl
  | startLaunch | restartBare =>
    obtain ⟨stage, call, -, equal⟩ := beginLaunch_eq _ ticket _
    rw [equal]
    exact .taken free waits rfl rfl rfl

theorem Moves.serves {engine after : Engine} {event : EngineEvent} (moved : engine.Moves event after) :
    Serves engine after := by
  cases moved with
  | begin free waits takes => exact takes.serves free waits
  | @relaunched work _ _ held | @prepared work held =>
    obtain ⟨stage, call, -, equal⟩ := beginLaunch_eq _ work.ticket work.operation
    rw [equal]
    exact .advanced held rfl rfl rfl
  | released held | unprepared held | launched held | unlaunched held =>
    exact .finished held rfl rfl rfl
  | ended | killed | examined | reported | elsewhere => exact .kept rfl rfl rfl

theorem Serves.pending_subset {before after : Engine} (serves : Serves before after) :
    ∀ call ∈ after.pending, call ∈ before.pending := by
  intro call member
  unfold pending at member ⊢
  cases serves with
  | kept waiting busy => rwa [waiting, busy] at member
  | taken free waits waiting busy =>
    rw [waiting, busy] at member
    rcases List.mem_append.mp member with old | held
    · exact List.mem_append_left _ (List.mem_of_mem_eraseIdx old)
    · simp only [Option.map_some, Option.toList_some, List.mem_singleton] at held
      subst held
      exact List.mem_append_left _ (List.mem_of_getElem? waits)
  | served free waits waiting busy =>
    rw [waiting, busy] at member
    simp only [Option.map_none, Option.toList_none, List.append_nil] at member
    exact List.mem_append_left _ (List.mem_of_mem_eraseIdx member)
  | advanced held waiting busy =>
    rw [waiting, busy] at member
    rw [held]
    exact member
  | finished held waiting busy =>
    rw [waiting, busy] at member
    simp only [Option.map_none, Option.toList_none, List.append_nil] at member
    exact List.mem_append_left _ member

theorem perm_cons_eraseIdx {α : Type} {items : List α} {position : Nat} {item : α}
    (found : items[position]? = some item) : (item :: items.eraseIdx position).Perm items := by
  obtain ⟨inside, rfl⟩ := List.getElem?_eq_some_iff.mp found
  exact List.getElem_cons_eraseIdx_perm inside

theorem Serves.tickets_perm {before after : Engine} (serves : Serves before after) :
    after.tickets.Perm before.tickets := by
  unfold tickets pending
  cases serves with
  | kept waiting busy answers => rw [waiting, busy, answers]
  | @taken position ticket operation stage free waits waiting busy answers =>
    rw [waiting, busy, answers, free]
    have moved := (List.perm_append_singleton (ticket, operation) _).trans (perm_cons_eraseIdx waits)
    simpa using (moved.map Prod.fst).append_right (before.answers.map Prod.fst)
  | @served position ticket operation free waits waiting busy answers =>
    rw [waiting, busy, answers, free]
    have moved := (perm_cons_eraseIdx waits).map Prod.fst
    simp only [Option.map_none, Option.toList_none, List.append_nil, List.map_append, List.map_cons,
      List.map_nil] at moved ⊢
    rw [← List.append_assoc]
    exact (List.perm_append_singleton ticket _).trans (moved.append_right _)
  | advanced held waiting busy answers =>
    rw [waiting, busy, answers, held]
    exact .refl _
  | @finished work failure held waiting busy answers =>
    rw [waiting, busy, answers, held]
    simp only [Option.map_none, Option.toList_none, List.append_nil, List.map_append, List.map_cons,
      List.map_nil, Option.map_some, Option.toList_some, List.append_assoc]
    exact (List.perm_append_comm).append_left _

theorem tickets_enqueue (engine : Engine) (ticket : Ticket) (operation : Operation) :
    (engine.enqueue ticket operation).tickets.Perm (ticket :: engine.tickets) := by
  simp only [tickets, pending, enqueue, List.map_append, List.map_cons, List.map_nil, List.append_assoc]
  exact List.perm_middle

theorem mem_pending_enqueue {engine : Engine} {ticket : Ticket} {operation : Operation}
    {call : Ticket × Operation} :
    call ∈ (engine.enqueue ticket operation).pending ↔
      call ∈ engine.pending ∨ call = (ticket, operation) := by
  simp only [pending, enqueue, List.mem_append, List.mem_singleton]
  constructor
  · rintro ((old | new) | held)
    · exact .inl (.inl old)
    · exact .inr new
    · exact .inl (.inr held)
  · rintro ((old | held) | new)
    · exact .inl (.inl old)
    · exact .inr held
    · exact .inl (.inr new)

theorem mem_tickets_takeAnswer {engine : Engine} {ticket other : Ticket} (different : other ≠ ticket) :
    other ∈ (engine.takeAnswer ticket).tickets ↔ other ∈ engine.tickets := by
  simp only [tickets, pending, takeAnswer, List.mem_append, List.mem_map, List.mem_filter]
  refine or_congr .rfl ⟨?_, ?_⟩
  · rintro ⟨entry, ⟨member, -⟩, same⟩
    exact ⟨entry, member, same⟩
  · rintro ⟨entry, member, same⟩
    refine ⟨entry, ⟨member, ?_⟩, same⟩
    rw [same]
    simpa using different

theorem tickets_takeAnswer_nodup {engine : Engine} (unique : engine.tickets.Nodup) (ticket : Ticket) :
    (engine.takeAnswer ticket).tickets.Nodup :=
  unique.sublist (((List.filter_sublist).map Prod.fst).append_left _)

theorem finishCall_answer? (engine : Engine) (ticket other : Ticket) (failure : Option EngineError) :
    (engine.finishCall ticket failure).answer? other =
      (engine.answer? other).or (if other = ticket then some failure else none) := by
  unfold answer? finishCall
  rw [List.lookup_append]
  congr 1
  by_cases same : other = ticket
  · simp [same]
  · simp [List.lookup_cons, beq_false_of_ne same, same]

theorem Serves.answer?_mono {before after : Engine} (serves : Serves before after) {ticket : Ticket}
    {failure : Option EngineError} (answered : before.answer? ticket = some failure) :
    after.answer? ticket = some failure := by
  unfold answer? at answered ⊢
  cases serves with
  | kept waiting busy answers | taken free waits waiting busy answers
  | advanced held waiting busy answers => rw [answers, answered]
  | served free waits waiting busy answers | finished held waiting busy answers =>
    rw [answers, List.lookup_append, answered, Option.some_or]

theorem answer?_isSome {engine : Engine} {ticket : Ticket} :
    (engine.answer? ticket).isSome = true ↔ ticket ∈ engine.answers.map Prod.fst := by
  unfold answer?
  rw [List.lookup_isSome_iff, List.mem_map]
  simp only [beq_iff_eq]
  exact ⟨fun ⟨entry, member, same⟩ => ⟨entry, member, same.symm⟩,
    fun ⟨entry, member, same⟩ => ⟨entry, member, same.symm⟩⟩

theorem mem_pending_of_busy {engine : Engine} {work : Work} (held : engine.busy = some work) :
    (work.ticket, work.operation) ∈ engine.pending := by
  simp [pending, held]

theorem mem_pending_of_waiting {engine : Engine} {position : Nat} {call : Ticket × Operation}
    (waits : engine.waiting[position]? = some call) : call ∈ engine.pending :=
  List.mem_append_left _ (List.mem_of_getElem? waits)

theorem mem_tickets_of_pending {engine : Engine} {call : Ticket × Operation}
    (waits : call ∈ engine.pending) : call.1 ∈ engine.tickets :=
  List.mem_append_left _ (List.mem_map.mpr ⟨call, waits, rfl⟩)

theorem mem_tickets_of_answer {engine : Engine} {ticket : Ticket} {failure : Option EngineError}
    (answered : engine.answer? ticket = some failure) : ticket ∈ engine.tickets := by
  have there : (engine.answer? ticket).isSome = true := by rw [answered]; rfl
  exact List.mem_append_right _ (answer?_isSome.mp there)

theorem answer?_of_pending {engine : Engine} {call : Ticket × Operation} (unique : engine.tickets.Nodup)
    (waits : call ∈ engine.pending) : engine.answer? call.1 = none := by
  apply Option.not_isSome_iff_eq_none.mp
  intro answered
  have waiting : call.1 ∈ engine.pending.map Prod.fst := List.mem_map.mpr ⟨call, waits, rfl⟩
  exact (List.nodup_append.mp unique).2.2 _ waiting _ (answer?_isSome.mp answered) rfl

theorem not_mem_tickets_takeAnswer {engine : Engine} {ticket : Ticket} {failure : Option EngineError}
    (unique : engine.tickets.Nodup) (answered : engine.answer? ticket = some failure) :
    ticket ∉ (engine.takeAnswer ticket).tickets := by
  intro member
  rcases List.mem_append.mp member with waiting | rest
  · obtain ⟨call, waits, same⟩ := List.mem_map.mp waiting
    have unanswered := answer?_of_pending unique waits
    rw [same, answered] at unanswered
    cases unanswered
  · simp [takeAnswer] at rest

theorem takeAnswer_answer?_self (engine : Engine) (ticket : Ticket) :
    (engine.takeAnswer ticket).answer? ticket = none :=
  lookup_filter_self engine.answers ticket

theorem takeAnswer_answer? (engine : Engine) {ticket other : Ticket} (different : other ≠ ticket) :
    (engine.takeAnswer ticket).answer? other = engine.answer? other :=
  lookup_filter_ne engine.answers different

end MockKeeper.Engine
