import MockKeeper.Engine.Probe
import Mathlib.Data.List.Chain

/-! Asking an engine whether it is up comes to an end, however it answers. Nobody counts the
questions: each but the first comes after a pause that lies before the deadline as a whole, so
there is one more of them than pauses fit at most. -/

namespace MockKeeper.Probe

def Answer.Good (answer : Answer) : Prop := ∃ status, answer = .status status ∧ 200 ≤ status.code ∧ status.code ≤ 299

theorem Answer.isUp_iff {answer : Answer} : answer.isUp = true ↔ answer.Good := by
  cases answer with
  | none => simp [isUp, Good]
  | status status =>
    simp only [isUp, Status.isSuccess, Good, Answer.status.injEq, Bool.and_eq_true, decide_eq_true_eq]
    constructor
    · rintro ⟨least, most⟩
      exact ⟨status, rfl, least, Nat.le_of_lt_succ most⟩
    · rintro ⟨_, rfl, least, most⟩
      exact ⟨least, Nat.lt_succ_of_le most⟩

structure Follows (deadline : Nat) (earlier later : Attempt) : Prop where
  failed : ¬ earlier.answer.Good
  paused : earlier.stop + interval ≤ later.start
  inTime : later.start ≤ deadline

inductive Asks (latest : Nat) (responder : Responder) (deadline : Nat) : Nat → Nat → Inquiry → Prop
  | last {number now : Nat} {ending : Ending}
      (ends : ending? latest deadline (asked responder number now) = some ending) :
      Asks latest responder deadline number now ⟨[asked responder number now], ending⟩
  | again {number now : Nat} {inquiry : Inquiry} (failed : ¬ (asked responder number now).answer.Good)
      (inTime : (asked responder number now).stop + interval ≤ deadline)
      (more : Asks latest responder deadline (number + 1) ((asked responder number now).stop + interval) inquiry) :
      Asks latest responder deadline number now (inquiry.after (asked responder number now))

theorem asks_pollFrom (latest : Nat) (responder : Responder) (deadline number now : Nat) :
    Asks latest responder deadline number now (pollFrom latest responder deadline number now) := by
  fun_induction pollFrom with
  | case1 number now attempt ending ends => exact .last ends
  | case2 number now attempt goes ih =>
    obtain ⟨failed, -, early⟩ := ending?_eq_none.mp goes
    exact .again (by simpa [← Answer.isUp_iff] using failed) early ih

variable {latest : Nat} {responder : Responder} {deadline number now : Nat} {inquiry : Inquiry}

theorem Asks.head? (asks : Asks latest responder deadline number now inquiry) :
    inquiry.attempts.head? = some (asked responder number now) := by
  cases asks <;> rfl

theorem Asks.follows (asks : Asks latest responder deadline number now inquiry) :
    inquiry.attempts.IsChain (Follows deadline) := by
  induction asks with
  | last ends => exact .singleton _
  | again failed inTime more ih =>
    refine ih.cons fun next first => ?_
    rw [more.head?] at first
    cases first
    exact ⟨failed, Nat.le_refl _, inTime⟩

theorem Asks.ends (asks : Asks latest responder deadline number now inquiry) :
    ∃ last, inquiry.attempts.getLast? = some last ∧ ending? latest deadline last = some inquiry.ending := by
  induction asks with
  | last ends => exact ⟨_, rfl, ends⟩
  | again failed inTime more ih =>
    obtain ⟨last, latest, ends⟩ := ih
    exact ⟨last, by rw [Inquiry.after, List.getLast?_cons, latest, Option.getD_some], ends⟩

theorem Asks.failed (asks : Asks latest responder deadline number now inquiry) :
    ∀ attempt ∈ inquiry.attempts.dropLast, ¬ attempt.answer.Good := by
  induction asks with
  | last ends => exact fun attempt member => by cases member
  | @again number now inquiry failed inTime more ih =>
    have some : inquiry.attempts ≠ [] := by
      intro none
      have first := more.head?
      rw [none] at first
      cases first
    rw [Inquiry.after, List.dropLast_cons_of_ne_nil some]
    exact List.forall_mem_cons.mpr ⟨failed, ih⟩

theorem Asks.numbered (asks : Asks latest responder deadline number now inquiry) {index : Nat} {attempt : Attempt}
    (found : inquiry.attempts[index]? = some attempt) :
    attempt = asked responder (number + index) attempt.start := by
  induction asks generalizing index with
  | last ends =>
    cases index with
    | zero =>
      cases found
      rfl
    | succ index => cases found
  | again failed inTime more ih =>
    cases index with
    | zero =>
      cases found
      rfl
    | succ index =>
      rw [Nat.add_comm index 1, ← Nat.add_assoc]
      exact ih found

/-- Each question but the first uses up a pause of the time that is left. -/
theorem Asks.length_le (asks : Asks latest responder deadline number now inquiry) :
    inquiry.attempts.length ≤ (deadline - now) / interval + 1 := by
  induction asks with
  | last ends => exact Nat.le_add_left 1 _
  | @again number now inquiry failed inTime more ih =>
    have used : now + interval ≤ (asked responder number now).stop + interval := by simp [asked]
    calc (inquiry.after (asked responder number now)).attempts.length
        ≤ (deadline - ((asked responder number now).stop + interval)) / interval + 1 + 1 := Nat.succ_le_succ ih
      _ = (deadline - ((asked responder number now).stop + interval) + interval) / interval + 1 := by
        rw [Nat.add_div_right _ interval_pos]
      _ ≤ (deadline - now) / interval + 1 := by
        refine Nat.succ_le_succ (Nat.div_le_div_right ?_)
        omega

theorem Asks.starts_by (asks : Asks latest responder deadline number now inquiry) (early : now ≤ deadline) :
    ∀ attempt ∈ inquiry.attempts, attempt.start ≤ deadline := by
  induction asks with
  | last ends => simpa [asked] using early
  | again failed inTime more ih => exact List.forall_mem_cons.mpr ⟨early, ih inTime⟩

theorem Asks.stops_by {limit : Nat} (asks : Asks latest responder deadline number now inquiry)
    (prompt : ∀ number, (responder number).2.nanoseconds ≤ limit) (early : now ≤ deadline) :
    ∀ attempt ∈ inquiry.attempts, attempt.stop ≤ deadline + limit := by
  intro attempt member
  have started := asks.starts_by early attempt member
  obtain ⟨index, found⟩ := List.mem_iff_getElem?.mp member
  have answered := prompt (number + index)
  rw [asks.numbered found]
  simp only [asked]
  omega

/-- Where the clock reaches beyond the deadline and one answer, asking ends for a good answer, or
because a pause would end too late. -/
theorem Asks.final (asks : Asks latest responder deadline number now inquiry) (early : now ≤ deadline)
    (room : ∀ number, deadline + (responder number).2.nanoseconds + interval ≤ latest) :
    ∃ last, inquiry.attempts.getLast? = some last ∧
      (last.answer.Good ∧ inquiry.cameUp = some true ∨
        ¬ last.answer.Good ∧ deadline < last.stop + interval ∧ inquiry.cameUp = some false) := by
  obtain ⟨last, ending, ends⟩ := asks.ends
  refine ⟨last, ending, ?_⟩
  have member := List.mem_of_getLast? ending
  have started := asks.starts_by early last member
  obtain ⟨index, found⟩ := List.mem_iff_getElem?.mp member
  have answered := room (number + index)
  have stopped : last.stop = last.start + (responder (number + index)).2.nanoseconds :=
    congrArg Attempt.stop (asks.numbered found)
  unfold ending? at ends
  split at ends
  next up =>
    refine .inl ⟨Answer.isUp_iff.mp up, ?_⟩
    simp only [Inquiry.cameUp, ← Option.some.inj ends]
  next down =>
    split at ends
    next beyond => omega
    next =>
      split at ends
      next late =>
        refine .inr ⟨fun good => down (Answer.isUp_iff.mpr good), late, ?_⟩
        simp only [Inquiry.cameUp, ← Option.some.inj ends]
      next => cases ends

theorem heard_within (behaviour : Option (Answer × Elapsed)) : (heard behaviour).2.nanoseconds ≤ patience := by
  unfold heard
  split
  · split
    next prompt => exact prompt
    next => exact Nat.le_refl _
  · exact Nat.le_refl _

variable {means : Means} {timeout : Elapsed}

theorem poll_eq (built : means.unbuilt = none) (reached : timeout.nanoseconds ≤ means.latest) :
    poll means responder timeout = pollFrom means.latest responder timeout.nanoseconds 0 0 := by
  simp only [poll, built, if_neg (Nat.not_lt.mpr reached)]

/-- No question is put only where there is no client, or the clock does not reach the deadline. -/
theorem none_asked_iff : (poll means responder timeout).attempts = [] ↔
    means.unbuilt.isSome = true ∨ means.latest < timeout.nanoseconds := by
  cases built : means.unbuilt with
  | some reason => simp [poll, built]
  | none =>
    by_cases beyond : means.latest < timeout.nanoseconds
    · simp [poll, built, beyond]
    · have asks := asks_pollFrom means.latest responder timeout.nanoseconds 0 0
      have first := asks.head?
      rw [← poll_eq built (Nat.le_of_not_lt beyond)] at first
      simp only [Option.isSome_none, Bool.false_eq_true, beyond, or_self, iff_false]
      intro none
      rw [none] at first
      cases first

/-- Asking ends, and it is bounded, for every engine, where there is a client and the clock reaches
far enough. At least one question is put, and at most one more than pauses fit into the time. The
first is put at once; the others follow on a failure and a pause, and none is put late. Asking goes
on until an answer is good or a pause would end too late, so that the first good answer is the
last, and asking is in vain exactly where all answers were. With an engine that may keep silent it
is over as soon as the time is, and the wait for one answer. -/
theorem asking_ends_in_time (means : Means) (responder : Responder) (timeout : Elapsed)
    (built : means.unbuilt = none)
    (room : ∀ number, timeout.nanoseconds + (responder number).2.nanoseconds + interval ≤ means.latest) :
    let inquiry := poll means responder timeout
    (1 ≤ inquiry.attempts.length ∧ inquiry.attempts.length ≤ timeout.nanoseconds / interval + 1) ∧
    inquiry.attempts.head? = some (asked responder 0 0) ∧
    (∀ index attempt, inquiry.attempts[index]? = some attempt →
      attempt = asked responder index attempt.start) ∧
    inquiry.attempts.IsChain (Follows timeout.nanoseconds) ∧
    (∃ last, inquiry.attempts.getLast? = some last ∧
      (last.answer.Good ∧ inquiry.cameUp = some true ∨
        ¬ last.answer.Good ∧ timeout.nanoseconds < last.stop + interval ∧ inquiry.cameUp = some false)) ∧
    (inquiry.cameUp = some false ↔ ∀ attempt ∈ inquiry.attempts, ¬ attempt.answer.Good) ∧
    ∀ engine : Nat → Option (Answer × Elapsed),
      ∀ attempt ∈ (poll means (fun number => heard (engine number)) timeout).attempts,
        attempt.stop ≤ timeout.nanoseconds + patience := by
  have reached : timeout.nanoseconds ≤ means.latest := by
    have first := room 0
    omega
  intro inquiry
  have asks : Asks means.latest responder timeout.nanoseconds 0 0 inquiry := by
    rw [show inquiry = _ from poll_eq built reached]
    exact asks_pollFrom _ _ _ _ _
  obtain ⟨last, ending, final⟩ := asks.final (Nat.zero_le _) room
  have member := List.mem_of_getLast? ending
  refine ⟨⟨List.length_pos_of_mem member, asks.length_le⟩, asks.head?, ?_, asks.follows, ⟨last, ending, final⟩, ?_, ?_⟩
  · intro index attempt found
    have numbered := asks.numbered found
    rwa [Nat.zero_add] at numbered
  · constructor
    · intro down attempt asked
      rcases final with ⟨-, up⟩ | ⟨failed, -, -⟩
      · cases down.symm.trans up
      · rw [← List.dropLast_append_getLast? last ending] at asked
        rcases List.mem_append.mp asked with earlier | same
        · exact asks.failed attempt earlier
        · rwa [List.mem_singleton.mp same]
    · intro failed
      rcases final with ⟨good, -⟩ | ⟨-, -, down⟩
      · exact absurd good (failed last member)
      · exact down
  · intro engine
    rw [poll_eq built reached]
    exact (asks_pollFrom _ _ timeout.nanoseconds 0 0).stops_by (fun number => heard_within _) (Nat.zero_le _)

def slowStart : Responder
  | 0 => (.none, ⟨0⟩)
  | 1 => (.status ⟨503⟩, .ofMilliseconds 3)
  | _ => (.status .ok, .ofMilliseconds 1)

theorem slow_start_comes_up : (poll {} slowStart (.ofSeconds 2)).attempts =
      [⟨0, 0, .none⟩, ⟨500000000, 503000000, .status ⟨503⟩⟩, ⟨1003000000, 1004000000, .status .ok⟩] ∧
    (poll {} slowStart (.ofSeconds 2)).cameUp = some true := by
  have room (number : Nat) : (Elapsed.ofSeconds 2).nanoseconds + (slowStart number).2.nanoseconds + interval ≤
      ({} : Means).latest := by
    have prompt : (slowStart number).2.nanoseconds ≤ 3000000 := by
      unfold slowStart
      split <;> decide
    have enough : (Elapsed.ofSeconds 2).nanoseconds + 3000000 + interval ≤ ({} : Means).latest := by decide
    omega
  have asked : (poll {} slowStart (.ofSeconds 2)).attempts =
      [⟨0, 0, .none⟩, ⟨500000000, 503000000, .status ⟨503⟩⟩, ⟨1003000000, 1004000000, .status .ok⟩] := by
    decide +kernel
  obtain ⟨-, -, -, -, ⟨last, ending, ⟨-, up⟩ | ⟨bad, -⟩⟩, -⟩ :=
    asking_ends_in_time {} slowStart (.ofSeconds 2) rfl room
  · exact ⟨asked, up⟩
  · rw [asked] at ending
    cases ending
    exact absurd (Answer.isUp_iff.mp rfl) bad

def refused : Responder := fun _ => (.none, ⟨0⟩)

theorem Asks.refused_starts (asks : Asks latest refused deadline number now inquiry) :
    ∀ attempt ∈ inquiry.attempts, ∃ pauses, attempt.start = now + pauses * interval := by
  generalize told : refused = responder at asks
  induction asks with
  | last ends => exact fun attempt member => ⟨0, by simp [List.mem_singleton.mp member, asked]⟩
  | again failed inTime more ih =>
    subst told
    refine List.forall_mem_cons.mpr ⟨⟨0, by simp [asked]⟩, ?_⟩
    intro attempt member
    obtain ⟨pauses, starts⟩ := ih attempt member
    refine ⟨pauses + 1, ?_⟩
    rw [starts, Nat.succ_mul]
    simp only [asked, refused]
    omega

theorem refused_asking (built : means.unbuilt = none) (room : timeout.nanoseconds + interval ≤ means.latest) :
    (poll means refused timeout).cameUp = some false ∧
      (poll means refused timeout).attempts.getLast?.map Attempt.stop = some (refusedUntil timeout) := by
  rw [poll_eq built (Nat.le_trans (Nat.le_add_right _ _) room)]
  have asks := asks_pollFrom means.latest refused timeout.nanoseconds 0 0
  obtain ⟨last, ending, final⟩ := asks.final (Nat.zero_le _) fun _ => room
  have member := List.mem_of_getLast? ending
  obtain ⟨index, found⟩ := List.mem_iff_getElem?.mp member
  have answered := asks.numbered found
  rcases final with ⟨good, -⟩ | ⟨-, late, down⟩
  · rw [answered] at good
    obtain ⟨status, told, -⟩ := good
    cases told
  · refine ⟨down, ?_⟩
    have stops : last.stop = last.start := congrArg Attempt.stop answered
    obtain ⟨pauses, starts⟩ := asks.refused_starts last member
    have early := asks.starts_by (Nat.zero_le _) last member
    rw [stops] at late
    rw [Nat.zero_add] at starts
    have most : pauses = timeout.nanoseconds / interval := by
      apply (Nat.div_eq_of_lt_le ?_ ?_).symm
      · rwa [← starts]
      · rwa [Nat.succ_mul, ← starts]
    rw [ending, Option.map_some, stops, starts, most, refusedUntil]

end MockKeeper.Probe
