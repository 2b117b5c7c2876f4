/-! Looking up a name in a list of names and values, and counting in a list where one place changes. -/

namespace MockKeeper

variable {α β γ : Type} [BEq α] [LawfulBEq α]

theorem lookup_map (change : α → β → γ) (entries : List (α × β)) (key : α) :
    (entries.map fun entry => (entry.1, change entry.1 entry.2)).lookup key =
      (entries.lookup key).map (change key) := by
  induction entries with
  | nil => rfl
  | cons entry rest ih =>
    obtain ⟨name, value⟩ := entry
    rw [List.map_cons, List.lookup_cons, List.lookup_cons, ih]
    by_cases same : key = name
    · subst same
      simp only [beq_self_eq_true, Option.map_some]
    · simp only [beq_false_of_ne same]

theorem lookup_place [DecidableEq α] (entries : List (α × β)) (key other : α) (value : β) :
    (entries.map fun entry => if entry.1 = key then (key, value) else entry).lookup other =
      if other = key then (entries.lookup key).map fun _ => value else entries.lookup other := by
  have named : (fun entry : α × β => if entry.1 = key then (key, value) else entry) =
      fun entry => (entry.1, if entry.1 = key then value else entry.2) := by
    funext entry
    split
    next same => rw [same]
    next => rfl
  rw [named, lookup_map fun name old => if name = key then value else old]
  split
  next same => rw [same]
  next => exact Option.map_id'

theorem lookup_filter_self (entries : List (α × β)) (key : α) :
    (entries.filter fun entry => entry.1 != key).lookup key = none := by
  rw [List.lookup_eq_none_iff]
  intro entry member
  have kept := (List.mem_filter.mp member).2
  exact bne_comm.trans kept

theorem lookup_filter_ne (entries : List (α × β)) {gone key : α} (different : key ≠ gone) :
    (entries.filter fun entry => entry.1 != gone).lookup key = entries.lookup key := by
  induction entries with
  | nil => rfl
  | cons entry rest ih =>
    obtain ⟨name, value⟩ := entry
    by_cases dropped : name = gone
    · have other : key ≠ name := fun same => different (same.trans dropped)
      rw [List.filter_cons_of_neg (by simpa using dropped), ih, List.lookup_cons, beq_false_of_ne other]
    · rw [List.filter_cons_of_pos (by simpa using dropped), List.lookup_cons, List.lookup_cons, ih]

theorem countP_single (counts : γ → Bool) (item : γ) : [item].countP counts = (counts item).toNat := by
  cases holds : counts item <;> simp [holds]

theorem countP_modify (holds : γ → Bool) (change : γ → γ) {items : List γ} {index : Nat} {item : γ}
    (found : items[index]? = some item) :
    (items.modify index change).countP holds + (if holds item then 1 else 0) =
      items.countP holds + (if holds (change item) then 1 else 0) := by
  induction items generalizing index with
  | nil => simp at found
  | cons head rest ih =>
    cases index with
    | zero =>
      simp only [List.getElem?_cons_zero, Option.some.injEq] at found
      subst found
      simp only [List.modify_zero_cons, List.countP_cons]
      omega
    | succ index =>
      have rest := ih (by simpa using found)
      simp only [List.modify_succ_cons, List.countP_cons]
      omega

end MockKeeper
