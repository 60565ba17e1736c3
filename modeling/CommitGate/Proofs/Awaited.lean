import CommitGate.Awaited

/-! # Races, told by arrivals

A race is decided by the polls at which its two values arrive, and by nothing else (`race_eq`):

* `race_eq_first_iff`: the first value wins when the second one does not come before it;
* `race_eq_second_iff`: the second value wins when it comes before the first one;
* `race_eq_endless_iff`: nobody wins only if neither value ever comes.

The winner has been polled once more than it found nothing, and a tie goes to the first value.
-/

namespace CommitGate.Awaited

variable {α β : Type}

/-- After `polls` polls that find nothing, the value is still not there. -/
def AbsentAt (polls : Nat) (x : Awaited α) : Prop := ∀ n a, x.arrival? = some (n, a) → polls < n

/-! ## Arrivals -/

@[simp] theorem arrival?_ready (a : α) : (ready a).arrival? = some (0, a) := rfl

@[simp] theorem arrival?_never : (never : Awaited α).arrival? = none := rfl

@[simp] theorem arrival?_later (rest : Awaited α) :
    (later rest).arrival? = rest.arrival?.map fun (n, a) => (n + 1, a) := rfl

theorem arrival?_after (a : α) (polls : Nat) : (after a polls).arrival? = some (polls, a) := by
  induction polls with
  | zero => rfl
  | succ polls ih => rw [after, arrival?_later, ih, Option.map_some]

/-- A value is there at the first poll exactly if it arrives without a poll that finds nothing. -/
theorem isReady_iff {x : Awaited α} : x.isReady = true ↔ ∃ a, x.arrival? = some (0, a) := by
  cases x with
  | ready a => simp [isReady]
  | later rest => simp [isReady]
  | never => simp [isReady]

/-- A value that is not there at some poll was not there at the first one. -/
theorem AbsentAt.not_isReady {polls : Nat} {x : Awaited α} (h : AbsentAt polls x) :
    x.isReady = false := by
  cases hr : x.isReady with
  | false => rfl
  | true =>
    obtain ⟨a, ha⟩ := isReady_iff.1 hr
    exact absurd (h 0 a ha) (Nat.not_lt_zero polls)

/-! ## Races -/

/-- The end of a race between values with these arrivals. -/
def Finish.ofArrivals : Option (Nat × α) → Option (Nat × β) → Finish α β
  | some (m, a), some (n, b) => if m ≤ n then .first a (m + 1) else .second b (n + 1)
  | some (m, a), none => .first a (m + 1)
  | none, some (n, b) => .second b (n + 1)
  | none, none => .endless

/-- One more poll for both values delays the end by one poll. -/
theorem ofArrivals_delayed (x : Option (Nat × α)) (y : Option (Nat × β)) :
    (Finish.ofArrivals x y).delayed =
      .ofArrivals (x.map fun (n, a) => (n + 1, a)) (y.map fun (n, b) => (n + 1, b)) := by
  rcases x with _ | ⟨m, a⟩ <;> rcases y with _ | ⟨n, b⟩
  · rfl
  · rfl
  · rfl
  · by_cases h : m ≤ n <;> simp [Finish.ofArrivals, Finish.delayed, h]

/-- The arrivals decide a race. -/
theorem race_eq (x : Awaited α) (y : Awaited β) :
    x.race y = .ofArrivals x.arrival? y.arrival? := by
  -- the induction follows the polls: both values are polled once in every turn
  fun_induction race x y with
  | case1 a y => rcases hy : y.arrival? with _ | ⟨n, b⟩ <;> simp [Finish.ofArrivals]
  | case2 x b hx =>
    rcases x with a | rest | _
    · exact absurd rfl (hx a)
    · rcases hr : rest.arrival? with _ | ⟨n, a⟩ <;> simp [Finish.ofArrivals, hr]
    · rfl
  | case3 x y ih => rw [ih, ofArrivals_delayed, arrival?_later, arrival?_later]
  | case4 x ih => simpa [ofArrivals_delayed] using congrArg Finish.delayed ih
  | case5 y ih => simpa [ofArrivals_delayed] using congrArg Finish.delayed ih
  | case6 => rfl

/-- The first value wins when the second one does not come before it. -/
theorem race_eq_first_iff {x : Awaited α} {y : Awaited β} {a : α} {polls : Nat} :
    x.race y = .first a polls ↔
      ∃ m, polls = m + 1 ∧ x.arrival? = some (m, a) ∧ ∀ n b, y.arrival? = some (n, b) → m ≤ n := by
  rw [race_eq]
  rcases x.arrival? with _ | ⟨m, a'⟩ <;> rcases y.arrival? with _ | ⟨n, b⟩
  · simp [Finish.ofArrivals]
  · simp [Finish.ofArrivals]
  · grind [Finish.ofArrivals]
  · grind [Finish.ofArrivals]

/-- The second value wins when it comes before the first one. -/
theorem race_eq_second_iff {x : Awaited α} {y : Awaited β} {b : β} {polls : Nat} :
    x.race y = .second b polls ↔
      ∃ n, polls = n + 1 ∧ y.arrival? = some (n, b) ∧ x.AbsentAt n := by
  unfold AbsentAt
  rw [race_eq]
  rcases x.arrival? with _ | ⟨m, a⟩ <;> rcases y.arrival? with _ | ⟨n, b'⟩
  · simp [Finish.ofArrivals]
  · grind [Finish.ofArrivals]
  · simp [Finish.ofArrivals]
  · grind [Finish.ofArrivals]

/-- A race never ends only if neither value ever comes. -/
theorem race_eq_endless_iff {x : Awaited α} {y : Awaited β} :
    x.race y = .endless ↔ x.arrival? = none ∧ y.arrival? = none := by
  rw [race_eq]
  rcases x.arrival? with _ | ⟨m, a⟩ <;> rcases y.arrival? with _ | ⟨n, b⟩
  · simp [Finish.ofArrivals]
  · simp [Finish.ofArrivals]
  · simp [Finish.ofArrivals]
  · by_cases h : m ≤ n <;> simp [Finish.ofArrivals, h]

end CommitGate.Awaited
