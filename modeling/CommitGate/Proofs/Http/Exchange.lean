import CommitGate.Http.Exchange
import CommitGate.Proofs.Http.Redirection

/-! # The requests of an exchange

By whatever policy answers are followed, each may send the request elsewhere, where the next reply meets it:

* `Exchange.onward?` is one such step, and `sent_succ` says what it adds to the requests sent;
* `Exchange.Led` follows any number of steps;
* `Exchange.getElem?_sent_iff`: the requests sent are the first one and those that it is led to, up to the
  limit, as long as the network takes them;
* `Exchange.exists_redirected` and `Exchange.given_of_sent`: what a request has from the one before it, and
  what all of them have from the caller.
-/

namespace CommitGate.Http.Exchange

variable {p : Policy}

/-- The network takes the next request, whatever comes of it. -/
def isTaken : List Reply → Bool
  | [] | .unreachable :: _ => false
  | .closed :: _ | .answer _ :: _ => true

/-- The request that the first reply makes of a request by sending it elsewhere, and the replies left. -/
def onward? (p : Policy) (q : Request) : List Reply → Option (Request × List Reply)
  | .answer r :: rest =>
    match p.target r q.url with
    | .onward url => some (q.redirected p url, rest)
    | .last | .refused _ => none
  | [] | .unreachable :: _ | .closed :: _ => none

/-- After `n` answers that have sent it elsewhere, a request has become `q'`, and `rest` are the replies
left. -/
inductive Led (p : Policy) : Request → List Reply → Nat → Request → List Reply → Prop
  | here (q : Request) (replies : List Reply) : Led p q replies 0 q replies
  | onward {q q₁ q' : Request} {replies rest₁ rest : List Reply} {n : Nat}
      (goes : onward? p q replies = some (q₁, rest₁)) (more : Led p q₁ rest₁ n q' rest) :
      Led p q replies (n + 1) q' rest

/-- The requests sent when a request may still be sent elsewhere `left` times. -/
def sent (p : Policy) (left : Nat) (q : Request) (replies : List Reply) : List Request :=
  (go p left q replies).2

/-- Only an answer that the policy takes onward sends a request elsewhere. -/
theorem onward?_eq_some_iff {q q' : Request} {replies rest : List Reply} :
    onward? p q replies = some (q', rest) ↔
      ∃ r url, replies = .answer r :: rest ∧ p.target r q.url = .onward url ∧
        q' = q.redirected p url := by
  constructor
  · intro h
    match replies, h with
    | .answer r :: rest', h =>
      simp only [onward?] at h
      split at h
      · rename_i url target
        cases h
        exact ⟨r, url, rfl, target, rfl⟩
      · cases h
      · cases h
  · rintro ⟨r, url, rfl, target, rfl⟩
    simp only [onward?, target]

/-- One whose address is beyond doubt does. -/
theorem onward?_of_moved (standard : p.IsStandard) {q : Request} {r : Response} {url : Url}
    (h : r.moved? q.url = some url) (rest : List Reply) :
    onward? p q (.answer r :: rest) = some (q.redirected p url, rest) :=
  onward?_eq_some_iff.2 ⟨r, url, rfl, standard.follows r q.url url h, rfl⟩

/-- A reply that sends a request elsewhere is the answer to a request that was taken. -/
theorem isTaken_of_onward? {q : Request} {replies : List Reply} {next : Request × List Reply}
    (h : onward? p q replies = some next) : isTaken replies = true := by
  match replies, h with
  | .answer _ :: _, _ => rfl

/-- When it may not be sent elsewhere any more, a request is sent if it is taken. -/
theorem sent_zero (q : Request) (replies : List Reply) :
    sent p 0 q replies = if isTaken replies then [q] else [] := by
  match replies with
  | [] | .unreachable :: _ | .closed :: _ => rfl
  | .answer r :: rest =>
    simp only [sent, go, isTaken, if_true]
    cases p.target r q.url <;> rfl

/-- One step: the request is sent if it is taken, and then what its answer makes of it. -/
theorem sent_succ (left : Nat) (q : Request) (replies : List Reply) :
    sent p (left + 1) q replies =
      match onward? p q replies with
      | some (q', rest) => q :: sent p left q' rest
      | none => if isTaken replies then [q] else [] := by
  match replies with
  | [] | .unreachable :: _ | .closed :: _ => rfl
  | .answer r :: rest =>
    simp only [sent, go, isTaken, onward?, if_true]
    cases p.target r q.url <;> rfl

/-- The first request is the one given, if the network takes it. -/
theorem getElem?_sent_zero_iff {left : Nat} {q q' : Request} {replies : List Reply} :
    (sent p left q replies)[0]? = some q' ↔ q' = q ∧ isTaken replies = true := by
  have first : (sent p left q replies)[0]? = if isTaken replies then some q else none := by
    cases left with
    | zero =>
      rw [sent_zero]
      split <;> rfl
    | succ left =>
      rw [sent_succ]
      split
      · rename_i goes
        rw [isTaken_of_onward? goes]
        rfl
      · split <;> rfl
  rw [first]
  split
  · rename_i taken
    simp [taken, eq_comm]
  · rename_i untaken
    simp [untaken]

/-- The requests sent are those that the first one is led to, up to the limit, as long as the network takes
them. -/
theorem getElem?_sent_iff {left n : Nat} {q q' : Request} {replies : List Reply} :
    (sent p left q replies)[n]? = some q' ↔
      n ≤ left ∧ ∃ rest, Led p q replies n q' rest ∧ isTaken rest = true := by
  -- on the number of steps, each of which uses up one of those that are left
  induction n generalizing left q replies with
  | zero =>
    rw [getElem?_sent_zero_iff]
    constructor
    · rintro ⟨rfl, taken⟩
      exact ⟨Nat.zero_le _, replies, .here _ _, taken⟩
    · rintro ⟨-, rest, led, taken⟩
      cases led
      exact ⟨rfl, taken⟩
  | succ n ih =>
    constructor
    · intro h
      cases left with
      | zero =>
        rw [sent_zero] at h
        split at h <;> simp at h
      | succ left =>
        rw [sent_succ] at h
        split at h
        · rename_i q₁ rest₁ goes
          obtain ⟨le, rest, led, taken⟩ := ih.1 h
          exact ⟨Nat.succ_le_succ le, rest, .onward goes led, taken⟩
        · split at h <;> simp at h
    · rintro ⟨le, rest, led, taken⟩
      cases led with
      | onward goes more =>
        cases left with
        | zero => exact absurd le (Nat.not_succ_le_zero n)
        | succ left =>
          rw [sent_succ, goes]
          exact ih.2 ⟨Nat.le_of_succ_le_succ le, rest, more, taken⟩

/-- So there is an `n`th further request exactly if there are `n` steps that lead on. -/
theorem lt_length_sent_iff {left n : Nat} {q : Request} {replies : List Reply} :
    n < (sent p left q replies).length ↔
      n ≤ left ∧ ∃ q' rest, Led p q replies n q' rest ∧ isTaken rest = true := by
  constructor
  · intro h
    obtain ⟨le, rest, led⟩ := getElem?_sent_iff.1 (List.getElem?_eq_getElem h)
    exact ⟨le, _, rest, led⟩
  · rintro ⟨le, q', rest, led⟩
    exact (List.getElem?_eq_some_iff.1 (getElem?_sent_iff.2 ⟨le, rest, led⟩)).1

/-- A request is sent once, and once more for each time that it may be sent elsewhere. -/
theorem length_sent_le (left : Nat) (q : Request) (replies : List Reply) :
    (sent p left q replies).length ≤ left + 1 := by
  refine Nat.le_of_not_lt fun more => ?_
  exact Nat.not_succ_le_self left (lt_length_sent_iff.1 more).1

/-- There is more than one request exactly if the first answer sends it elsewhere and the network takes it
there. -/
theorem one_lt_length_sent_iff {left : Nat} {q : Request} {replies : List Reply} :
    1 < (sent p (left + 1) q replies).length ↔
      ∃ q' rest, onward? p q replies = some (q', rest) ∧ isTaken rest = true := by
  rw [lt_length_sent_iff]
  constructor
  · rintro ⟨-, q', rest, led, taken⟩
    cases led with
    | onward goes more =>
      cases more
      exact ⟨q', rest, goes, taken⟩
  · rintro ⟨q', rest, goes, taken⟩
    exact ⟨Nat.le_add_left 1 left, q', rest, .onward goes (.here _ _), taken⟩

/-! ## From request to request -/

/-- Before the last step there is one step less. -/
theorem Led.exists_last {q q' : Request} {replies rest : List Reply} {n : Nat}
    (led : Led p q replies (n + 1) q' rest) :
    ∃ q₁ mid, Led p q replies n q₁ mid ∧ onward? p q₁ mid = some (q', rest) := by
  induction n generalizing q replies with
  | zero =>
    cases led with
    | onward goes more =>
      cases more
      exact ⟨q, replies, .here _ _, goes⟩
  | succ n ih =>
    cases led with
    | onward goes more =>
      obtain ⟨q₁, mid, led, last⟩ := ih more
      exact ⟨q₁, mid, .onward goes led, last⟩

/-- A further request is the one before it, sent elsewhere. -/
theorem exists_redirected {left n : Nat} {q q₁ q' : Request} {replies : List Reply}
    (hq₁ : (sent p left q replies)[n]? = some q₁) (hq' : (sent p left q replies)[n + 1]? = some q') :
    ∃ url, q' = q₁.redirected p url := by
  obtain ⟨le, rest, led, -⟩ := getElem?_sent_iff.1 hq'
  obtain ⟨q₂, mid, before, goes⟩ := led.exists_last
  -- the request before the last step has been sent, so it is the one that is meant
  have hq₂ : (sent p left q replies)[n]? = some q₂ :=
    getElem?_sent_iff.2 ⟨Nat.le_of_succ_le le, mid, before, isTaken_of_onward? goes⟩
  obtain rfl : q₂ = q₁ := Option.some.inj (hq₂.symm.trans hq₁)
  obtain ⟨r, url, -, -, rfl⟩ := onward?_eq_some_iff.1 goes
  exact ⟨url, rfl⟩

/-- One step keeps what the caller has given. -/
theorem given_of_onward? {q q' : Request} {replies rest : List Reply}
    (goes : onward? p q replies = some (q', rest)) : q'.given = q.given := by
  obtain ⟨r, url, -, -, rfl⟩ := onward?_eq_some_iff.1 goes
  rfl

/-- So all steps keep it. -/
theorem Led.given_eq {q q' : Request} {replies rest : List Reply} {n : Nat}
    (led : Led p q replies n q' rest) : q'.given = q.given := by
  induction led with
  | here q replies => rfl
  | onward goes more ih => exact ih.trans (given_of_onward? goes)

/-- Every request of an exchange has it. -/
theorem given_of_sent {left n : Nat} {q q' : Request} {replies : List Reply}
    (h : (sent p left q replies)[n]? = some q') : q'.given = q.given := by
  obtain ⟨-, rest, led, -⟩ := getElem?_sent_iff.1 h
  exact led.given_eq

end CommitGate.Http.Exchange
