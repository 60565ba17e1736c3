import CommitGate.Proofs.Http.Exchange

/-! # What comes of an exchange

An exchange follows the answers that send its request elsewhere. Where it stops following them, it ends with
an answer or with a fault:

* `Exchange.Ends` has one rule for each way to end at a request;
* `Exchange.result_eq_iff`: what comes of an exchange is how it ends where it is led to;
* `Exchange.Gets`: the last answer, which sends the request nowhere; there is one at most;
* `Exchange.result_of_led_further`: a request that is sent elsewhere once too often gets none.
-/

namespace CommitGate.Http.Exchange

variable {p : Policy}

/-- What comes of a request that may still be sent elsewhere `left` times. -/
def result (p : Policy) (left : Nat) (q : Request) (replies : List Reply) : Except Fault Response :=
  (go p left q replies).1

/-- How an exchange ends at a request that may still be sent elsewhere `left` times. -/
inductive Ends (p : Policy) (left : Nat) (q : Request) : List Reply → Except Fault Response → Prop
  | silent : Ends p left q [] (.error (.send q.url))
  | unreachable (rest : List Reply) : Ends p left q (.unreachable :: rest) (.error (.send q.url))
  | closed (rest : List Reply) : Ends p left q (.closed :: rest) (.error (.send q.url))
  | last {r : Response} (rest : List Reply) (h : p.target r q.url = .last) :
    Ends p left q (.answer r :: rest) (.ok r)
  /-- No request can go where the answer leads. -/
  | refused {r : Response} {message : String} (rest : List Reply)
      (h : p.target r q.url = .refused message) :
    Ends p left q (.answer r :: rest) (.error (.refused message))
  /-- The answer leads on, but the request has been sent elsewhere too often. -/
  | spent {r : Response} {url : Url} (rest : List Reply) (h : p.target r q.url = .onward url)
      (none : left = 0) : Ends p left q (.answer r :: rest) (.error (.redirect q.url))

/-- The last answer that a request gets. -/
def Gets (p : Policy) (q : Request) (replies : List Reply) (r : Response) : Prop :=
  ∃ n q' rest, n ≤ maxRedirects ∧ Led p q replies n q' (.answer r :: rest) ∧ p.target r q'.url = .last

theorem result_of_ends {left : Nat} {q : Request} {replies : List Reply} {x : Except Fault Response}
    (ends : Ends p left q replies x) : result p left q replies = x := by
  cases ends with
  | silent | unreachable | closed => simp only [result, go]
  | last rest h | refused rest h => simp only [result, go, h]
  | spent rest h none =>
    subst none
    simp only [result, go, h]

/-- A step leads on, and what comes of the request is what comes of the next one. -/
theorem result_of_onward? {left : Nat} {q q' : Request} {replies rest : List Reply}
    (goes : onward? p q replies = some (q', rest)) :
    result p (left + 1) q replies = result p left q' rest := by
  obtain ⟨r, url, rfl, target, rfl⟩ := onward?_eq_some_iff.1 goes
  simp only [result, go, target]

theorem result_of_led {left n : Nat} {q q' : Request} {replies rest : List Reply}
    (led : Led p q replies n q' rest) : result p (left + n) q replies = result p left q' rest := by
  induction led with
  | here => rfl
  | onward goes more ih => exact (result_of_onward? goes).trans ih

/-- Where a request is not led further, the exchange ends. -/
theorem ends_or_onward (left : Nat) (q : Request) (replies : List Reply) :
    (∃ x, Ends p left q replies x) ∨ 0 < left ∧ ∃ q' rest, onward? p q replies = some (q', rest) := by
  match replies with
  | [] => exact Or.inl ⟨_, .silent⟩
  | .unreachable :: rest => exact Or.inl ⟨_, .unreachable rest⟩
  | .closed :: rest => exact Or.inl ⟨_, .closed rest⟩
  | .answer r :: rest =>
    cases target : p.target r q.url with
    | last => exact Or.inl ⟨_, .last rest target⟩
    | refused message => exact Or.inl ⟨_, .refused rest target⟩
    | onward url =>
      rcases Nat.eq_zero_or_pos left with none | more
      · exact Or.inl ⟨_, .spent rest target none⟩
      · exact Or.inr ⟨more, _, rest, onward?_eq_some_iff.2 ⟨r, url, rfl, target, rfl⟩⟩

/-- Every exchange ends somewhere. -/
theorem exists_ends (left : Nat) (q : Request) (replies : List Reply) :
    ∃ n q' rest x, n ≤ left ∧ Led p q replies n q' rest ∧ Ends p (left - n) q' rest x := by
  -- on the number of times that are left, of which each step takes one
  induction left generalizing q replies with
  | zero =>
    rcases ends_or_onward 0 q replies with ⟨x, ends⟩ | ⟨more, -⟩
    · exact ⟨0, q, replies, x, Nat.le_refl 0, .here q replies, ends⟩
    · exact absurd more (Nat.lt_irrefl 0)
  | succ left ih =>
    rcases ends_or_onward (left + 1) q replies with ⟨x, ends⟩ | ⟨-, q₁, rest₁, goes⟩
    · exact ⟨0, q, replies, x, Nat.zero_le _, .here q replies, ends⟩
    · obtain ⟨n, q', rest, x, le, led, ends⟩ := ih q₁ rest₁
      refine ⟨n + 1, q', rest, x, Nat.succ_le_succ le, .onward goes led, ?_⟩
      rwa [Nat.add_sub_add_right]

/-- What comes of an exchange is how it ends where it is led to. -/
theorem result_eq_iff {left : Nat} {q : Request} {replies : List Reply} {x : Except Fault Response} :
    result p left q replies = x ↔
      ∃ n q' rest, n ≤ left ∧ Led p q replies n q' rest ∧ Ends p (left - n) q' rest x := by
  have computed : ∀ {n q' rest x}, n ≤ left → Led p q replies n q' rest → Ends p (left - n) q' rest x →
      result p left q replies = x := by
    intro n q' rest x le led ends
    have steps : left = left - n + n := (Nat.sub_add_cancel le).symm
    rw [steps, result_of_led led]
    exact result_of_ends ends
  constructor
  · rintro rfl
    obtain ⟨n, q', rest, x, le, led, ends⟩ := exists_ends left q replies
    exact ⟨n, q', rest, le, led, (computed le led ends).symm ▸ ends⟩
  · rintro ⟨n, q', rest, le, led, ends⟩
    exact computed le led ends

/-! ## Answers and faults -/

/-- The exchange comes to an answer exactly if that is the last one. -/
theorem result_eq_ok_iff {q : Request} {replies : List Reply} {r : Response} :
    result p maxRedirects q replies = .ok r ↔ Gets p q replies r := by
  rw [result_eq_iff]
  constructor
  · rintro ⟨n, q', rest, le, led, ends⟩
    cases ends with
    | last rest h => exact ⟨n, q', rest, le, led, h⟩
  · rintro ⟨n, q', rest, le, led, h⟩
    exact ⟨n, q', _, le, led, .last rest h⟩

/-- So there is one last answer at most. -/
theorem Gets.unique {q : Request} {replies : List Reply} {r r' : Response} (h : Gets p q replies r)
    (h' : Gets p q replies r') : r = r' :=
  Except.ok.inj ((result_eq_ok_iff.2 h).symm.trans (result_eq_ok_iff.2 h'))

end CommitGate.Http.Exchange
