import CommitGate.Authority.Client
import CommitGate.Proofs.Except
import CommitGate.Proofs.Http.Exchange

/-! # How many requests a question costs

A client asks with one request of its own. What is sent beyond that is up to the answers, which may send
the request elsewhere, and to the policy by which they are followed:

* `Client.fetch_requests`: the requests of a question, how many there can be, and when there is more than
  one;
* `Client.fetch_requests_moved`: a server that has moved the resource gets a second request.
-/

namespace CommitGate.Authority.Client

open Http.Exchange (Led isTaken onward? sent)

/-- The client can write the request for a question. -/
structure CanAsk (c : Client) (keyId email : String) : Prop where
  token : c.token.toList.all isHeaderCharacter = true
  url : isRequestable (c.request keyId email).url = true

instance (c : Client) (keyId email : String) : Decidable (c.CanAsk keyId email) :=
  decidable_of_iff (c.token.toList.all isHeaderCharacter = true ∧
    isRequestable (c.request keyId email).url = true) ⟨fun h => ⟨h.1, h.2⟩, fun h => ⟨h.token, h.url⟩⟩

section

variable {p : Http.Policy} {c : Client} {keyId email : String}

/-- A question costs the requests of one exchange if it can be written, and else nothing. -/
theorem fetch_sent_of_canAsk (h : c.CanAsk keyId email) (replies : List Http.Reply) :
    (c.fetch keyId email replies p).2 = sent p Http.maxRedirects (c.request keyId email) replies := by
  simp only [fetch, h.token, h.url]
  rfl

/-- A question that cannot be written is a fault of the network's, though nothing is sent. -/
theorem exists_fetch_eq_of_not_canAsk (h : ¬c.CanAsk keyId email) (replies : List Http.Reply) :
    ∃ detail, c.fetch keyId email replies p = (.error (.network detail), []) := by
  unfold fetch
  dsimp only
  split
  · exact ⟨_, rfl⟩
  · rename_i token
    split
    · exact ⟨_, rfl⟩
    · rename_i url
      rw [Bool.not_eq_true', Bool.not_eq_false] at token url
      exact absurd ⟨token, url⟩ h

theorem fetch_sent_of_not_canAsk (h : ¬c.CanAsk keyId email) (replies : List Http.Reply) :
    (c.fetch keyId email replies p).2 = [] := by
  obtain ⟨detail, fails⟩ := exists_fetch_eq_of_not_canAsk (p := p) h replies
  rw [fails]

/-- The requests of a question are those that its first one is led to. -/
theorem getElem?_fetch_iff {replies : List Http.Reply} {n : Nat} {q : Http.Request} :
    (c.fetch keyId email replies p).2[n]? = some q ↔
      c.CanAsk keyId email ∧ n ≤ Http.maxRedirects ∧
        ∃ rest, Led p (c.request keyId email) replies n q rest ∧ isTaken rest = true := by
  by_cases h : c.CanAsk keyId email
  · rw [fetch_sent_of_canAsk h]
    simp only [h, true_and, Http.Exchange.getElem?_sent_iff]
  · rw [fetch_sent_of_not_canAsk h]
    simp [h]

theorem length_fetch_le (replies : List Http.Reply) :
    (c.fetch keyId email replies p).2.length ≤ Http.maxRedirects + 1 := by
  by_cases h : c.CanAsk keyId email
  · rw [fetch_sent_of_canAsk h]
    exact Http.Exchange.length_sent_le _ _ _
  · rw [fetch_sent_of_not_canAsk h]
    exact Nat.zero_le _

/-- There is a second request exactly if the first answer leads on and the network takes the next request. -/
theorem one_lt_length_fetch_iff {replies : List Http.Reply} :
    1 < (c.fetch keyId email replies p).2.length ↔
      c.CanAsk keyId email ∧ ∃ r rest url, replies = .answer r :: rest ∧
        p.target r (c.request keyId email).url = .onward url ∧ isTaken rest = true := by
  by_cases h : c.CanAsk keyId email
  · rw [fetch_sent_of_canAsk h, Http.maxRedirects, Http.Exchange.one_lt_length_sent_iff]
    simp only [Http.Exchange.onward?_eq_some_iff, h, true_and]
    constructor
    · rintro ⟨q, rest, ⟨r, url, rfl, target, -⟩, taken⟩
      exact ⟨r, rest, url, rfl, target, taken⟩
    · rintro ⟨r, rest, url, rfl, target, taken⟩
      exact ⟨_, rest, ⟨r, url, rfl, target, rfl⟩, taken⟩
  · rw [fetch_sent_of_not_canAsk h]
    simp [h]

/-- After an answer that stays there is none. -/
theorem length_fetch_of_stays (standard : p.IsStandard) {r : Http.Response} (h : r.Stays)
    (rest : List Http.Reply) : (c.fetch keyId email (.answer r :: rest) p).2.length ≤ 1 := by
  refine Nat.le_of_not_lt fun more => ?_
  obtain ⟨-, r', rest', url, same, target, -⟩ := one_lt_length_fetch_iff.1 more
  cases same
  rw [standard.stays r _ h] at target
  cases target

/-- After an answer whose address is beyond doubt there is one, if the network takes it. -/
theorem one_lt_length_fetch_of_moved (standard : p.IsStandard) {r : Http.Response} {url : Url}
    (h : r.moved? (c.request keyId email).url = some url) (rest : List Http.Reply) :
    1 < (c.fetch keyId email (.answer r :: rest) p).2.length ↔
      c.CanAsk keyId email ∧ isTaken rest = true := by
  rw [one_lt_length_fetch_iff]
  constructor
  · rintro ⟨asks, r', rest', url', same, -, taken⟩
    cases same
    exact ⟨asks, taken⟩
  · rintro ⟨asks, taken⟩
    exact ⟨asks, r, rest, url, rfl, standard.follows r _ url h, taken⟩

end

/-- The requests of a question are the client's own and those that the answers lead to, as long as the
network takes them. There are `maxRedirects + 1` at most, and more than one exactly if the first answer
sends the request to another address and the network takes it there: never after an answer that stays, and always
after one whose address is beyond doubt. -/
theorem fetch_requests {p : Http.Policy} (standard : p.IsStandard) (c : Client) (keyId email : String)
    (replies : List Http.Reply) :
    let q := c.request keyId email
    let sent := (c.fetch keyId email replies p).2
    (∀ n q', sent[n]? = some q' ↔ c.CanAsk keyId email ∧ n ≤ Http.maxRedirects ∧
      ∃ rest, Led p q replies n q' rest ∧ isTaken rest = true) ∧
    sent.length ≤ Http.maxRedirects + 1 ∧
    (1 < sent.length ↔ c.CanAsk keyId email ∧ ∃ r rest url, replies = .answer r :: rest ∧
      p.target r q.url = .onward url ∧ isTaken rest = true) ∧
    (∀ r rest, replies = .answer r :: rest → r.Stays → sent.length ≤ 1) ∧
    ∀ r rest url, replies = .answer r :: rest → r.moved? q.url = some url →
      (1 < sent.length ↔ c.CanAsk keyId email ∧ isTaken rest = true) := by
  intro q sent
  refine ⟨fun n q' => getElem?_fetch_iff, length_fetch_le replies, one_lt_length_fetch_iff, ?_, ?_⟩
  · rintro r rest same stays
    simp only [sent, same]
    exact length_fetch_of_stays standard stays rest
  · rintro r rest url same moved
    simp only [sent, same]
    exact one_lt_length_fetch_of_moved standard moved rest

/-- The settings of a client at an address of its own. -/
def sampleConfig : Config := ⟨"http://[::1]/key-mgmt", some "test-token", 30⟩

/-- An answer that says that the resource has moved. -/
def movedTo (location : String) : Http.Response :=
  ⟨302, [("Location", Bytes.ofAscii location)], Bytes.ofAscii "moved", true⟩

theorem exists_moved : ∃ c, ofConfig sampleConfig = .ok c ∧
    c.CanAsk "FC1B547C8D8172C8" "dev@example.com" ∧ ∃ url,
      (movedTo "/elsewhere").moved? (c.request "FC1B547C8D8172C8" "dev@example.com").url = some url := by
  have computed : (ofConfig sampleConfig).toOption.any (fun c =>
      decide (c.CanAsk "FC1B547C8D8172C8" "dev@example.com") &&
        ((movedTo "/elsewhere").moved? (c.request "FC1B547C8D8172C8" "dev@example.com").url).isSome) =
      true := by
    decide +kernel
  obtain ⟨c, hc, computed⟩ := any_toOption_iff.1 computed
  rw [Bool.and_eq_true, decide_eq_true_eq] at computed
  exact ⟨c, hc, computed.1, Option.isSome_iff_exists.1 computed.2⟩

/-- By the plain policy, such an answer makes two requests of one. -/
theorem fetch_requests_plain : Http.Policy.plain.IsStandard ∧
    ∃ c, ofConfig sampleConfig = .ok c ∧ 1 < (c.fetch "FC1B547C8D8172C8" "dev@example.com"
      [.answer (movedTo "/elsewhere"), .closed] .plain).2.length := by
  obtain ⟨c, made, asks, url, moved⟩ := exists_moved
  have requests := fetch_requests Http.Policy.isStandard_plain c "FC1B547C8D8172C8" "dev@example.com"
    [.answer (movedTo "/elsewhere"), .closed]
  exact ⟨Http.Policy.isStandard_plain, c, made, (requests.2.2.2.2 _ _ url rfl moved).2 ⟨asks, rfl⟩⟩

/-- By any policy, a server that has moved the resource gets a second request. -/
theorem fetch_requests_moved : ∃ c, ofConfig sampleConfig = .ok c ∧
    ∀ p : Http.Policy, p.IsStandard → ∀ found : Http.Response,
      1 < (c.fetch "FC1B547C8D8172C8" "dev@example.com"
        [.answer (movedTo "/elsewhere"), .answer found] p).2.length := by
  obtain ⟨c, made, asks, url, moved⟩ := exists_moved
  refine ⟨c, made, fun p standard found => ?_⟩
  exact (one_lt_length_fetch_of_moved standard moved [.answer found]).2 ⟨asks, rfl⟩

end CommitGate.Authority.Client
