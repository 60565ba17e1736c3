import CommitGate.Proofs.Authority.Requests

/-! # Where the token goes

The requests of a question start from the same credentials, and each leaves them out if the policy says so: if it
goes to another host or port than the one before it. What the requests before that were does not count.

* `Client.Identifies`: a request carries the client's token;
* `Client.Confines`: the token goes to the authority's host and port, and nowhere once a request has left
  them;
* `Client.fetch_token`: which requests carry the token, and when it is confined;
* `Client.fetch_token_abroad`: a server elsewhere that sends a request on to itself gets the token.
-/

namespace CommitGate

/-- The authorization headers of a request are its credentials. -/
theorem Http.Request.mem_headers_authorization {q : Http.Request} {v : String} :
    ("authorization", v) ∈ q.headers ↔ v ∈ q.credentials := by
  simp [headers]

namespace Authority.Client

open Http.Exchange (onward?_of_moved)

/-- A request carries the client's token. -/
def Identifies (c : Client) (q : Http.Request) : Prop :=
  ("authorization", "Bearer " ++ c.token) ∈ q.headers

instance (c : Client) (q : Http.Request) : Decidable (c.Identifies q) :=
  inferInstanceAs (Decidable (_ ∈ _))

/-- A request that carries the token goes to the authority's host and port, and so do all requests before
it. -/
def Confines (c : Client) (sent : List Http.Request) : Prop :=
  ∀ (i j : Nat) (p q : Http.Request), i ≤ j → sent[i]? = some p → sent[j]? = some q →
    c.Identifies q → p.url.origin = c.baseUrl.origin

theorem identifies_iff {c : Client} {q : Http.Request} :
    c.Identifies q ↔ "Bearer " ++ c.token ∈ q.credentials :=
  Http.Request.mem_headers_authorization

theorem bearer_mem_credentials (c : Client) : "Bearer " ++ c.token ∈ c.credentials :=
  List.mem_append_right _ (List.mem_singleton_self _)

section

variable {p : Http.Policy} {c : Client} {keyId email : String} {replies : List Http.Reply}

/-- Requests are only sent for a question that can be written, and then they are those of one exchange. -/
theorem fetch_sent_of_getElem? {n : Nat} {q : Http.Request}
    (h : (c.fetch keyId email replies p).2[n]? = some q) :
    (c.fetch keyId email replies p).2 =
      Http.Exchange.sent p Http.maxRedirects (c.request keyId email) replies :=
  fetch_sent_of_canAsk (getElem?_fetch_iff.1 h).1 replies

/-- The first request goes to the authority and carries the token. -/
theorem first_fetch {q : Http.Request} (h : (c.fetch keyId email replies p).2[0]? = some q) :
    c.Identifies q ∧ q.url.origin = c.baseUrl.origin := by
  rw [fetch_sent_of_getElem? h] at h
  obtain ⟨rfl, -⟩ := Http.Exchange.getElem?_sent_zero_iff.1 h
  exact ⟨identifies_iff.2 c.bearer_mem_credentials, rfl⟩

/-- A further request carries the token exactly if it stays where the one before it went. -/
theorem identifies_next_iff (standard : p.IsStandard) {n : Nat} {q₁ q : Http.Request}
    (hq₁ : (c.fetch keyId email replies p).2[n]? = some q₁)
    (hq : (c.fetch keyId email replies p).2[n + 1]? = some q) :
    c.Identifies q ↔ q.url.origin = q₁.url.origin := by
  have exchange := fetch_sent_of_getElem? hq₁
  rw [exchange] at hq₁ hq
  obtain ⟨url, rfl⟩ := Http.Exchange.exists_redirected hq₁ hq
  have given : q₁.given = c.credentials := Http.Exchange.given_of_sent hq₁
  rw [identifies_iff, Http.Request.redirected]
  dsimp only
  split
  · rename_i kept
    simp only [given, c.bearer_mem_credentials, (standard.keeps_iff _ _ _).1 kept]
  · rename_i dropped
    rw [standard.keeps_iff] at dropped
    simp only [List.not_mem_nil, dropped]

end

/-- The first request carries the token to the authority, and a further one carries it exactly if it stays at
the host and port of the one before it. So the token is confined exactly if no request stays where the one
before it went once a request has left the authority. -/
theorem fetch_token {p : Http.Policy} (standard : p.IsStandard) (c : Client) (keyId email : String)
    (replies : List Http.Reply) :
    let sent := (c.fetch keyId email replies p).2
    (∀ q, sent[0]? = some q → c.Identifies q ∧ q.url.origin = c.baseUrl.origin) ∧
    (∀ n q₁ q, sent[n]? = some q₁ → sent[n + 1]? = some q →
      (c.Identifies q ↔ q.url.origin = q₁.url.origin)) ∧
    (c.Confines sent ↔ ∀ i j o q₁ q, i ≤ j → sent[i]? = some o → sent[j]? = some q₁ →
      sent[j + 1]? = some q → o.url.origin ≠ c.baseUrl.origin → q.url.origin ≠ q₁.url.origin) := by
  intro sent
  have first : ∀ q, sent[0]? = some q → c.Identifies q ∧ q.url.origin = c.baseUrl.origin :=
    fun q => first_fetch
  have next : ∀ n q₁ q, sent[n]? = some q₁ → sent[n + 1]? = some q →
      (c.Identifies q ↔ q.url.origin = q₁.url.origin) := fun n q₁ q => identifies_next_iff standard
  refine ⟨first, next, fun confines => ?_, fun moves => ?_⟩
  · intro i j o q₁ q le ho hq₁ hq left stays
    exact left (confines i (j + 1) o q (Nat.le_succ_of_le le) ho hq ((next j q₁ q hq₁ hq).2 stays))
  · intro i j o q le ho hq identifies
    cases j with
    | zero =>
      obtain rfl := Nat.le_zero.1 le
      obtain rfl : o = q := Option.some.inj (ho.symm.trans hq)
      exact (first o ho).2
    | succ j =>
      have here : j < sent.length := Nat.lt_of_succ_lt (List.getElem?_eq_some_iff.1 hq).1
      have hq₁ : sent[j]? = some sent[j] := List.getElem?_eq_getElem here
      have stays := (next j _ q hq₁ hq).1 identifies
      by_contra left
      -- the request that left comes before the one that stays, or it is the one that stays
      rcases Nat.le_succ_iff.1 le with le | rfl
      · exact moves i j o _ q le ho hq₁ hq left stays
      · obtain rfl : o = q := Option.some.inj (ho.symm.trans hq)
        exact moves j j _ _ o (Nat.le_refl j) hq₁ hq₁ hq (stays ▸ left) stays

/-- The addresses of two answers, one after the other: that of another host, and a path there. -/
theorem exists_abroad : ∃ c, ofConfig sampleConfig = .ok c ∧
    c.CanAsk "FC1B547C8D8172C8" "dev@example.com" ∧ ∃ there further,
      (movedTo "http://[::2]/x").moved? (c.request "FC1B547C8D8172C8" "dev@example.com").url = some there ∧
      (movedTo "/y").moved? there = some further ∧
      further.origin = there.origin ∧ further.origin ≠ c.baseUrl.origin := by
  have computed : (ofConfig sampleConfig).toOption.any (fun c =>
      decide (c.CanAsk "FC1B547C8D8172C8" "dev@example.com") &&
        ((movedTo "http://[::2]/x").moved? (c.request "FC1B547C8D8172C8" "dev@example.com").url).any
          fun there => ((movedTo "/y").moved? there).any fun further =>
            decide (further.origin = there.origin ∧ further.origin ≠ c.baseUrl.origin)) = true := by
    decide +kernel
  obtain ⟨c, hc, computed⟩ := any_toOption_iff.1 computed
  rw [Bool.and_eq_true, decide_eq_true_eq] at computed
  obtain ⟨asks, computed⟩ := computed
  obtain ⟨there, moved, computed⟩ := (Option.any_eq_true _ _).1 computed
  obtain ⟨further, moved', origins⟩ := (Option.any_eq_true _ _).1 computed
  exact ⟨c, hc, asks, there, further, moved, moved', of_decide_eq_true origins⟩

/-- A server elsewhere that sends a request on to itself. -/
def abroad : List Http.Reply := [.answer (movedTo "http://[::2]/x"), .answer (movedTo "/y"), .closed]

/-- The third request goes there as the second one does, and carries the token. -/
theorem exists_fetch_abroad : ∃ c, ofConfig sampleConfig = .ok c ∧ ∀ p : Http.Policy, p.IsStandard →
    ∃ q₁ q, (c.fetch "FC1B547C8D8172C8" "dev@example.com" abroad p).2[1]? = some q₁ ∧
      (c.fetch "FC1B547C8D8172C8" "dev@example.com" abroad p).2[2]? = some q ∧ c.Identifies q ∧
      q.url.origin = q₁.url.origin ∧ q.url.origin ≠ c.baseUrl.origin := by
  obtain ⟨c, made, asks, there, further, moved, moved', stays, left⟩ := exists_abroad
  refine ⟨c, made, fun p standard => ?_⟩
  have goes := onward?_of_moved standard moved [.answer (movedTo "/y"), .closed]
  have goes' := onward?_of_moved (q := (c.request "FC1B547C8D8172C8" "dev@example.com").redirected p there)
    standard moved' [.closed]
  have second := getElem?_fetch_iff.2 ⟨asks, by decide, _, .onward goes (.here _ _), rfl⟩
  have third := getElem?_fetch_iff.2 ⟨asks, by decide, _, .onward goes (.onward goes' (.here _ _)), rfl⟩
  exact ⟨_, _, second, third, (identifies_next_iff standard second third).2 stays, stays, left⟩

/-- By the plain policy, the token is not confined there. -/
theorem fetch_token_plain : Http.Policy.plain.IsStandard ∧ ∃ c, ofConfig sampleConfig = .ok c ∧
    ¬c.Confines (c.fetch "FC1B547C8D8172C8" "dev@example.com" abroad .plain).2 := by
  obtain ⟨c, made, sends⟩ := exists_fetch_abroad
  obtain ⟨q₁, q, second, third, -, stays, left⟩ := sends .plain Http.Policy.isStandard_plain
  have token := fetch_token Http.Policy.isStandard_plain c "FC1B547C8D8172C8" "dev@example.com" abroad
  refine ⟨Http.Policy.isStandard_plain, c, made, fun confines => ?_⟩
  exact token.2.2.1 confines 1 1 q₁ q₁ q (Nat.le_refl 1) second second third (stays ▸ left) stays

/-- By any policy, a server elsewhere that sends a request on to itself gets the token. -/
theorem fetch_token_abroad : ∃ c, ofConfig sampleConfig = .ok c ∧
    ∀ p : Http.Policy, p.IsStandard →
      ∃ q, (c.fetch "FC1B547C8D8172C8" "dev@example.com" abroad p).2[2]? = some q ∧
        c.Identifies q ∧ q.url.origin ≠ c.baseUrl.origin := by
  obtain ⟨c, made, sends⟩ := exists_fetch_abroad
  refine ⟨c, made, fun p standard => ?_⟩
  obtain ⟨_, q, -, third, identifies, -, left⟩ := sends p standard
  exact ⟨q, third, identifies, left⟩

end Authority.Client

end CommitGate
