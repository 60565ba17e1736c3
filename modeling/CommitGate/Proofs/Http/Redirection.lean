import CommitGate.Http.Redirection

/-! # What is known of policies

Nothing is proved of a policy but from what is documented of redirection (`Policy.IsStandard`): which answers are
final, which addresses are followed beyond doubt, and that a request keeps its credentials as long as it goes to
the host and port of the one before it. `Policy.plain` is such a policy (`isStandard_plain`).
-/

namespace CommitGate.Http

/-- An answer that stays with its request: it has another status than those that send a request elsewhere, or names
no address. -/
def Response.Stays (r : Response) : Prop := isRedirect r.status = false ∨ r.header? "location" = none

instance (r : Response) : Decidable r.Stays := inferInstanceAs (Decidable (_ ∨ _))

namespace Policy

/-- What is documented of redirection. -/
structure IsStandard (p : Policy) : Prop where
  /-- An answer that stays is the last one. -/
  stays : ∀ (r : Response) (url : Url), r.Stays → p.target r url = .last
  /-- An address beyond doubt is followed. -/
  follows : ∀ (r : Response) (url next : Url), r.moved? url = some next → p.target r url = .onward next
  /-- A request keeps its credentials exactly if it goes to the host and port of the one before it. -/
  keeps_iff : ∀ (before : List Url) (url next : Url),
    p.keeps (url :: before) next = true ↔ next.origin = url.origin

/-- An answer that stays has no address beyond doubt. -/
theorem moved?_of_stays {r : Response} (h : r.Stays) (url : Url) : r.moved? url = none := by
  rcases h with status | address
  · simp [Response.moved?, status]
  · simp [Response.moved?, address]

theorem isStandard_plain : Policy.plain.IsStandard where
  stays r url h := by rw [target_plain, moved?_of_stays h, Option.elim_none]
  follows r url next h := by rw [target_plain, h, Option.elim_some]
  keeps_iff before url next := decide_eq_true_iff

end Policy

end CommitGate.Http
