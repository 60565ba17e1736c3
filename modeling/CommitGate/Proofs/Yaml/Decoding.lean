import CommitGate.Yaml.Decode

/-! # What decoding makes of nodes

The nodes of a document mean values when every alias stands for the node it points to. How the nodes are decoded
step by step is not told here.

* `Document.Means` holds of a node, the value it means, and how often aliases are followed for it;
* `Decode.Gives` holds of a decoding step that succeeds with what a relation says and with nothing else;
* `Decode.gives_value`: nodes are decoded as the values that they mean.
-/

namespace CommitGate.Yaml

/-! ## Meanings of nodes -/

/-- A relation that holds item by item, at costs that add up. -/
inductive Each {α β : Type} (R : α → β → Nat → Prop) : List α → List β → Nat → Prop
  | nil : Each R [] [] 0
  | cons {a b k as bs l} (head : R a b k) (tail : Each R as bs l) : Each R (a :: as) (b :: bs) (k + l)

namespace Each

variable {α β : Type} {R : α → β → Nat → Prop}

theorem unique (h : ∀ a b k b' k', R a b k → R a b' k' → b = b' ∧ k = k') {as : List α} {bs bs' : List β}
    {k k' : Nat} (each : Each R as bs k) (each' : Each R as bs' k') : bs = bs' ∧ k = k' := by
  induction each generalizing bs' k' with
  | nil =>
    cases each'
    exact ⟨rfl, rfl⟩
  | cons head tail ih =>
    obtain _ | ⟨head', tail'⟩ := each'
    obtain ⟨rfl, rfl⟩ := h _ _ _ _ _ head head'
    obtain ⟨rfl, rfl⟩ := ih tail'
    exact ⟨rfl, rfl⟩

theorem of_mem {as : List α} {bs : List β} {k : Nat} {a : α} (each : Each R as bs k) (ha : a ∈ as) :
    ∃ b ∈ bs, ∃ l, R a b l := by
  induction each with
  | nil => exact absurd ha List.not_mem_nil
  | cons head tail ih =>
    rcases List.mem_cons.1 ha with rfl | ha
    · exact ⟨_, List.mem_cons_self .., _, head⟩
    · obtain ⟨b, hb, related⟩ := ih ha
      exact ⟨b, List.mem_cons_of_mem _ hb, related⟩

end Each

/-- Nodes as keys, each with the value behind it. -/
def pairs? : List Node → Option (List (Node × Node))
  | [] => some []
  | key :: value :: rest => (pairs? rest).map ((key, value) :: ·)
  | [_] => none

/-- Both parts of a member mean something. -/
def Both (R : Node → Value → Nat → Prop) (p : Node × Node) (m : Value × Value) (k : Nat) : Prop :=
  ∃ k₁ k₂, R p.1 m.1 k₁ ∧ R p.2 m.2 k₂ ∧ k = k₁ + k₂

theorem Both.unique {R : Node → Value → Nat → Prop}
    (h : ∀ n v k v' k', R n v k → R n v' k' → v = v' ∧ k = k') {p : Node × Node} {m m' : Value × Value} {k k' : Nat}
    (both : Both R p m k) (both' : Both R p m' k') : m = m' ∧ k = k' := by
  obtain ⟨k₁, k₂, key, value, rfl⟩ := both
  obtain ⟨l₁, l₂, key', value', rfl⟩ := both'
  obtain ⟨sameKey, rfl⟩ := h _ _ _ _ _ key key'
  obtain ⟨sameValue, rfl⟩ := h _ _ _ _ _ value value'
  exact ⟨Prod.ext sameKey sameValue, rfl⟩

/-- What a node means that is no alias. What it holds means what `inner` says; without that it may hold nothing. No
node with a tag of one's own means anything, and no number of more than 64 bits. -/
inductive Holds (inner : Option (Node → Value → Nat → Prop)) : Node → Value → Nat → Prop
  | scalar {mark tag s m} (free : ownTag? tag = none) (resolved : s.resolve tag = .ok m) (small : ∀ n, m ≠ .large n) :
      Holds inner (.scalar mark tag s) (.scalar m) 0
  | sequence {mark tag ns vs k R} (free : ownTag? tag = none) (within : inner = some R) (items : Each R ns vs k) :
      Holds inner (.sequence mark tag ns) (.sequence vs) k
  | mapping {mark tag ns ps ms k R} (free : ownTag? tag = none) (within : inner = some R) (paired : pairs? ns = some ps)
      (members : Each (Both R) ps ms k) : Holds inner (.mapping mark tag ns) (.mapping ms) k

namespace Document

/-- An alias leads to the node with the anchor, any other node to itself. The number is the number of aliases. -/
def Follows (doc : Document) : Node → Node → Nat → Prop
  | .alias _ anchor, n, k => doc.target? anchor = some n ∧ k = 1
  | n, n', k => n' = n ∧ k = 0

/-- What a node means, of which collections are nested at most `depth` deep. The last number is how often aliases are
followed. -/
def Means (doc : Document) : (depth : Nat) → Node → Value → Nat → Prop
  | 0, n, v, k => ∃ n' k₁ k₂, doc.Follows n n' k₁ ∧ Holds none n' v k₂ ∧ k = k₁ + k₂
  | depth + 1, n, v, k => ∃ n' k₁ k₂, doc.Follows n n' k₁ ∧ Holds (some (doc.Means depth)) n' v k₂ ∧ k = k₁ + k₂

variable {doc : Document}

theorem Follows.unique {n n₁ n₂ : Node} {k₁ k₂ : Nat} (h₁ : doc.Follows n n₁ k₁) (h₂ : doc.Follows n n₂ k₂) :
    n₁ = n₂ ∧ k₁ = k₂ := by
  cases n with
  | «alias» mark anchor => exact ⟨Option.some.inj (h₁.1.symm.trans h₂.1), h₁.2.trans h₂.2.symm⟩
  | scalar | sequence | mapping | cut => exact ⟨h₁.1.trans h₂.1.symm, h₁.2.trans h₂.2.symm⟩

theorem Holds.unique {inner : Option (Node → Value → Nat → Prop)}
    (h : ∀ R ∈ inner, ∀ n v k v' k', R n v k → R n v' k' → v = v' ∧ k = k') {n : Node} {v v' : Value} {k k' : Nat}
    (holds : Holds inner n v k) (holds' : Holds inner n v' k') : v = v' ∧ k = k' := by
  cases holds with
  | scalar _ resolved _ =>
    obtain ⟨_, resolved', _⟩ := holds'
    rw [resolved] at resolved'
    obtain rfl := Except.ok.inj resolved'
    exact ⟨rfl, rfl⟩
  | sequence _ within items =>
    obtain _ | ⟨_, within', items'⟩ := holds'
    obtain rfl := Option.some.inj (within.symm.trans within')
    obtain ⟨rfl, rfl⟩ := items.unique (h _ within) items'
    exact ⟨rfl, rfl⟩
  | mapping _ within paired members =>
    obtain _ | _ | ⟨_, within', paired', members'⟩ := holds'
    obtain rfl := Option.some.inj (within.symm.trans within')
    obtain rfl := Option.some.inj (paired.symm.trans paired')
    obtain ⟨rfl, rfl⟩ := members.unique (fun _ _ _ _ _ both both' => both.unique (h _ within) both') members'
    exact ⟨rfl, rfl⟩

theorem Means.unique {depth : Nat} {n : Node} {v v' : Value} {k k' : Nat} (h : doc.Means depth n v k)
    (h' : doc.Means depth n v' k') : v = v' ∧ k = k' := by
  -- on the depth, down to which nodes have nodes within them
  induction depth generalizing n v v' k k' with
  | zero =>
    obtain ⟨n₁, k₁, k₂, follows, holds, rfl⟩ := h
    obtain ⟨n₂, l₁, l₂, follows', holds', rfl⟩ := h'
    obtain ⟨rfl, rfl⟩ := follows.unique follows'
    obtain ⟨rfl, rfl⟩ := Holds.unique (fun _ h => by cases h) holds holds'
    exact ⟨rfl, rfl⟩
  | succ depth ih =>
    obtain ⟨n₁, k₁, k₂, follows, holds, rfl⟩ := h
    obtain ⟨n₂, l₁, l₂, follows', holds', rfl⟩ := h'
    obtain ⟨rfl, rfl⟩ := follows.unique follows'
    have inner : ∀ R ∈ some (doc.Means depth), ∀ n v k v' k', R n v k → R n v' k' → v = v' ∧ k = k' := by
      intro R hR n v k v' k' h h'
      obtain rfl := Option.mem_some.1 hR
      exact ih h h'
    obtain ⟨rfl, rfl⟩ := Holds.unique inner holds holds'
    exact ⟨rfl, rfl⟩

end Document

/-! ## Steps of decoding -/

namespace Decode

variable {α β : Type} {doc : Document}

/-- A step succeeds with what the relation says and the aliases that it counts, as long as they are not too many; and
in no other way. -/
def Gives (doc : Document) (d : Decode α) (R : α → Nat → Prop) : Prop :=
  ∀ count a count', d doc count = .ok (a, count') ↔
    ∃ k, R a k ∧ count' = count + k ∧ (k = 0 ∨ count' ≤ doc.size * aliasesPerEvent)

theorem Gives.congr {d : Decode α} {R S : α → Nat → Prop} (h : Gives doc d R) (same : ∀ a k, R a k ↔ S a k) :
    Gives doc d S := by
  rwa [show S = R from funext fun a => funext fun k => propext (same a k).symm]

theorem Gives.mk_false {d : Decode α} (h : ∀ count p, d doc count ≠ .ok p) : Gives doc d fun _ _ => False :=
  fun count _ _ => ⟨fun ok => (h count _ ok).elim, fun ⟨_, no, _⟩ => no.elim⟩

theorem gives_pure (a : α) : Gives doc (pure a) fun b k => b = a ∧ k = 0 := by
  intro count b count'
  constructor
  · intro ok
    obtain ⟨rfl, rfl⟩ := Prod.mk.inj (Except.ok.inj ok)
    exact ⟨0, ⟨rfl, rfl⟩, rfl, .inl rfl⟩
  · rintro ⟨_, ⟨rfl, rfl⟩, rfl, _⟩
    rfl

theorem gives_throw (m : Misfit) : Gives doc (throw m : Decode α) fun _ _ => False :=
  .mk_false fun _ _ ok => by cases ok

theorem gives_misfit (problem : String) : Gives doc (misfit problem : Decode α) fun _ _ => False := gives_throw _

theorem gives_cutOff : Gives doc (cutOff : Decode α) fun _ _ => False := by
  obtain ⟨root, anchored, fault, size, isOnly⟩ := doc
  refine .mk_false fun count p ok => ?_
  cases fault with
  | some fault => cases ok
  | none => cases ok

theorem gives_unexpected (n : Node) (expected : String) :
    Gives doc (unexpected n expected : Decode α) fun _ _ => False := by
  unfold unexpected
  split <;> exact gives_misfit _

theorem Gives.bind {d : Decode α} {f : α → Decode β} {R : α → Nat → Prop} {S : α → β → Nat → Prop}
    (h : Gives doc d R) (hf : ∀ a, Gives doc (f a) (S a)) :
    Gives doc (d >>= f) fun b k => ∃ a k₁ k₂, R a k₁ ∧ S a b k₂ ∧ k = k₁ + k₂ := by
  intro count b count'
  have unfolded : (d >>= f) doc count = d doc count >>= fun p => f p.1 doc p.2 := rfl
  rw [unfolded]
  constructor
  · intro ok
    cases first : d doc count with
    | error m =>
      rw [first] at ok
      cases ok
    | ok p =>
      obtain ⟨a, middle⟩ := p
      rw [first] at ok
      obtain ⟨k₁, hR, rfl, few⟩ := (h _ _ _).1 first
      obtain ⟨k₂, hS, rfl, few'⟩ := (hf a _ _ _).1 ok
      -- counts only grow, so the bound at the end is the bound everywhere
      exact ⟨k₁ + k₂, ⟨a, k₁, k₂, hR, hS, rfl⟩, by omega, by omega⟩
  · rintro ⟨_, ⟨a, k₁, k₂, hR, hS, rfl⟩, rfl, few⟩
    have first := (h count a (count + k₁)).2 ⟨k₁, hR, rfl, by omega⟩
    rw [first]
    exact (hf a _ _ _).2 ⟨k₂, hS, by omega, by omega⟩

theorem Gives.map {d : Decode α} {R : α → Nat → Prop} (h : Gives doc d R) (f : α → β) :
    Gives doc (f <$> d) fun b k => ∃ a, R a k ∧ b = f a := by
  refine (h.bind fun a => gives_pure (f a)).congr fun b k => ?_
  constructor
  · rintro ⟨a, k₁, _, hR, ⟨rfl, rfl⟩, rfl⟩
    exact ⟨a, hR, rfl⟩
  · rintro ⟨a, hR, rfl⟩
    exact ⟨a, k, 0, hR, ⟨rfl, rfl⟩, rfl⟩

theorem Gives.placed {d : Decode α} {R : α → Nat → Prop} (h : Gives doc d R) (mark : Mark) (path : String) :
    Gives doc (placed mark path d) R := by
  intro count a count'
  rw [← h count a count']
  unfold Decode.placed
  cases d doc count with
  | ok p => exact Iff.rfl
  | error m =>
    constructor
    · intro ok
      cases ok
    · intro ok
      cases ok

theorem gives_follow (n : Node) : Gives doc (follow n) (doc.Follows n) := by
  cases n with
  | «alias» mark anchor =>
    intro count n' count'
    change (if doc.size * aliasesPerEvent < count + 1 then _ else _ : Decode Node) doc (count + 1) = _ ↔ _
    -- an alias counts before it is looked up
    by_cases many : doc.size * aliasesPerEvent < count + 1
    · rw [if_pos many]
      constructor
      · intro ok
        cases ok
      · rintro ⟨_, ⟨-, rfl⟩, rfl, few⟩
        omega
    · rw [if_neg many]
      cases target : doc.target? anchor with
      | none =>
        constructor
        · intro ok
          obtain ⟨_, no, -⟩ := (gives_cutOff _ _ _).1 ok
          exact no.elim
        · rintro ⟨_, ⟨found, -⟩, -⟩
          rw [target] at found
          cases found
      | some n =>
        constructor
        · intro ok
          obtain ⟨rfl, rfl⟩ := Prod.mk.inj (Except.ok.inj ok)
          exact ⟨1, ⟨target, rfl⟩, rfl, .inr (by omega)⟩
        · rintro ⟨_, ⟨found, rfl⟩, rfl, -⟩
          obtain rfl := Option.some.inj (target.symm.trans found)
          rfl
  | scalar | sequence | mapping | cut => exact gives_pure _

/-! ## Lists of nodes -/

theorem gives_items {read : String → Node → Decode α} {R : Node → α → Nat → Prop}
    (h : ∀ path n, Gives doc (read path n) (R n)) (cut : ∀ a k, ¬R .cut a k) (path : String) (index : Nat)
    (ns : List Node) : Gives doc (items path read index ns) (Each R ns) := by
  induction ns generalizing index with
  | nil =>
    refine (gives_pure []).congr fun as k => ?_
    constructor
    · rintro ⟨rfl, rfl⟩
      exact .nil
    · intro each
      cases each
      exact ⟨rfl, rfl⟩
  | cons n ns ih =>
    have whole : Gives doc (do
        let a ← read (itemPath path index) n
        let as ← items path read (index + 1) ns
        pure (a :: as)) (Each R (n :: ns)) := by
      refine ((h _ n).bind fun a => (ih (index + 1)).bind fun as => gives_pure (a :: as)).congr fun as k => ?_
      constructor
      · rintro ⟨a, k₁, _, first, ⟨as, k₂, _, others, ⟨rfl, rfl⟩, rfl⟩, rfl⟩
        exact .cons first others
      · intro each
        obtain _ | ⟨first, others⟩ := each
        exact ⟨_, _, _, first, ⟨_, _, 0, others, ⟨rfl, rfl⟩, rfl⟩, rfl⟩
    -- only a node that is cut off is not read; it has no meaning either
    cases n with
    | cut =>
      refine gives_cutOff.congr fun as k => ⟨False.elim, fun each => ?_⟩
      obtain _ | ⟨first, -⟩ := each
      exact cut _ _ first
    | scalar | sequence | mapping | «alias» => exact whole

/-- A state that each member takes to the next one, at costs that add up. -/
inductive Chain {σ : Type} (T : σ → Node × Node → σ → Nat → Prop) : σ → List (Node × Node) → σ → Nat → Prop
  | nil {s} : Chain T s [] s 0
  | cons {s p s' k ps s'' l} (head : T s p s' k) (tail : Chain T s' ps s'' l) : Chain T s (p :: ps) s'' (k + l)

theorem gives_members {σ : Type} {act : σ → Node → Node → Decode σ} {T : σ → Node × Node → σ → Nat → Prop}
    (h : ∀ s key value, Gives doc (act s key value) (T s (key, value))) (cut : ∀ s value s' k, ¬T s (.cut, value) s' k)
    (s : σ) (ns : List Node) :
    Gives doc (members act s ns) fun s' k => ∃ ps, pairs? ns = some ps ∧ Chain T s ps s' k := by
  match ns with
  | [] =>
    refine (gives_pure s).congr fun s' k => ?_
    constructor
    · rintro ⟨rfl, rfl⟩
      exact ⟨[], rfl, .nil⟩
    · rintro ⟨ps, paired, chain⟩
      obtain rfl := Option.some.inj paired
      cases chain
      exact ⟨rfl, rfl⟩
  | [n] =>
    have single : members act s [n] = cutOff := by cases n <;> rfl
    rw [single]
    exact gives_cutOff.congr fun s' k => ⟨False.elim, fun ⟨_, paired, _⟩ => by cases paired⟩
  | key :: value :: rest =>
    have whole : Gives doc (act s key value >>= fun s => members act s rest)
        fun s' k => ∃ ps, pairs? (key :: value :: rest) = some ps ∧ Chain T s ps s' k := by
      refine ((h s key value).bind fun s' => gives_members h cut s' rest).congr fun s' k => ?_
      constructor
      · rintro ⟨s₁, k₁, k₂, first, ⟨ps, paired, others⟩, rfl⟩
        exact ⟨(key, value) :: ps, by rw [pairs?, paired, Option.map_some], .cons first others⟩
      · rintro ⟨_, paired, chain⟩
        rw [pairs?] at paired
        obtain ⟨ps, further, rfl⟩ := Option.map_eq_some_iff.1 paired
        obtain _ | ⟨first, others⟩ := chain
        exact ⟨_, _, _, first, ⟨ps, further, others⟩, rfl⟩
    cases key with
    | cut =>
      refine gives_cutOff.congr fun s' k => ⟨False.elim, ?_⟩
      rintro ⟨_, paired, chain⟩
      rw [pairs?] at paired
      obtain ⟨ps, paired, rfl⟩ := Option.map_eq_some_iff.1 paired
      obtain _ | ⟨first, -⟩ := chain
      exact cut _ _ _ _ first
    | scalar | sequence | mapping | «alias» => exact whole

/-! ## Values -/

theorem not_means_cut {depth : Nat} {v : Value} {k : Nat} : ¬doc.Means depth .cut v k := by
  cases depth with
  | zero =>
    rintro ⟨_, _, _, ⟨rfl, -⟩, holds, -⟩
    cases holds
  | succ depth =>
    rintro ⟨_, _, _, ⟨rfl, -⟩, holds, -⟩
    cases holds

theorem Gives.unless {d : Decode α} {R : α → Nat → Prop} (h : Gives doc d R) (c : Bool) (problem : String) :
    Gives doc (if c then (misfit problem : Decode Unit) >>= fun _ => d else d) fun a k => c = false ∧ R a k := by
  cases c with
  | true => exact ((gives_misfit problem).bind fun _ : Unit => h).congr fun a k => by simp
  | false => exact h.congr fun a k => by simp

theorem gives_scalarValue (tag : Option Bytes) (s : Scalar) : Gives doc (scalarValue tag s) fun v k =>
    ownTag? tag = none ∧ ∃ m, s.resolve tag = .ok m ∧ (∀ n, m ≠ .large n) ∧ v = .scalar m ∧ k = 0 := by
  refine (Gives.unless (R := fun v k => ∃ m, s.resolve tag = .ok m ∧ (∀ n, m ≠ .large n) ∧ v = .scalar m ∧ k = 0) ?_
    (ownTag? tag).isSome ownTagProblem).congr fun v k => ?_
  · cases result : s.resolve tag with
    | error problem => exact (gives_misfit problem).congr fun v k => by simp
    | ok m =>
      cases m with
      | large i => exact (gives_misfit _).congr fun v k => by simp
      | null | bool | whole | real | text => exact (gives_pure _).congr fun v k => by simp
  · rw [Option.isSome_eq_false_iff, Option.isNone_iff_eq_none]

/-- A member is read as what it means and put in front of others. -/
def Pushes (R : Node → Value → Nat → Prop) (before : List (Value × Value)) (p : Node × Node)
    (after : List (Value × Value)) (k : Nat) : Prop :=
  ∃ m, after = m :: before ∧ Both R p m k

theorem gives_memberValues {inner : String → Node → Decode Value} {R : Node → Value → Nat → Prop}
    (h : ∀ path n, Gives doc (inner path n) (R n)) (cut : ∀ v k, ¬R .cut v k) (path : String)
    (before : List (Value × Value)) (key value : Node) :
    Gives doc (memberValues inner path before key value) (Pushes R before (key, value)) := by
  have whole : Gives doc (do
      let k ← inner path key
      let v ← inner (memberPath path key) value
      pure ((k, v) :: before)) (Pushes R before (key, value)) := by
    refine ((h _ key).bind fun k => (h _ value).bind fun v => gives_pure ((k, v) :: before)).congr fun after k => ?_
    constructor
    · rintro ⟨k, k₁, _, first, ⟨v, k₂, _, second, ⟨rfl, rfl⟩, rfl⟩, rfl⟩
      exact ⟨(k, v), rfl, k₁, _, first, second, rfl⟩
    · rintro ⟨m, rfl, k₁, k₂, first, second, rfl⟩
      exact ⟨m.1, k₁, k₂, first, ⟨m.2, k₂, 0, second, ⟨rfl, rfl⟩, rfl⟩, rfl⟩
  cases value with
  | cut =>
    refine ((h _ key).bind fun _ => gives_cutOff).congr fun after k => ?_
    constructor
    · rintro ⟨_, _, _, -, no, -⟩
      exact no.elim
    · rintro ⟨m, -, _, _, -, second, -⟩
      exact (cut _ _ second).elim
  | scalar | sequence | mapping | «alias» => exact whole

/-- Members are stored the last one first. -/
theorem chain_iff {R : Node → Value → Nat → Prop} {ps : List (Node × Node)} {before after : List (Value × Value)}
    {k : Nat} : Chain (Pushes R) before ps after k ↔ ∃ ms, Each (Both R) ps ms k ∧ after = ms.reverse ++ before := by
  constructor
  · intro chain
    induction chain with
    | nil => exact ⟨[], .nil, rfl⟩
    | cons head _ ih =>
      obtain ⟨m, rfl, first⟩ := head
      obtain ⟨ms, others, rfl⟩ := ih
      exact ⟨m :: ms, .cons first others, by simp⟩
  · rintro ⟨ms, each, rfl⟩
    induction each generalizing before with
    | nil => exact .nil
    | @cons p m _ ps ms _ head _ ih =>
      have further : Chain (Pushes R) (m :: before) ps (ms.reverse ++ m :: before) _ := ih
      rw [show (m :: ms).reverse ++ before = ms.reverse ++ m :: before by simp]
      exact .cons ⟨m, rfl, head⟩ further

/-- The items of collections are read as what they mean, unless they may have none. -/
def Inner (doc : Document) : Option (String → Node → Decode Value) → Option (Node → Value → Nat → Prop) → Prop :=
  Option.Rel fun read R => (∀ path n, Gives doc (read path n) (R n)) ∧ ∀ v k, ¬R .cut v k

theorem gives_nested {inner : Option (String → Node → Decode Value)} {R : Option (Node → Value → Nat → Prop)}
    (h : Inner doc inner R) {read : (String → Node → Decode Value) → Decode Value}
    {S : (Node → Value → Nat → Prop) → Value → Nat → Prop}
    (hread : ∀ f Q, (∀ path n, Gives doc (f path n) (Q n)) → (∀ v k, ¬Q .cut v k) → Gives doc (read f) (S Q))
    (mark : Mark) (tag : Option Bytes) (path : String) :
    Gives doc (placed mark path do
      if (ownTag? tag).isSome then misfit ownTagProblem
      match inner with
      | none => throw (.tooDeep mark)
      | some inner => read inner) fun v k => ownTag? tag = none ∧ ∃ Q, R = some Q ∧ S Q v k := by
  cases h with
  | none => exact (((gives_throw _).unless (ownTag? tag).isSome ownTagProblem).placed mark path).congr fun v k => by simp
  | some related =>
    refine (((hread _ _ related.1 related.2).unless (ownTag? tag).isSome ownTagProblem).placed mark path).congr
      fun v k => ?_
    rw [Option.isSome_eq_false_iff, Option.isNone_iff_eq_none]
    simp

/-- A node is decoded as what it means if its items are. -/
theorem gives_nodeValue {inner : Option (String → Node → Decode Value)} {R : Option (Node → Value → Nat → Prop)}
    (h : Inner doc inner R) (path : String) (n : Node) : Gives doc (nodeValue inner path n) fun v k =>
      ∃ n' k₁ k₂, doc.Follows n n' k₁ ∧ Holds R n' v k₂ ∧ k = k₁ + k₂ := by
  refine (gives_follow n).bind fun n' => ?_
  -- one case for each kind of node that aliases lead to
  cases n' with
  | scalar mark tag s =>
    refine ((gives_scalarValue tag s).placed mark path).congr fun v k => ?_
    constructor
    · rintro ⟨free, m, resolved, small, rfl, rfl⟩
      exact .scalar free resolved small
    · intro holds
      obtain ⟨free, resolved, small⟩ := holds
      exact ⟨free, _, resolved, small, rfl, rfl⟩
  | sequence mark tag ns =>
    have sequence : ∀ f Q, (∀ path n, Gives doc (f path n) (Q n)) → (∀ v k, ¬Q .cut v k) →
        Gives doc (Value.sequence <$> items path f 0 ns) fun v k => ∃ vs, Each Q ns vs k ∧ v = .sequence vs :=
      fun f Q reads cut => (gives_items reads cut path 0 ns).map Value.sequence
    refine (gives_nested h sequence mark tag path).congr fun v k => ?_
    constructor
    · rintro ⟨free, Q, within, vs, each, rfl⟩
      exact .sequence free within each
    · intro holds
      obtain _ | ⟨free, within, each⟩ := holds
      exact ⟨free, _, within, _, each, rfl⟩
  | mapping mark tag ns =>
    have mapping : ∀ f Q, (∀ path n, Gives doc (f path n) (Q n)) → (∀ v k, ¬Q .cut v k) →
        Gives doc ((fun ms => Value.mapping ms.reverse) <$> members (memberValues f path) [] ns) fun v k =>
          ∃ ps ms, pairs? ns = some ps ∧ Each (Both Q) ps ms k ∧ v = .mapping ms := by
      intro f Q reads cut
      have noCut : ∀ before value after k, ¬Pushes Q before (.cut, value) after k :=
        fun _ _ _ _ ⟨_, _, _, _, first, _⟩ => cut _ _ first
      refine ((gives_members (gives_memberValues reads cut path) noCut [] ns).map
        fun ms => Value.mapping ms.reverse).congr fun v k => ?_
      constructor
      · rintro ⟨after, ⟨ps, paired, chain⟩, rfl⟩
        obtain ⟨ms, each, rfl⟩ := chain_iff.1 chain
        exact ⟨ps, ms, paired, each, by simp⟩
      · rintro ⟨ps, ms, paired, each, rfl⟩
        exact ⟨_, ⟨ps, paired, chain_iff.2 ⟨ms, each, rfl⟩⟩, by simp⟩
    refine (gives_nested h mapping mark tag path).congr fun v k => ?_
    constructor
    · rintro ⟨free, Q, within, ps, ms, paired, each, rfl⟩
      exact .mapping free within paired each
    · intro holds
      obtain _ | _ | ⟨free, within, paired, each⟩ := holds
      exact ⟨free, _, within, _, _, paired, each, rfl⟩
  | «alias» mark anchor => exact gives_cutOff.congr fun v k => ⟨False.elim, fun holds => by cases holds⟩
  | cut => exact gives_cutOff.congr fun v k => ⟨False.elim, fun holds => by cases holds⟩

/-- A node is decoded as the value that it means. -/
theorem gives_value (depth : Nat) (path : String) (n : Node) :
    Gives doc (value depth path n) (doc.Means depth n) := by
  induction depth generalizing path n with
  | zero => exact gives_nodeValue .none path n
  -- one level of nesting is left for what a collection holds
  | succ depth ih => exact gives_nodeValue (.some ⟨ih, fun _ _ => not_means_cut⟩) path n

end Decode

end CommitGate.Yaml
