import CommitGate.Proofs.Allowlist.Entries
import CommitGate.Proofs.Except
import CommitGate.Proofs.Yaml.Decoding

/-! # Which texts are allowlists

A text holds two lists of elements, each of them maybe absent. An allowlist is read from it if every element is an
entry, and then it has an entry for each element.

* `Allowlist.HasLists` holds of a text and of the elements of its lists, in which aliases are followed;
* `Allowlist.ofText_eq_ok_iff`: an allowlist is made of the elements one by one;
* `Allowlist.ofText_exact`: so it has one entry for each, whichever way the element is written, or there is none.
-/

namespace CommitGate.Allowlist

open Yaml

/-! ## The lists of a document -/

/-- The levels that collections within an element may have. -/
def elementDepth : Nat := Decode.maxDepth - 2

/-- A node is a list of elements, or nothing at all. -/
def ListMeans (doc : Document) (n : Node) (vs : List Value) (k : Nat) : Prop :=
  ∃ n' k₁ k₂, doc.Follows n n' k₁ ∧ ((Decode.isBlankScalar n' = true ∧ vs = [] ∧ k₂ = 0) ∨
    ∃ mark tag ns, n' = .sequence mark tag ns ∧ Each (doc.Means elementDepth) ns vs k₂) ∧ k = k₁ + k₂

/-- A key is a scalar, whose text is the name of a member. -/
def KeyMeans (doc : Document) (key : Node) (name : String) (k : Nat) : Prop :=
  ∃ mark tag s, doc.Follows key (.scalar mark tag s) k ∧ name = String.ofList s.text

/-- A member of a document: a list under one of two names, or anything that is YAML under any other. -/
def MemberMeans (doc : Document) (p : Node × Node) (c : String × List Value) (k : Nat) : Prop :=
  ∃ k₁ k₂, KeyMeans doc p.1 c.1 k₁ ∧ (if c.1 = "email_addresses" ∨ c.1 = "third_party_keys" then
    ListMeans doc p.2 c.2 k₂ else Decode.isWhole p.2 = true ∧ c.2 = [] ∧ k₂ = 0) ∧ k = k₁ + k₂

/-- The lists under a name. -/
def listsOf (name : String) (cs : List (String × List Value)) : List (List Value) :=
  (cs.filter fun c => c.1 = name).map Prod.snd

/-- There is one list with these elements, or none and no elements. -/
def AtMostOne (lists : List (List Value)) (vs : List Value) : Prop := (lists = [] ∧ vs = []) ∨ lists = [vs]

/-- A root has the lists with these elements: it is a mapping with each list at most once, or there is nothing. -/
def RootMeans (doc : Document) (emails keys : List Value) : Option Node → Nat → Prop
  | none, k => emails = [] ∧ keys = [] ∧ k = 0
  | some n, k => ∃ n' k₁ k₂, doc.Follows n n' k₁ ∧
      ((Decode.isBlankScalar n' = true ∧ emails = [] ∧ keys = [] ∧ k₂ = 0) ∨
        ∃ mark tag ns ps cs, n' = .mapping mark tag ns ∧ pairs? ns = some ps ∧ Each (MemberMeans doc) ps cs k₂ ∧
          AtMostOne (listsOf "email_addresses" cs) emails ∧ AtMostOne (listsOf "third_party_keys" cs) keys) ∧
      k = k₁ + k₂

/-- A text holds these elements: it is blank and holds none, or it is one whole document with these lists, in which
aliases are not followed too often. -/
def HasLists (text : String) (emails keys : List Value) : Prop :=
  if Blank.isAllBlank text.toList = true then emails = [] ∧ keys = []
  else (Document.ofText text).fault = none ∧ (Document.ofText text).isOnly = true ∧
    ∃ k ≤ (Document.ofText text).size * Decode.aliasesPerEvent,
      RootMeans (Document.ofText text) emails keys (Document.ofText text).root k

/-- A node stands in the list with this name in the document of a text. -/
def IsListed (text name : String) (n : Node) : Prop :=
  Blank.isAllBlank text.toList = false ∧
  ∃ root k₁ mark tag ns ps key value k₂ k₃ mark' tag' items,
    (Document.ofText text).root = some root ∧ (Document.ofText text).Follows root (.mapping mark tag ns) k₁ ∧
    pairs? ns = some ps ∧ (key, value) ∈ ps ∧ KeyMeans (Document.ofText text) key name k₂ ∧
    (Document.ofText text).Follows value (.sequence mark' tag' items) k₃ ∧ n ∈ items

/-! ## There is one way to read a document -/

section

variable {doc : Document} {k k' : Nat}

theorem ListMeans.unique {n : Node} {vs vs' : List Value} (h : ListMeans doc n vs k) (h' : ListMeans doc n vs' k') :
    vs = vs' ∧ k = k' := by
  obtain ⟨n₁, k₁, k₂, follows, list, rfl⟩ := h
  obtain ⟨n₂, l₁, l₂, follows', list', rfl⟩ := h'
  obtain ⟨rfl, rfl⟩ := follows.unique follows'
  rcases list with ⟨blank, rfl, rfl⟩ | ⟨mark, tag, ns, rfl, each⟩
  · rcases list' with ⟨-, rfl, rfl⟩ | ⟨_, _, _, rfl, -⟩
    · exact ⟨rfl, rfl⟩
    · cases blank
  · rcases list' with ⟨blank, -⟩ | ⟨_, _, _, same, each'⟩
    · cases blank
    · cases same
      obtain ⟨rfl, rfl⟩ := each.unique (fun _ _ _ _ _ h h' => h.unique h') each'
      exact ⟨rfl, rfl⟩

theorem KeyMeans.unique {key : Node} {name name' : String} (h : KeyMeans doc key name k)
    (h' : KeyMeans doc key name' k') : name = name' ∧ k = k' := by
  obtain ⟨mark, tag, s, follows, rfl⟩ := h
  obtain ⟨mark', tag', s', follows', rfl⟩ := h'
  obtain ⟨same, rfl⟩ := follows.unique follows'
  cases same
  exact ⟨rfl, rfl⟩

theorem MemberMeans.unique {p : Node × Node} {c c' : String × List Value} (h : MemberMeans doc p c k)
    (h' : MemberMeans doc p c' k') : c = c' ∧ k = k' := by
  obtain ⟨name, vs⟩ := c
  obtain ⟨name', vs'⟩ := c'
  obtain ⟨k₁, k₂, key, value, rfl⟩ := h
  obtain ⟨l₁, l₂, key', value', rfl⟩ := h'
  obtain ⟨same, rfl⟩ := key.unique key'
  obtain rfl : name = name' := same
  split at value
  · rename_i known
    rw [if_pos known] at value'
    obtain ⟨same, rfl⟩ := value.unique value'
    exact ⟨Prod.ext rfl same, rfl⟩
  · rename_i known
    rw [if_neg known] at value'
    obtain ⟨-, none, rfl⟩ := value
    obtain ⟨-, none', rfl⟩ := value'
    exact ⟨Prod.ext rfl (none.trans none'.symm), rfl⟩

theorem AtMostOne.unique {lists : List (List Value)} {vs vs' : List Value} (h : AtMostOne lists vs)
    (h' : AtMostOne lists vs') : vs = vs' := by
  rcases h with ⟨rfl, rfl⟩ | rfl
  · rcases h' with ⟨-, rfl⟩ | one
    · rfl
    · cases one
  · rcases h' with ⟨none, -⟩ | one
    · cases none
    · exact List.singleton_inj.1 one

theorem RootMeans.unique {root : Option Node} {emails keys emails' keys' : List Value}
    (h : RootMeans doc emails keys root k) (h' : RootMeans doc emails' keys' root k') :
    emails = emails' ∧ keys = keys' := by
  cases root with
  | none => exact ⟨h.1.trans h'.1.symm, h.2.1.trans h'.2.1.symm⟩
  | some n =>
    obtain ⟨n₁, k₁, k₂, follows, lists, -⟩ := h
    obtain ⟨n₂, l₁, l₂, follows', lists', -⟩ := h'
    obtain ⟨rfl, -⟩ := follows.unique follows'
    rcases lists with ⟨blank, rfl, rfl, -⟩ | ⟨_, _, _, ps, cs, rfl, paired, each, oneEmails, oneKeys⟩
    · rcases lists' with ⟨-, rfl, rfl, -⟩ | ⟨_, _, _, _, _, rfl, -⟩
      · exact ⟨rfl, rfl⟩
      · cases blank
    · rcases lists' with ⟨blank, -⟩ | ⟨_, _, _, ps', cs', same, paired', each', oneEmails', oneKeys'⟩
      · cases blank
      · cases same
        obtain rfl := Option.some.inj (paired.symm.trans paired')
        obtain ⟨rfl, -⟩ := each.unique (fun _ _ _ _ _ h h' => h.unique h') each'
        exact ⟨oneEmails.unique oneEmails', oneKeys.unique oneKeys'⟩

end

/-- A text holds the elements of one pair of lists only. -/
theorem HasLists.unique {text : String} {emails keys emails' keys' : List Value} (h : HasLists text emails keys)
    (h' : HasLists text emails' keys') : emails = emails' ∧ keys = keys' := by
  unfold HasLists at h h'
  split at h
  · rename_i blank
    rw [if_pos blank] at h'
    exact ⟨h.1.trans h'.1.symm, h.2.trans h'.2.symm⟩
  · rename_i blank
    rw [if_neg blank] at h'
    obtain ⟨-, -, k, -, root⟩ := h
    obtain ⟨-, -, k', -, root'⟩ := h'
    exact root.unique root'

/-! ## Decoding the lists -/

/-- What is made of an element. -/
def EntryOf {α : Type} (main : String) (make : String → Scope → α) (v : Value) (a : α) : Prop :=
  ∃ text scope, entry? main v = some (text, scope) ∧ a = make text scope

section

open Decode

variable {α : Type} {doc : Document}

theorem gives_entry (main kind : String) (make : String → Scope → α) (depth : Nat) (path : String) (n : Node) :
    Gives doc (entry main kind make depth path n) fun a k =>
      ∃ v, doc.Means depth n v k ∧ EntryOf main make v a := by
  refine (Gives.bind (S := fun v a k => EntryOf main make v a ∧ k = 0) (gives_value depth path n) fun v => ?_).congr
    fun a k => ?_
  · cases taken : entry? main v with
    | none => exact (gives_misfit _).congr fun a k => by simp [EntryOf, taken]
    | some p =>
      obtain ⟨text, scope⟩ := p
      exact (gives_pure _).congr fun a k => by simp [EntryOf, taken]
  · constructor
    · rintro ⟨v, k₁, _, means, ⟨entry, rfl⟩, rfl⟩
      exact ⟨v, means, entry⟩
    · rintro ⟨v, means, entry⟩
      exact ⟨v, k, 0, means, ⟨entry, rfl⟩, rfl⟩

/-- Things that are made of what nodes mean are made item by item. -/
theorem each_made_iff {R : Node → Value → Nat → Prop} {made : Value → α → Prop} {ns : List Node} {as : List α}
    {k : Nat} : Each (fun n a k => ∃ v, R n v k ∧ made v a) ns as k ↔
      ∃ vs, Each R ns vs k ∧ List.Forall₂ made vs as := by
  constructor
  · intro each
    induction each with
    | nil => exact ⟨[], .nil, .nil⟩
    | cons head _ ih =>
      obtain ⟨v, means, first⟩ := head
      obtain ⟨vs, each, others⟩ := ih
      exact ⟨v :: vs, .cons means each, .cons first others⟩
  · rintro ⟨vs, each, all⟩
    induction each generalizing as with
    | nil =>
      cases all
      exact .nil
    | cons means _ ih =>
      obtain _ | ⟨first, others⟩ := all
      exact .cons ⟨_, means, first⟩ (ih others)

/-- What stands where a list is expected is nothing, or it is no list. -/
theorem gives_blank {n : Node} (noList : ∀ mark tag ns, n ≠ .sequence mark tag ns) (mark : Yaml.Mark) (path : String)
    {R : List Value → List α → Prop} (hR : ∀ as, R [] as ↔ as = []) {S : List Node → List Value → Nat → Prop} :
    Gives doc (if isBlankScalar n then pure [] else placed mark path (unexpected n "a sequence") : Decode (List α))
      fun as k => ∃ vs, ((isBlankScalar n = true ∧ vs = [] ∧ k = 0) ∨
        ∃ mark tag ns, n = .sequence mark tag ns ∧ S ns vs k) ∧ R vs as := by
  cases blank : isBlankScalar n with
  | true => exact (gives_pure []).congr fun as k => by simp [noList, hR, and_comm]
  | false => exact ((gives_unexpected n "a sequence").placed mark path).congr fun as k => by simp [noList]

theorem gives_entries (main kind : String) (make : String → Scope → α) (path : String) (n : Node) :
    Gives doc (entries (entry main kind make elementDepth) path n) fun as k =>
      ∃ vs, ListMeans doc n vs k ∧ List.Forall₂ (EntryOf main make) vs as := by
  have none : ∀ as, List.Forall₂ (EntryOf main make) [] as ↔ as = [] := fun _ => List.forall₂_nil_left_iff
  refine (Gives.bind (S := fun n' as k => ∃ vs, ((isBlankScalar n' = true ∧ vs = [] ∧ k = 0) ∨
    ∃ mark tag ns, n' = .sequence mark tag ns ∧ Each (doc.Means elementDepth) ns vs k) ∧
      List.Forall₂ (EntryOf main make) vs as) (gives_follow n) fun n' => ?_).congr fun as k => ?_
  · cases n' with
    | sequence mark tag ns =>
      have noCut : ∀ a k, ¬∃ v, doc.Means elementDepth .cut v k ∧ EntryOf main make v a :=
        fun _ _ ⟨_, means, _⟩ => not_means_cut means
      refine ((gives_items (gives_entry main kind make elementDepth) noCut path 0 ns).placed mark path).congr
        fun as k => ?_
      rw [each_made_iff]
      constructor
      · rintro ⟨vs, each, all⟩
        exact ⟨vs, .inr ⟨mark, tag, ns, rfl, each⟩, all⟩
      · rintro ⟨vs, ⟨blank, -⟩ | ⟨_, _, _, same, each⟩, all⟩
        · cases blank
        · cases same
          exact ⟨vs, each, all⟩
    | scalar mark tag s => exact gives_blank (fun _ _ _ => Node.noConfusion) mark path none
    | mapping mark tag ns => exact gives_blank (fun _ _ _ => Node.noConfusion) mark path none
    | «alias» mark anchor => exact gives_cutOff.congr fun as k => by simp [isBlankScalar]
    | cut => exact gives_cutOff.congr fun as k => by simp [isBlankScalar]
  · constructor
    · rintro ⟨n', k₁, k₂, follows, ⟨vs, list, all⟩, rfl⟩
      exact ⟨vs, ⟨n', k₁, k₂, follows, list, rfl⟩, all⟩
    · rintro ⟨vs, ⟨n', k₁, k₂, follows, list, rfl⟩, all⟩
      exact ⟨n', k₁, k₂, follows, ⟨vs, list, all⟩, rfl⟩

theorem gives_fieldName (key : Node) : Gives doc (fieldName key) (KeyMeans doc key) := by
  refine (Gives.bind (S := fun n' name k => (∃ mark tag s, n' = .scalar mark tag s ∧ name = String.ofList s.text) ∧
    k = 0) (gives_follow key) fun n' => ?_).congr fun name k => ?_
  · cases n' with
    | scalar mark tag s => exact (gives_pure _).congr fun name k => by simp
    | sequence mark tag ns | mapping mark tag ns =>
      exact ((gives_unexpected _ "field identifier").placed mark ".").congr fun name k => by simp
    | «alias» mark anchor => exact gives_cutOff.congr fun name k => by simp
    | cut => exact gives_cutOff.congr fun name k => by simp
  · constructor
    · rintro ⟨_, k₁, _, follows, ⟨⟨mark, tag, s, rfl, rfl⟩, rfl⟩, rfl⟩
      exact ⟨mark, tag, s, follows, rfl⟩
    · rintro ⟨mark, tag, s, follows, rfl⟩
      exact ⟨_, k, 0, follows, ⟨⟨mark, tag, s, rfl, rfl⟩, rfl⟩, rfl⟩

theorem gives_ignore (n : Node) : Gives doc (ignore n) fun _ k => isWhole n = true ∧ k = 0 := by
  unfold ignore
  cases isWhole n with
  | true => exact (gives_pure ()).congr fun u k => by simp
  | false => exact gives_cutOff.congr fun u k => by simp

/-! ## Decoding the document -/

/-- What a member of the document does to the lists so far: a list is stored where none has been, and any other member
does nothing. -/
def Keeps (c : String × List Value) (before after : Lists) : Prop :=
  if c.1 = "email_addresses" then before.emails = none ∧
    ∃ es, List.Forall₂ (EntryOf "email_address" EmailEntry.mk) c.2 es ∧ after = { before with emails := some es }
  else if c.1 = "third_party_keys" then before.keys = none ∧
    ∃ ks, List.Forall₂ (EntryOf "key" KeyEntry.mk) c.2 ks ∧ after = { before with keys := some ks }
  else after = before

/-- A member is read and kept. -/
def Acts (doc : Document) (before : Lists) (p : Node × Node) (after : Lists) (k : Nat) : Prop :=
  ∃ c, MemberMeans doc p c k ∧ Keeps c before after

/-- A list is read and stored, unless it has been before. -/
theorem gives_list {β : Type} (stored : Bool) (problem main kind : String) (make : String → Scope → α) (path : String)
    (value : Node) (store : List α → β) :
    Gives doc (if stored then (misfit problem : Decode Unit) >>= fun _ => store <$> entries (entry main kind make elementDepth) path value
        else store <$> entries (entry main kind make elementDepth) path value) fun after k =>
      ∃ vs, ListMeans doc value vs k ∧ stored = false ∧ ∃ as, List.Forall₂ (EntryOf main make) vs as ∧
        after = store as := by
  refine (((gives_entries main kind make path value).map store).unless stored problem).congr fun after k => ?_
  constructor
  · rintro ⟨first, as, ⟨vs, list, all⟩, rfl⟩
    exact ⟨vs, list, first, as, all, rfl⟩
  · rintro ⟨vs, list, first, as, all, rfl⟩
    exact ⟨first, as, ⟨vs, list, all⟩, rfl⟩

theorem gives_member (lists : Lists) (key value : Node) :
    Gives doc (member lists key value) (Acts doc lists (key, value)) := by
  have named : ∀ name, Gives doc (do
      let depth := maxDepth - 2
      let path := memberPath "." key
      if name = "email_addresses" then
        if lists.emails.isSome then misfit ("duplicate field \x60" ++ name ++ "\x60")
        let es ← entries (entry "email_address" "EmailEntryRepr" EmailEntry.mk depth) path value
        pure { lists with emails := some es }
      else if name = "third_party_keys" then
        if lists.keys.isSome then misfit ("duplicate field \x60" ++ name ++ "\x60")
        let ks ← entries (entry "key" "ThirdPartyKeyRepr" KeyEntry.mk depth) path value
        pure { lists with keys := some ks }
      else
        ignore value
        pure lists) fun after k => ∃ vs, (if name = "email_addresses" ∨ name = "third_party_keys" then
          ListMeans doc value vs k else isWhole value = true ∧ vs = [] ∧ k = 0) ∧ Keeps (name, vs) lists after := by
    intro name
    dsimp only
    split
    · rename_i isEmails
      refine (gives_list lists.emails.isSome _ "email_address" "EmailEntryRepr" EmailEntry.mk (memberPath "." key) value
        fun es => { lists with emails := some es }).congr fun after k => ?_
      simp [Keeps, isEmails]
    · rename_i noEmails
      split
      · rename_i isKeys
        refine (gives_list lists.keys.isSome _ "key" "ThirdPartyKeyRepr" KeyEntry.mk (memberPath "." key) value
          fun ks => { lists with keys := some ks }).congr fun after k => ?_
        simp [Keeps, isKeys]
      · rename_i noKeys
        refine ((gives_ignore value).bind fun _ => gives_pure lists).congr fun after k => ?_
        simp [Keeps, noEmails, noKeys, and_assoc, and_comm]
  refine ((gives_fieldName key).bind named).congr fun after k => ?_
  constructor
  · rintro ⟨name, k₁, k₂, keyMeans, ⟨vs, valueMeans, keeps⟩, rfl⟩
    exact ⟨(name, vs), ⟨k₁, k₂, keyMeans, valueMeans, rfl⟩, keeps⟩
  · rintro ⟨⟨name, vs⟩, ⟨k₁, k₂, keyMeans, valueMeans, rfl⟩, keeps⟩
    exact ⟨name, k₁, k₂, keyMeans, ⟨vs, valueMeans, keeps⟩, rfl⟩

/-- What all members do to the lists, one after the other. -/
inductive KeepsAll : List (String × List Value) → Lists → Lists → Prop
  | nil {s} : KeepsAll [] s s
  | cons {c cs s s' s''} (head : Keeps c s s') (tail : KeepsAll cs s' s'') : KeepsAll (c :: cs) s s''

theorem chain_keeps_iff {ps : List (Node × Node)} {before after : Lists} {k : Nat} :
    Chain (Acts doc) before ps after k ↔
      ∃ cs, Each (MemberMeans doc) ps cs k ∧ KeepsAll cs before after := by
  constructor
  · intro chain
    induction chain with
    | nil => exact ⟨[], .nil, .nil⟩
    | cons head _ ih =>
      obtain ⟨c, means, keeps⟩ := head
      obtain ⟨cs, each, all⟩ := ih
      exact ⟨c :: cs, .cons means each, .cons keeps all⟩
  · rintro ⟨cs, each, all⟩
    induction each generalizing before with
    | nil =>
      cases all
      exact .nil
    | cons means _ ih =>
      obtain _ | ⟨keeps, others⟩ := all
      exact .cons ⟨_, means, keeps⟩ (ih others)

theorem listsOf_cons (name : String) (c : String × List Value) (cs : List (String × List Value)) :
    listsOf name (c :: cs) = if c.1 = name then c.2 :: listsOf name cs else listsOf name cs := by
  unfold listsOf
  by_cases same : c.1 = name <;> simp [same]

/-- Each list is stored at most once. -/
theorem keepsAll_iff {cs : List (String × List Value)} {before after : Lists} : KeepsAll cs before after ↔
    Stores (List.Forall₂ (EntryOf "email_address" EmailEntry.mk)) (listsOf "email_addresses" cs) before.emails
      after.emails ∧
    Stores (List.Forall₂ (EntryOf "key" KeyEntry.mk)) (listsOf "third_party_keys" cs) before.keys after.keys := by
  -- on the members; each is one of the two lists or of no meaning
  induction cs generalizing before with
  | nil =>
    obtain ⟨_, _⟩ := before
    obtain ⟨_, _⟩ := after
    simp only [listsOf, List.filter_nil, List.map_nil, stores_nil_iff]
    constructor
    · intro all
      cases all
      exact ⟨rfl, rfl⟩
    · rintro ⟨rfl, rfl⟩
      exact .nil
  | cons c cs ih =>
    have step : KeepsAll (c :: cs) before after ↔ ∃ middle, Keeps c before middle ∧ KeepsAll cs middle after := by
      constructor
      · intro all
        obtain _ | ⟨keeps, others⟩ := all
        exact ⟨_, keeps, others⟩
      · rintro ⟨_, keeps, others⟩
        exact .cons keeps others
    simp only [step, ih, listsOf_cons, Keeps]
    by_cases isEmails : c.1 = "email_addresses"
    · have noKeys : c.1 ≠ "third_party_keys" := by simp [isEmails]
      simp only [if_pos isEmails, if_neg noKeys, stores_cons_iff]
      constructor
      · rintro ⟨_, ⟨first, es, all, rfl⟩, emails, keys⟩
        exact ⟨⟨first, es, all, emails⟩, keys⟩
      · rintro ⟨⟨first, es, all, emails⟩, keys⟩
        exact ⟨_, ⟨first, es, all, rfl⟩, emails, keys⟩
    · simp only [if_neg isEmails]
      by_cases isKeys : c.1 = "third_party_keys"
      · simp only [if_pos isKeys, stores_cons_iff]
        constructor
        · rintro ⟨_, ⟨first, ks, all, rfl⟩, emails, keys⟩
          exact ⟨emails, first, ks, all, keys⟩
        · rintro ⟨emails, first, ks, all, keys⟩
          exact ⟨_, ⟨first, ks, all, rfl⟩, emails, keys⟩
      · simp only [if_neg isKeys]
        constructor
        · rintro ⟨_, rfl, lists⟩
          exact lists
        · exact fun lists => ⟨before, rfl, lists⟩

/-- The list that is stored at last has an entry for each element. -/
theorem stores_getD_iff {made : Value → α → Prop} {lists : List (List Value)} {as : List α} :
    (∃ stored, Stores (List.Forall₂ made) lists none stored ∧ as = stored.getD []) ↔
      ∃ vs, AtMostOne lists vs ∧ List.Forall₂ made vs as := by
  constructor
  · rintro ⟨stored, ⟨none, rfl⟩ | ⟨-, vs, as, one, all, rfl⟩, rfl⟩
    · exact ⟨[], .inl ⟨none, rfl⟩, .nil⟩
    · exact ⟨vs, .inr one, all⟩
  · rintro ⟨vs, ⟨none, rfl⟩ | one, all⟩
    · cases all
      exact ⟨.none, .inl ⟨none, rfl⟩, rfl⟩
    · exact ⟨some as, .inr ⟨rfl, vs, as, one, all, rfl⟩, rfl⟩

/-- An allowlist has an entry for each element. -/
def HasEntries (a : Allowlist) (emails keys : List Value) : Prop :=
  List.Forall₂ (EntryOf "email_address" EmailEntry.mk) emails a.emails ∧
    List.Forall₂ (EntryOf "key" KeyEntry.mk) keys a.keys

theorem hasEntries_nil {a : Allowlist} : HasEntries a [] [] ↔ a = empty := by
  obtain ⟨emails, keys⟩ := a
  simp [HasEntries, empty]

/-- The members of a document make an allowlist of the elements of its lists. -/
theorem gives_lists (ns : List Node) : Gives doc (do
      let lists ← members member ⟨none, none⟩ ns
      pure ⟨lists.emails.getD [], lists.keys.getD []⟩ : Decode Allowlist) fun a k => ∃ ps cs emails keys,
    pairs? ns = some ps ∧ Each (MemberMeans doc) ps cs k ∧ AtMostOne (listsOf "email_addresses" cs) emails ∧
      AtMostOne (listsOf "third_party_keys" cs) keys ∧ HasEntries a emails keys := by
  have noCut : ∀ before value after k, ¬Acts doc before (.cut, value) after k := by
    rintro _ _ _ _ ⟨_, ⟨_, _, ⟨_, _, _, ⟨same, -⟩, -⟩, -⟩, -⟩
    cases same
  refine ((gives_members gives_member noCut ⟨none, none⟩ ns).bind fun lists =>
    gives_pure (⟨lists.emails.getD [], lists.keys.getD []⟩ : Allowlist)).congr fun a k => ?_
  constructor
  · rintro ⟨lists, k, _, ⟨ps, paired, chain⟩, ⟨rfl, rfl⟩, rfl⟩
    obtain ⟨cs, each, all⟩ := chain_keeps_iff.1 chain
    obtain ⟨emails, keys⟩ := keepsAll_iff.1 all
    obtain ⟨es, oneEmails, made⟩ := stores_getD_iff.1 ⟨_, emails, rfl⟩
    obtain ⟨ks, oneKeys, made'⟩ := stores_getD_iff.1 ⟨_, keys, rfl⟩
    exact ⟨ps, cs, es, ks, paired, each, oneEmails, oneKeys, made, made'⟩
  · rintro ⟨ps, cs, es, ks, paired, each, oneEmails, oneKeys, made, made'⟩
    obtain ⟨emails, hemails, sameEmails⟩ := stores_getD_iff.2 ⟨es, oneEmails, made⟩
    obtain ⟨keys, hkeys, sameKeys⟩ := stores_getD_iff.2 ⟨ks, oneKeys, made'⟩
    refine ⟨⟨emails, keys⟩, k, 0, ⟨ps, paired, chain_keeps_iff.2 ⟨cs, each, keepsAll_iff.2 ⟨hemails, hkeys⟩⟩⟩, ?_, rfl⟩
    obtain ⟨_, _⟩ := a
    exact ⟨by rw [← sameEmails, ← sameKeys], rfl⟩

theorem gives_blankRoot {n : Node} (noMapping : ∀ mark tag ns, n ≠ .mapping mark tag ns) (mark : Yaml.Mark)
    {S : List Node → List Value → List Value → Nat → Prop} :
    Gives doc (if isBlankScalar n then pure empty else placed mark "." (unexpected n "struct Allowlist") :
      Decode Allowlist) fun a k => ∃ emails keys, ((isBlankScalar n = true ∧ emails = [] ∧ keys = [] ∧ k = 0) ∨
        ∃ mark tag ns, n = .mapping mark tag ns ∧ S ns emails keys k) ∧ HasEntries a emails keys := by
  cases blank : isBlankScalar n with
  | true => exact (gives_pure empty).congr fun a k => by simp [noMapping, hasEntries_nil, and_comm, and_assoc]
  | false => exact ((gives_unexpected n "struct Allowlist").placed mark ".").congr fun a k => by simp [noMapping]

theorem gives_root (n : Option Node) : Gives doc (root n) fun a k =>
    ∃ emails keys, RootMeans doc emails keys n k ∧ HasEntries a emails keys := by
  cases n with
  | none =>
    refine (gives_pure empty).congr fun a k => ?_
    constructor
    · rintro ⟨rfl, rfl⟩
      exact ⟨[], [], ⟨rfl, rfl, rfl⟩, hasEntries_nil.2 rfl⟩
    · rintro ⟨_, _, ⟨rfl, rfl, rfl⟩, made⟩
      exact ⟨hasEntries_nil.1 made, rfl⟩
  | some n =>
    refine (Gives.bind (S := fun n' a k => ∃ emails keys, ((isBlankScalar n' = true ∧ emails = [] ∧ keys = [] ∧ k = 0) ∨
      ∃ mark tag ns, n' = .mapping mark tag ns ∧ ∃ ps cs, pairs? ns = some ps ∧ Each (MemberMeans doc) ps cs k ∧
        AtMostOne (listsOf "email_addresses" cs) emails ∧ AtMostOne (listsOf "third_party_keys" cs) keys) ∧
      HasEntries a emails keys) (gives_follow n) fun n' => ?_).congr fun a k => ?_
    · cases n' with
      | mapping mark tag ns =>
        refine ((gives_lists ns).placed mark ".").congr fun a k => ?_
        constructor
        · rintro ⟨ps, cs, emails, keys, paired, each, oneEmails, oneKeys, made⟩
          exact ⟨emails, keys, .inr ⟨mark, tag, ns, rfl, ps, cs, paired, each, oneEmails, oneKeys⟩, made⟩
        · rintro ⟨emails, keys, ⟨blank, -⟩ | ⟨_, _, _, same, ps, cs, paired, each, oneEmails, oneKeys⟩, made⟩
          · cases blank
          · cases same
            exact ⟨ps, cs, emails, keys, paired, each, oneEmails, oneKeys, made⟩
      | scalar mark tag s => exact gives_blankRoot (fun _ _ _ => Node.noConfusion) mark
      | sequence mark tag ns => exact gives_blankRoot (fun _ _ _ => Node.noConfusion) mark
      | «alias» mark anchor => exact gives_cutOff.congr fun a k => by simp [isBlankScalar]
      | cut => exact gives_cutOff.congr fun a k => by simp [isBlankScalar]
    · constructor
      · rintro ⟨n', k₁, k₂, follows, ⟨emails, keys, means, made⟩, rfl⟩
        refine ⟨emails, keys, ⟨n', k₁, k₂, follows, means.imp_right ?_, rfl⟩, made⟩
        rintro ⟨mark, tag, ns, same, ps, cs, lists⟩
        exact ⟨mark, tag, ns, ps, cs, same, lists⟩
      · rintro ⟨emails, keys, ⟨n', k₁, k₂, follows, means, rfl⟩, made⟩
        refine ⟨n', k₁, k₂, follows, ⟨emails, keys, means.imp_right ?_, made⟩, rfl⟩
        rintro ⟨mark, tag, ns, ps, cs, same, lists⟩
        exact ⟨mark, tag, ns, same, ps, cs, lists⟩

/-- A document is decoded if it is whole and the only one, and aliases are not followed too often. -/
theorem run_eq_ok_iff {d : Option Node → Decode α} {R : α → Nat → Prop} (h : Gives doc (d doc.root) R) {a : α} :
    run doc d = .ok a ↔ doc.fault = none ∧ doc.isOnly = true ∧ ∃ k ≤ doc.size * aliasesPerEvent, R a k := by
  have first : (∃ count, d doc.root doc 0 = .ok (a, count)) ↔ ∃ k ≤ doc.size * aliasesPerEvent, R a k := by
    constructor
    · rintro ⟨count, ok⟩
      obtain ⟨k, hR, rfl, few⟩ := (h _ _ _).1 ok
      exact ⟨k, by omega, hR⟩
    · rintro ⟨k, few, hR⟩
      exact ⟨0 + k, (h _ _ _).2 ⟨k, hR, rfl, .inr (by omega)⟩⟩
  rw [← first]
  unfold run
  -- whatever has been decoded, a fault of the text and a second document each refuse it
  cases d doc.root doc 0 with
  | error m =>
    constructor
    · intro ok
      cases ok
    · rintro ⟨-, -, _, ok⟩
      cases ok
  | ok p =>
    obtain ⟨a', count⟩ := p
    cases doc.fault with
    | some fault =>
      constructor
      · intro ok
        cases ok
      · rintro ⟨no, -⟩
        cases no
    | none =>
      cases doc.isOnly with
      | false =>
        constructor
        · intro ok
          cases ok
        · rintro ⟨-, no, -⟩
          cases no
      | true =>
        constructor
        · intro ok
          obtain rfl := Except.ok.inj ok
          exact ⟨rfl, rfl, count, rfl⟩
        · rintro ⟨-, -, _, ok⟩
          obtain ⟨rfl, -⟩ := Prod.mk.inj (Except.ok.inj ok)
          rfl

/-- The allowlist in a text is made of the elements that the text holds. -/
theorem ofText_eq_ok_iff {text : String} {a : Allowlist} :
    ofText text = .ok a ↔ ∃ emails keys, HasLists text emails keys ∧ HasEntries a emails keys := by
  unfold ofText HasLists
  split
  · constructor
    · intro ok
      obtain rfl := Except.ok.inj ok
      exact ⟨[], [], ⟨rfl, rfl⟩, hasEntries_nil.2 rfl⟩
    · rintro ⟨_, _, ⟨rfl, rfl⟩, made⟩
      rw [hasEntries_nil.1 made]
  · have read : run (Document.ofText text) root = .ok a ↔ _ := run_eq_ok_iff (gives_root _)
    have kept : ((run (Document.ofText text) root).mapError fun m => Fault.allowlist
        ("failed to parse allowlist configuration: " ++ m.message)) = .ok a ↔ run (Document.ofText text) root = .ok a := by
      cases run (Document.ofText text) root with
      | ok b => exact Iff.of_eq (by simp [Except.mapError])
      | error m => exact Iff.of_eq (by simp [Except.mapError])
    rw [kept, read]
    constructor
    · rintro ⟨whole, only, k, few, emails, keys, means, made⟩
      exact ⟨emails, keys, ⟨whole, only, k, few, means⟩, made⟩
    · rintro ⟨emails, keys, ⟨whole, only, k, few, means⟩, made⟩
      exact ⟨whole, only, k, few, emails, keys, means, made⟩

theorem ofText_eq_error {text : String} (h : ∀ a, ofText text ≠ .ok a) :
    ∃ detail, ofText text = .error (.allowlist ("failed to parse allowlist configuration: " ++ detail)) := by
  unfold ofText at h ⊢
  split at h
  · exact (h empty rfl).elim
  · rename_i blank
    rw [if_neg blank]
    cases read : run (Document.ofText text) root with
    | ok a => exact (h a (by rw [read]; rfl)).elim
    | error m => exact ⟨m.message, rfl⟩

end

/-! ## All or nothing -/

section

variable {α : Type} {main : String}

/-- What is made of an element has the text that the element gives, and the set of its repositories. -/
theorem entryOf_iff {make : String → Scope → α} (ownText : α → String) (ownScope : α → Scope)
    (h : ∀ t s a, a = make t s ↔ ownText a = t ∧ ownScope a = s) {v : Value} {a : α} : EntryOf main make v a ↔
      ∃ names, IsEntry main v (ownText a) names ∧ (ownScope a).IsSetOf names := by
  rw [← entry?_eq_some_iff]
  constructor
  · rintro ⟨t, s, taken, made⟩
    obtain ⟨rfl, rfl⟩ := (h t s a).1 made
    exact taken
  · exact fun taken => ⟨_, _, taken, (h _ _ a).2 ⟨rfl, rfl⟩⟩

theorem entryOf_email_iff {v : Value} {e : EmailEntry} : EntryOf main EmailEntry.mk v e ↔
    ∃ names, IsEntry main v e.address names ∧ e.scope.IsSetOf names :=
  entryOf_iff EmailEntry.address EmailEntry.scope fun t s a => by cases a; simp

theorem entryOf_key_iff {v : Value} {e : KeyEntry} : EntryOf main KeyEntry.mk v e ↔
    ∃ names, IsEntry main v e.key names ∧ e.scope.IsSetOf names :=
  entryOf_iff KeyEntry.key KeyEntry.scope fun t s a => by cases a; simp

/-- Elements that are written in other ways are made into the same. -/
theorem forall₂_entryOf_congr {make : String → Scope → α} {vs vs' : List Value} {as : List α}
    (other : main ≠ "repositories") (rewritten : List.Forall₂ (Relation.EqvGen (Rewrites main)) vs vs') :
    List.Forall₂ (EntryOf main make) vs as ↔ List.Forall₂ (EntryOf main make) vs' as := by
  induction rewritten generalizing as with
  | nil => exact Iff.rfl
  | cons head _ ih =>
    cases as with
    | nil => simp
    | cons a as => rw [List.forall₂_cons, List.forall₂_cons, ih, EntryOf, EntryOf, entry?_of_eqvGen other head]

theorem exists_isEntry_of_mem {make : String → Scope → α} {vs : List Value} {as : List α} {v : Value}
    (made : List.Forall₂ (EntryOf main make) vs as) (hv : v ∈ vs) : ∃ text names, IsEntry main v text names := by
  induction made with
  | nil => exact absurd hv List.not_mem_nil
  | cons head _ ih =>
    rcases List.mem_cons.1 hv with rfl | hv
    · obtain ⟨text, scope, taken, -⟩ := head
      obtain ⟨names, entry, -⟩ := entry?_eq_some_iff.1 taken
      exact ⟨text, names, entry⟩
    · exact ih hv

/-- A node of a list that is there means one of the elements that the text holds. -/
theorem IsListed.exists_mem {text name : String} {n : Node} (h : IsListed text name n)
    (known : name = "email_addresses" ∨ name = "third_party_keys") {emails keys : List Value}
    (lists : HasLists text emails keys) : ∃ v k, (Document.ofText text).Means elementDepth n v k ∧
      v ∈ if name = "email_addresses" then emails else keys := by
  obtain ⟨blank, r, k₁, mark, tag, ns, ps, key, value, k₂, k₃, mark', tag', items, hasRoot, follows, paired, member,
    keyMeans, valueFollows, item⟩ := h
  unfold HasLists at lists
  rw [if_neg (by simp [blank])] at lists
  obtain ⟨-, -, k, -, rootMeans⟩ := lists
  rw [hasRoot] at rootMeans
  obtain ⟨n', l₁, l₂, follows', means, -⟩ := rootMeans
  obtain ⟨rfl, -⟩ := follows.unique follows'
  rcases means with ⟨noMapping, -⟩ | ⟨_, _, _, ps', cs, same, paired', each, oneEmails, oneKeys⟩
  · cases noMapping
  cases same
  obtain rfl := Option.some.inj (paired.symm.trans paired')
  -- the member in which the node stands is one of those that have been read
  obtain ⟨⟨name', vs⟩, hc, _, m₁, m₂, keyMeans', valueMeans, -⟩ := each.of_mem member
  obtain ⟨rfl, -⟩ := keyMeans.unique keyMeans'
  rw [if_pos known] at valueMeans
  obtain ⟨n'', j₁, j₂, valueFollows', list, -⟩ := valueMeans
  obtain ⟨rfl, -⟩ := valueFollows.unique valueFollows'
  rcases list with ⟨noList, -⟩ | ⟨_, _, _, same, elements⟩
  · cases noList
  cases same
  obtain ⟨v, hv, j, means⟩ := elements.of_mem item
  refine ⟨v, j, means, ?_⟩
  -- the list with the node is the only one of its name
  have found : vs ∈ listsOf name cs := List.mem_map.2 ⟨(name, vs), by simp [hc], rfl⟩
  have only : ∀ {all : List Value}, AtMostOne (listsOf name cs) all → v ∈ all := by
    rintro all (⟨none, -⟩ | one)
    · rw [none] at found
      exact absurd found List.not_mem_nil
    · rw [one] at found
      obtain rfl := List.mem_singleton.1 found
      exact hv
  rcases known with rfl | rfl
  · exact only oneEmails
  · exact only oneKeys

end

/-- A text is an allowlist if it holds elements that are entries, and then it has one entry for each of them, in order
and with repetitions: the text that the element gives, and the set of its repositories. However the elements are
written, the allowlist is the same, and a single one that is no entry leaves none at all. -/
theorem ofText_exact (text : String) :
    (∀ a, ofText text = .ok a → ∃ emails keys, HasLists text emails keys) ∧
    (∀ emails keys, HasLists text emails keys → ∀ a, ofText text = .ok a ↔
      List.Forall₂ (fun v (e : EmailEntry) => ∃ names, IsEntry "email_address" v e.address names ∧
        e.scope.IsSetOf names) emails a.emails ∧
      List.Forall₂ (fun v (e : KeyEntry) => ∃ names, IsEntry "key" v e.key names ∧ e.scope.IsSetOf names) keys
        a.keys) ∧
    (∀ text' emails keys emails' keys', HasLists text emails keys → HasLists text' emails' keys' →
      List.Forall₂ (Relation.EqvGen (Rewrites "email_address")) emails emails' →
      List.Forall₂ (Relation.EqvGen (Rewrites "key")) keys keys' → ∀ a, ofText text = .ok a ↔ ofText text' = .ok a) ∧
    (∀ name main, (name, main) ∈ [("email_addresses", "email_address"), ("third_party_keys", "key")] →
      ∀ n, IsListed text name n → (∀ v k own names, (Document.ofText text).Means elementDepth n v k →
        ¬IsEntry main v own names) →
      ∃ detail, ofText text = .error (.allowlist ("failed to parse allowlist configuration: " ++ detail))) := by
  have exact : ∀ {text emails keys}, HasLists text emails keys → ∀ a, ofText text = .ok a ↔ HasEntries a emails keys := by
    intro text emails keys lists a
    rw [ofText_eq_ok_iff]
    constructor
    · rintro ⟨emails', keys', lists', made⟩
      obtain ⟨rfl, rfl⟩ := lists.unique lists'
      exact made
    · exact fun made => ⟨emails, keys, lists, made⟩
  -- one entry for each element, however it is written, and nothing if one element is no entry
  refine ⟨fun a ok => ?_, fun emails keys lists a => ?_,
    fun text' emails keys emails' keys' lists lists' sameEmails sameKeys a => ?_,
    fun name main known n listed noEntry => ofText_eq_error fun a ok => ?_⟩
  · obtain ⟨emails, keys, lists, -⟩ := ofText_eq_ok_iff.1 ok
    exact ⟨emails, keys, lists⟩
  · rw [exact lists, HasEntries]
    simp only [← entryOf_email_iff, ← entryOf_key_iff]
  · rw [exact lists, exact lists', HasEntries, HasEntries, forall₂_entryOf_congr (by decide) sameEmails,
      forall₂_entryOf_congr (by decide) sameKeys]
  · obtain ⟨emails, keys, lists, emailsMade, keysMade⟩ := ofText_eq_ok_iff.1 ok
    simp only [List.mem_cons, Prod.mk.injEq, List.not_mem_nil, or_false] at known
    rcases known with ⟨rfl, rfl⟩ | ⟨rfl, rfl⟩
    · obtain ⟨v, k, means, hv⟩ := listed.exists_mem (.inl rfl) lists
      obtain ⟨own, names, entry⟩ := exists_isEntry_of_mem emailsMade hv
      exact noEntry v k own names means entry
    · obtain ⟨v, k, means, hv⟩ := listed.exists_mem (.inr rfl) lists
      obtain ⟨own, names, entry⟩ := exists_isEntry_of_mem keysMade hv
      exact noEntry v k own names means entry

/-- A member is not passed over if its value has a tag of one's own, or if its key is a number that counts a known
member. -/
theorem ofText_unusual :
    ofText "email_addresses:\n- email_address: a@b.co\n" = .ok ⟨[⟨"a@b.co", .all⟩], []⟩ ∧
    (∃ detail, ofText "email_addresses:\n- email_address: a@b.co\n  note: !x y\n" = .error (.allowlist detail)) ∧
    ofText "email_addresses:\n- email_address: a@b.co\n  1: [web]\n" = .ok ⟨[⟨"a@b.co", ⟨["web"]⟩⟩], []⟩ := by
  refine ⟨toOption_eq_some_iff.1 (by decide +kernel), ?_, toOption_eq_some_iff.1 (by decide +kernel)⟩
  have refused : (ofText "email_addresses:\n- email_address: a@b.co\n  note: !x y\n").toOption = none := by
    decide +kernel
  obtain ⟨detail, fault⟩ := ofText_eq_error fun a ok => by
    rw [ok] at refused
    cases refused
  exact ⟨_, fault⟩

end CommitGate.Allowlist
