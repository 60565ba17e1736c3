import CommitGate.Proofs.Json.Records

/-! # Members of records

What a record is read as depends on the values that it has for each member, and on nothing else.

* `Doc.part` are the values of a member, by its name in an object or by its place in an array;
* `Slot.Views` holds of a slot that keeps its value in a part of the record of its own;
* `Slot.Views.storeMembers` and `Slot.exists_storeMembers`: what stands there behind the members of an object.
-/

namespace CommitGate.Json

namespace Doc

/-- The values that a record has under a name, or at a place. -/
def part (name : String) (index : Nat) : Doc → List Doc
  | .object members => valuesOf name members
  | .array items => items[index]?.toList
  | _ => []

/-- Every name of an object stands for a text. -/
def HasNames (members : List (List Piece × Doc)) : Prop := ∀ m ∈ members, (Piece.text? m.1).isSome = true

instance (members : List (List Piece × Doc)) : Decidable (HasNames members) :=
  List.decidableBAll (fun m : List Piece × Doc => (Piece.text? m.1).isSome = true) members

/-- An object of which the names can be read, or an array that is not longer than `size`. -/
def isRecord (size : Nat) : Doc → Bool
  | .object members => decide (HasNames members)
  | .array items => decide (items.length ≤ size)
  | _ => false

/-- What one value is read as; without one something else. -/
def once? {β : Type} (read : Doc → Option β) (absent : β) : List Doc → Option β
  | [] => some absent
  | [d] => read d
  | _ => none

theorem of_once? {β : Type} {read : Doc → Option β} {absent b : β} {values : List Doc}
    (h : once? read absent values = some b) : values.length ≤ 1 ∧ ∀ d ∈ values, (read d).isSome = true := by
  match values, h with
  | [], _ => exact ⟨Nat.zero_le _, fun _ hd => absurd hd List.not_mem_nil⟩
  | [d], h =>
    refine ⟨Nat.le_refl _, fun d' hd => ?_⟩
    obtain rfl := List.mem_singleton.1 hd
    exact Option.isSome_of_eq_some h
  | _ :: _ :: _, h => cases h

/-- Two values, or one that is not read. -/
def Unfit {β : Type} (read : Doc → Option β) (values : List Doc) : Prop :=
  2 ≤ values.length ∨ ∃ d ∈ values, read d = none

theorem once?_eq_none_iff {β : Type} {read : Doc → Option β} {absent : β} {values : List Doc} :
    once? read absent values = none ↔ Unfit read values := by
  match values with
  | [] => simp [once?, Unfit]
  | [d] => simp [once?, Unfit]
  | _ :: _ :: _ => simp [once?, Unfit]

section

variable {name : String} {ps : List Piece} {s : List Char}

theorem valuesOf_cons_of_eq (d : Doc) (members : List (List Piece × Doc)) (text : Piece.text? ps = some s)
    (same : name = String.ofList s) : valuesOf name ((ps, d) :: members) = d :: valuesOf name members := by
  simp [valuesOf, text, same]

theorem valuesOf_cons_of_ne (d : Doc) (members : List (List Piece × Doc)) (text : Piece.text? ps = some s)
    (other : name ≠ String.ofList s) : valuesOf name ((ps, d) :: members) = valuesOf name members := by
  have differ : s ≠ name.toList := fun same => other (by rw [same, String.ofList_toList])
  simp [valuesOf, text, differ]

end

end Doc

namespace Decode

namespace Slot

open Doc (valuesOf once? HasNames valuesOf_cons_of_eq valuesOf_cons_of_ne)

variable {α β : Type} {slots : List (Slot α)}

/-- A member that is read and then set. -/
def optional (name : String) (read : Doc → Option β) (set : α → β → α) : Slot α :=
  ⟨name, fun a d => (read d).map (set a)⟩

theorem optional_describes {decode : Decoder β} {read : Doc → Option β} {level : Nat} (h : Reads decode level read)
    (name : String) (set : α → β → α) : (optional name read set).Describes level (.optional name decode set) :=
  ⟨rfl, rfl, fun a => h.map (set a)⟩

theorem store_optional {name : String} {read : Doc → Option β} {set : α → β → α} {get : α → β}
    (h : ∀ a b, get (set a b) = b) (a : α) (d : Doc) : ((optional name read set).store a d).map get = read d := by
  rw [optional, Option.map_map, show get ∘ set a = id from funext (h a), Option.map_id, id]

theorem kept_optional {γ : Type} {name : String} {read : Doc → Option β} {set : α → β → α} {get : α → γ}
    (h : ∀ a b, get (set a b) = get a) (a : α) (d : Doc) (a' : α)
    (stored : (optional name read set).store a d = some a') : get a' = get a := by
  obtain ⟨b, -, rfl⟩ := Option.map_eq_some_iff.1 stored
  exact h a b

/-- A slot keeps its value in a part of the record that no other slot changes. -/
structure Views (slots : List (Slot α)) (slot : Slot α) (read : Doc → Option β) (get : α → β) : Prop where
  find : slots.find? (fun s => s.name == slot.name) = some slot
  store : ∀ a d, (slot.store a d).map get = read d
  others : ∀ s ∈ slots, s.name ≠ slot.name → ∀ a d a', s.store a d = some a' → get a' = get a

theorem name_of_find {name : String} {slot : Slot α} (h : slots.find? (fun s => s.name == name) = some slot) :
    slot.name = name := by
  have here := List.find?_some h
  exact eq_of_beq here

theorem Views.isSome_store {slot : Slot α} {read : Doc → Option β} {get : α → β} (h : Views slots slot read get) (a : α)
    (d : Doc) : (slot.store a d).isSome = (read d).isSome := by
  rw [← h.store a d, Option.isSome_map]

/-- Where one value is read, or none, the slot stores it. -/
theorem Views.fits {slot : Slot α} {read : Doc → Option β} {get : α → β} (h : Views slots slot read get)
    {values : List Doc} {absent b : β} (read : once? read absent values = some b) :
    if slot.name ∈ [] then values = []
    else values.length ≤ 1 ∧ ∀ d ∈ values, ∀ a, (slot.store a d).isSome = true := by
  obtain ⟨one, some⟩ := Doc.of_once? read
  rw [if_neg List.not_mem_nil]
  exact ⟨one, fun d hd a => (h.isSome_store a d).trans (some d hd)⟩

/-- What stands in the record is what the one value is read as, or what stood there before. -/
theorem Views.storeMembers {slot : Slot α} {read : Doc → Option β} {get : α → β} (h : Views slots slot read get)
    {members : List (List Piece × Doc)} {seen : List String} {a a' : α}
    (stored : storeMembers slots seen members a = some a') :
    if slot.name ∈ seen then valuesOf slot.name members = [] ∧ get a' = get a
    else once? read (get a) (valuesOf slot.name members) = some (get a') := by
  -- on the members: a name that has been seen may not come again, so the part is set once at most
  induction members generalizing seen a with
  | nil =>
    obtain rfl : a = a' := Option.some.inj stored
    split
    · exact ⟨rfl, rfl⟩
    · rfl
  | cons member members ih =>
    obtain ⟨ps, d⟩ := member
    rw [Slot.storeMembers] at stored
    obtain ⟨s, text, stored⟩ := Option.bind_eq_some_iff.1 stored
    -- a member of another name changes neither the values nor the part
    have pass : ∀ {a₁ : α}, slot.name ≠ String.ofList s → get a₁ = get a →
        Slot.storeMembers slots (String.ofList s :: seen) members a₁ = some a' →
        if slot.name ∈ seen then valuesOf slot.name ((ps, d) :: members) = [] ∧ get a' = get a
        else once? read (get a) (valuesOf slot.name ((ps, d) :: members)) = some (get a') := by
      intro a₁ other kept stored
      have further := ih stored
      rw [valuesOf_cons_of_ne d members text other, ← kept]
      simpa [List.mem_cons, other] using further
    cases found : slots.find? (fun x => x.name == String.ofList s) with
    | none =>
      simp only [found] at stored
      refine pass (fun same => ?_) rfl stored
      rw [← same, h.find] at found
      cases found
    | some slot' =>
      have name : slot'.name = String.ofList s := name_of_find found
      simp only [found] at stored
      split at stored
      · cases stored
      · rename_i unseen
        obtain ⟨a₁, here, further⟩ := Option.bind_eq_some_iff.1 stored
        -- the slot that is looked at, or another one that leaves its part alone
        by_cases same : slot.name = String.ofList s
        · obtain rfl : slot = slot' := by
            rw [← same, h.find] at found
            exact Option.some.inj found
          have further := ih further
          rw [if_pos (by rw [same]; exact List.mem_cons_self ..)] at further
          rw [if_neg (by simpa [same] using unseen),
            valuesOf_cons_of_eq d members text same, further.1, further.2, once?, ← h.store a d, here]
          rfl
        · have kept := h.others slot' (List.mem_of_find?_eq_some found) (by rw [name]; exact Ne.symm same) a d a₁ here
          exact pass same kept further

/-- The members can be stored if all names can be read and no slot has two values, or one that it refuses. -/
theorem exists_storeMembers {members : List (List Piece × Doc)} {seen : List String} (names : HasNames members)
    (values : ∀ s ∈ slots, if s.name ∈ seen then valuesOf s.name members = []
      else (valuesOf s.name members).length ≤ 1 ∧ ∀ d ∈ valuesOf s.name members, ∀ a, (s.store a d).isSome = true)
    (a : α) : ∃ a', storeMembers slots seen members a = some a' := by
  -- on the members, by whether a slot has had its value already
  induction members generalizing seen a with
  | nil => exact ⟨a, rfl⟩
  | cons member members ih =>
    obtain ⟨ps, d⟩ := member
    obtain ⟨s, text⟩ := Option.isSome_iff_exists.1 (names _ (List.mem_cons_self ..))
    have names' : HasNames members := fun m hm => names m (List.mem_cons_of_mem _ hm)
    -- no member that is left has a name that has been seen, the first one's included
    have values' : ∀ s' ∈ slots, if s'.name ∈ String.ofList s :: seen then valuesOf s'.name members = []
        else (valuesOf s'.name members).length ≤ 1 ∧
          ∀ d ∈ valuesOf s'.name members, ∀ a, (s'.store a d).isSome = true := by
      intro s' hs'
      have here := values s' hs'
      by_cases same : s'.name = String.ofList s
      · rw [valuesOf_cons_of_eq d members text same] at here
        rw [if_pos (by rw [same]; exact List.mem_cons_self ..)]
        split at here
        · cases here
        · exact List.eq_nil_of_length_eq_zero (Nat.le_zero.1 (Nat.le_of_succ_le_succ here.1))
      · rw [valuesOf_cons_of_ne d members text same] at here
        simpa [List.mem_cons, same] using here
    dsimp only at text
    rw [storeMembers, text, Option.bind_some]
    cases found : slots.find? (fun x => x.name == String.ofList s) with
    | none => exact ih names' values' a
    | some slot =>
      have name : slot.name = String.ofList s := name_of_find found
      have here := values slot (List.mem_of_find?_eq_some found)
      rw [valuesOf_cons_of_eq d members text name, name] at here
      split at here
      · cases here
      · rename_i unseen
        obtain ⟨a₁, stored⟩ := Option.isSome_iff_exists.1 (here.2 d (List.mem_cons_self ..) a)
        dsimp only
        rw [if_neg (by simpa using unseen), stored]
        exact ih names' values' a₁

theorem hasNames_of_storeMembers {members : List (List Piece × Doc)} {seen : List String} {a a' : α}
    (stored : storeMembers slots seen members a = some a') : HasNames members := by
  induction members generalizing seen a with
  | nil => exact fun _ hm => absurd hm List.not_mem_nil
  | cons member members ih =>
    obtain ⟨ps, d⟩ := member
    rw [storeMembers] at stored
    obtain ⟨s, text, stored⟩ := Option.bind_eq_some_iff.1 stored
    refine List.forall_mem_cons.2 ⟨Option.isSome_of_eq_some text, ?_⟩
    cases found : slots.find? (fun x => x.name == String.ofList s) with
    | none =>
      simp only [found] at stored
      exact ih stored
    | some slot =>
      simp only [found] at stored
      split at stored
      · cases stored
      · obtain ⟨a₁, -, stored⟩ := Option.bind_eq_some_iff.1 stored
        exact ih stored

/-- The members are stored as what they mean if whatever is stored is meant, and something is wherever something is
meant. -/
theorem storeMembers_eq {members : List (List Piece × Doc)} {seen : List String} {a : α} {meaning : Option α}
    (sound : ∀ b, storeMembers slots seen members a = some b → meaning = some b)
    (complete : ∀ b, meaning = some b → ∃ b', storeMembers slots seen members a = some b') :
    storeMembers slots seen members a = meaning := by
  cases means : meaning with
  | some b =>
    obtain ⟨b', stored⟩ := complete b means
    rw [stored, ← sound b' stored, means]
  | none =>
    rw [Option.eq_none_iff_forall_ne_some]
    intro b stored
    rw [sound b stored] at means
    cases means

end Slot

end Decode

end CommitGate.Json
