import CommitGate.Json.Decode

/-! # What reading comes to

A reader of JSON text ends with a value and a rest that is left to be read, or with a failure. `Reader.Ends`
tells this by an optional value, so that a chain of readers ends as the chain of their values does
(`Ends.bind`), wherever the text stands.

The lemmas here say what the readers of single signs do. Spaces may stand before each of them.
-/

namespace CommitGate.Json

namespace Reader

/-! ## Chains of readers -/

section

variable {α β : Type} {r : Reader α} {f : α → Reader β} {g : α → β} {a : α} {c c' : Cursor} {e : Failure}

theorem bind_of_ok (h : r c = (.ok a, c')) : (r >>= f) c = f a c' := by
  simp only [bind, ExceptT.bind, ExceptT.mk, StateT.bind, h]
  rfl

theorem bind_of_error (h : r c = (.error e, c')) : (r >>= f) c = (.error e, c') := by
  simp only [bind, ExceptT.bind, ExceptT.mk, StateT.bind, h]
  rfl

theorem map_of_ok (h : r c = (.ok a, c')) : (g <$> r) c = (.ok (g a), c') := by
  simp only [Functor.map, ExceptT.map, ExceptT.mk, bind, StateT.bind, h]
  rfl

theorem map_of_error (h : r c = (.error e, c')) : (g <$> r) c = (.error e, c') := by
  simp only [Functor.map, ExceptT.map, ExceptT.mk, bind, StateT.bind, h]
  rfl

theorem discard_of_ok (h : r c = (.ok a, c')) : (discard r : Reader Unit) c = (.ok (), c') :=
  map_of_ok h

theorem get_eq (c : Cursor) : (get : Reader Cursor) c = (.ok c, c) := rfl

end

/-- A reading has given the value and left the rest; without a value it has failed. -/
def Ends {α : Type} (result : Except Failure α × Cursor) (x : Option α) (rest : Bytes) : Prop :=
  match x with
  | some a => ∃ n, result = (.ok a, ⟨n, rest⟩)
  | none => ∃ e c, result = (.error e, c)

section

variable {α β : Type} {r : Reader α} {f : α → Reader β} {c : Cursor} {x : Option α} {rest rest' : Bytes}

/-- A chain fails if its first link does, and else ends as the second one does on what is left. -/
theorem Ends.bind {y : α → Option β} (h : Ends (r c) x rest)
    (next : ∀ a n, x = some a → Ends (f a ⟨n, rest⟩) (y a) rest') :
    Ends ((r >>= f) c) (x.bind y) rest' := by
  cases x with
  | some a =>
    obtain ⟨n, hr⟩ := h
    rw [bind_of_ok hr]
    exact next a n rfl
  | none =>
    obtain ⟨e, c', hr⟩ := h
    exact ⟨e, c', bind_of_error hr⟩

theorem Ends.map (g : α → β) (h : Ends (r c) x rest) : Ends ((g <$> r) c) (x.map g) rest := by
  cases x with
  | some a =>
    obtain ⟨n, hr⟩ := h
    exact ⟨n, map_of_ok hr⟩
  | none =>
    obtain ⟨e, c', hr⟩ := h
    exact ⟨e, c', map_of_error hr⟩

/-- The place of a failure does not matter. -/
theorem Ends.located (h : Ends (r c) x rest) : Ends (located r c) x rest := by
  cases x with
  | some a =>
    obtain ⟨n, hr⟩ := h
    exact ⟨n, by rw [Reader.located, hr]⟩
  | none =>
    obtain ⟨⟨cause, place⟩, c', hr⟩ := h
    cases place with
    | none => exact ⟨_, _, by rw [Reader.located, hr]⟩
    | some place => exact ⟨_, _, by rw [Reader.located, hr]⟩

/-- What is read before a closing sign counts if the sign comes. -/
theorem Ends.closedBy {closing : Reader Unit} (h : Ends (r c) x rest)
    (closes : ∀ n, Ends (closing ⟨n, rest⟩) (some ()) rest') :
    Ends (closedBy r closing c) x rest' := by
  cases x with
  | some a =>
    obtain ⟨n, hr⟩ := h
    obtain ⟨n', hc⟩ := closes n
    exact ⟨n', by rw [Reader.closedBy, hr]; dsimp only; rw [hc]⟩
  | none =>
    obtain ⟨e, c', hr⟩ := h
    exact ⟨e, _, by rw [Reader.closedBy, hr]⟩

end

/-! ## Chains taken apart

A chain that has given a value did so link by link. -/

section

variable {α β : Type} {r : Reader α} {f : α → Reader β} {g : α → β} {a : α} {b : β} {c c' : Cursor}

theorem of_bind (h : (r >>= f) c = (.ok b, c')) : ∃ a c₁, r c = (.ok a, c₁) ∧ f a c₁ = (.ok b, c') := by
  cases hr : r c with
  | mk result c₁ =>
    cases result with
    | ok a =>
      rw [bind_of_ok hr] at h
      exact ⟨a, c₁, rfl, h⟩
    | error e =>
      rw [bind_of_error hr] at h
      cases h

theorem of_map (h : (g <$> r) c = (.ok b, c')) : ∃ a, r c = (.ok a, c') ∧ g a = b := by
  cases hr : r c with
  | mk result c₁ =>
    cases result with
    | ok a =>
      rw [map_of_ok hr] at h
      cases h
      exact ⟨a, rfl, rfl⟩
    | error e =>
      rw [map_of_error hr] at h
      cases h

theorem of_discard {u : Unit} (h : (discard r : Reader Unit) c = (.ok u, c')) : ∃ a, r c = (.ok a, c') := by
  obtain ⟨a, read, -⟩ := of_map h
  exact ⟨a, read⟩

theorem of_pure {a' : α} (h : (pure a : Reader α) c = (.ok a', c')) : a = a' ∧ c = c' := by
  cases h
  exact ⟨rfl, rfl⟩

theorem of_located (h : located r c = (.ok a, c')) : r c = (.ok a, c') := by
  rw [located] at h
  split at h
  · cases h
  · exact h

theorem of_closedBy {closing : Reader Unit} (h : closedBy r closing c = (.ok a, c')) :
    ∃ c₁, r c = (.ok a, c₁) ∧ closing c₁ = (.ok (), c') := by
  rw [closedBy] at h
  split at h
  · rename_i read
    split at h
    · rename_i closed
      cases h
      exact ⟨_, read, closed⟩
    · cases h
  · cases h

theorem failHere_ne_ok {cause : Cause} (h : failHere cause c = (.ok a, c')) : False := by
  cases h

theorem failNext_ne_ok {cause : Cause} (h : failNext cause c = (.ok a, c')) : False := by
  cases h

end

/-! ## Single signs -/

/-- Only spaces. -/
def Blank (text : Bytes) : Prop := ∀ b ∈ text, isSpace b = true

theorem Blank.nil : Blank [] := fun _ h => absurd h List.not_mem_nil

section

variable {blank rest : Bytes} {b : UInt8}

theorem skip_cons (n : Nat) : skip ⟨n, b :: rest⟩ = (.ok (), ⟨n + 1, rest⟩) :=
  discard_of_ok (show next ⟨n, b :: rest⟩ = (.ok (some b), ⟨n + 1, rest⟩) from rfl)

/-- Spaces end before a sign. -/
theorem peekToken_cons (n : Nat) (h : Blank blank) (sign : isSpace b = false) :
    peekToken ⟨n, blank ++ b :: rest⟩ = (.ok (some b), ⟨n + blank.length, b :: rest⟩) := by
  have taken : (blank ++ b :: rest).takeWhile isSpace = blank := by
    rw [List.takeWhile_append_of_pos h, List.takeWhile_cons_of_neg (by simp [sign]), List.append_nil]
  have skipped : skipWhile isSpace ⟨n, blank ++ b :: rest⟩ =
      (.ok blank.length, ⟨n + blank.length, b :: rest⟩) := by
    rw [skipWhile, taken, List.drop_left]
  unfold peekToken
  rw [bind_of_ok (discard_of_ok skipped)]
  rfl

/-- They also end where the text does. -/
theorem peekToken_end (n : Nat) (h : Blank blank) :
    peekToken ⟨n, blank⟩ = (.ok none, ⟨n + blank.length, []⟩) := by
  have taken : blank.takeWhile isSpace = blank := by
    have all : (blank ++ []).takeWhile isSpace = blank ++ [] := List.takeWhile_append_of_pos h
    rwa [List.append_nil] at all
  have skipped : skipWhile isSpace ⟨n, blank⟩ = (.ok blank.length, ⟨n + blank.length, []⟩) := by
    rw [skipWhile, taken, List.drop_length]
  unfold peekToken
  rw [bind_of_ok (discard_of_ok skipped)]
  rfl

theorem peekValue_cons (n : Nat) (h : Blank blank) (sign : isSpace b = false) :
    peekValue ⟨n, blank ++ b :: rest⟩ = (.ok b, ⟨n + blank.length, b :: rest⟩) := by
  unfold peekValue
  rw [bind_of_ok (peekToken_cons n h sign)]
  rfl

end

/-- The letters of a word are read one by one. -/
theorem word_cons {c : Char} {more : List Char} {rest : Bytes} (n : Nat) (h : c.toNat < 256) :
    word (c :: more) ⟨n, UInt8.ofNat c.toNat :: rest⟩ = word more ⟨n + 1, rest⟩ := by
  have value : (UInt8.ofNat c.toNat).toNat = c.toNat := by rw [UInt8.toNat_ofNat', Nat.mod_eq_of_lt h]
  rw [word, bind_of_ok (show next ⟨n, _ :: rest⟩ = (.ok (some _), ⟨n + 1, rest⟩) from rfl)]
  dsimp only
  rw [if_pos value]

end Reader

end CommitGate.Json
