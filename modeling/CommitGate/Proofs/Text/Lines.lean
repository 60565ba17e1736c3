import CommitGate.Bytes

/-! # Lines of bytes

A text as the list of its lines, each with the line feed that ends it.

* `splitOn_unlines`: lines without a line feed inside are found again by splitting;
* `unlines_inj`: hence they are determined by the text;
* `of_mem_splitOn`, `of_mem_intercalate`: what the parts of a list hold, and what a list joined from parts;
* `takeWhile_stop`, `exists_stop`: a reader that stops at a byte takes what stands before it.
-/

namespace CommitGate

/-- A list is kept if each of its elements is. -/
theorem map_eq_self {α : Type} {f : α → α} {xs : List α} (h : ∀ x ∈ xs, f x = x) : xs.map f = xs :=
  (List.map_congr_left h).trans (List.map_id xs)

/-- A reader takes everything up to the first element that it stops at. -/
theorem takeWhile_stop {α : Type} {p : α → Bool} {xs ys : List α} {stop : α}
    (h : ∀ x ∈ xs, p x = true) (hs : p stop = false) : (xs ++ stop :: ys).takeWhile p = xs := by
  rw [List.takeWhile_append_of_pos h, List.takeWhile_cons_of_neg (by simp [hs]), List.append_nil]

/-- The same for the first element of a kind. -/
theorem takeWhile_ne {α : Type} [BEq α] [LawfulBEq α] {a : α} {xs ys : List α} (h : a ∉ xs) :
    (xs ++ a :: ys).takeWhile (· != a) = xs :=
  takeWhile_stop (fun x hx => bne_iff_ne.2 fun heq => h (heq ▸ hx)) (by simp)

/-- A reader that stops before the end has met an element that it stops at. -/
theorem exists_stop {α : Type} {p : α → Bool} {xs : List α}
    (h : (xs.takeWhile p).length < xs.length) :
    ∃ stop ys, xs = xs.takeWhile p ++ stop :: ys ∧ p stop = false := by
  have split := List.takeWhile_append_dropWhile (p := p) (l := xs)
  have first := List.head?_dropWhile_not p xs
  cases hd : xs.dropWhile p with
  | nil =>
    rw [hd, List.append_nil] at split
    rw [split] at h
    exact absurd h (Nat.lt_irrefl _)
  | cons stop ys =>
    rw [hd] at split first
    exact ⟨stop, ys, split.symm, first⟩

/-- What a reader has taken passes its test. -/
theorem of_mem_takeWhile {α : Type} {p : α → Bool} {xs : List α} {x : α}
    (h : x ∈ xs.takeWhile p) : p x = true :=
  List.all_eq_true.1 List.all_takeWhile x h

/-- What a reader leaves is what stands behind what it has taken. -/
theorem drop_length_takeWhile {α : Type} (p : α → Bool) (xs : List α) :
    xs.drop (xs.takeWhile p).length = xs.dropWhile p := by
  have split := List.takeWhile_append_dropWhile (p := p) (l := xs)
  exact (congrArg (List.drop _) split).symm.trans List.drop_left

/-- Behind a text and one more element stands the rest. -/
theorem drop_cons {α : Type} {front rest : List α} {a : α} :
    (front ++ a :: rest).drop (front.length + 1) = rest := by
  rw [← List.drop_drop, List.drop_left]
  rfl

/-- The parts of a list hold what the list holds, except for what it is cut at. -/
theorem of_mem_splitOn {α : Type} [BEq α] [LawfulBEq α] {a x : α} {xs part : List α}
    (h : part ∈ xs.splitOn a) (hx : x ∈ part) : x ∈ xs ∧ x ≠ a := by
  -- on the list: its first element is cut at, or joins the first part of the rest
  induction xs generalizing part with
  | nil =>
    rw [List.splitOn_nil, List.mem_singleton] at h
    subst h
    cases hx
  | cons y xs ih =>
    rw [List.splitOn_cons_eq_if_modifyHead] at h
    split at h
    · rcases List.mem_cons.1 h with rfl | h
      · cases hx
      · obtain ⟨inside, other⟩ := ih h hx
        exact ⟨List.mem_cons_of_mem _ inside, other⟩
    · rename_i other
      cases hs : xs.splitOn a with
      | nil => exact absurd hs (List.splitOn_ne_nil _ _)
      | cons first parts =>
        rw [hs, List.modifyHead_cons] at h
        rw [hs] at ih
        have rest : ∀ {part}, part ∈ first :: parts → x ∈ part → x ∈ y :: xs ∧ x ≠ a :=
          fun hp hx => (ih hp hx).imp_left (List.mem_cons_of_mem _)
        rcases List.mem_cons.1 h with rfl | h
        · rcases List.mem_cons.1 hx with rfl | hx
          · exact ⟨List.mem_cons_self .., fun h => other (beq_iff_eq.2 h)⟩
          · exact rest (List.mem_cons_self ..) hx
        · exact rest (List.mem_cons_of_mem _ h) hx

/-- What joins some parts is all that a joined list holds beside them. -/
theorem of_mem_intercalate {α : Type} {a x : α} {parts : List (List α)}
    (h : x ∈ List.intercalate [a] parts) : x = a ∨ ∃ part ∈ parts, x ∈ part := by
  induction parts with
  | nil => cases h
  | cons part parts ih =>
    cases parts with
    | nil =>
      rw [List.intercalate_singleton] at h
      exact Or.inr ⟨part, List.mem_cons_self, h⟩
    | cons next parts =>
      rw [List.intercalate_cons_cons, List.append_assoc, List.mem_append, List.mem_append,
        List.mem_singleton] at h
      rcases h with h | rfl | h
      · exact Or.inr ⟨part, List.mem_cons_self, h⟩
      · exact Or.inl rfl
      · rcases ih h with rfl | ⟨other, inside, h⟩
        · exact Or.inl rfl
        · exact Or.inr ⟨other, List.mem_cons_of_mem _ inside, h⟩

namespace Bytes

/-- The text of some lines, with a line feed after each. -/
def unlines (lines : List Bytes) : Bytes := lines.flatMap (· ++ [0x0A])

@[simp] theorem unlines_nil : unlines [] = [] := rfl

@[simp] theorem unlines_cons (line : Bytes) (lines : List Bytes) :
    unlines (line :: lines) = line ++ 0x0A :: unlines lines := by
  simp [unlines]

@[simp] theorem unlines_append (lines lines' : List Bytes) :
    unlines (lines ++ lines') = unlines lines ++ unlines lines' :=
  List.flatMap_append

/-- Splitting a text finds its lines again. -/
theorem splitOn_unlines {lines : List Bytes} (h : ∀ line ∈ lines, 0x0A ∉ line) (rest : Bytes) :
    (unlines lines ++ rest).splitOn 0x0A = lines ++ rest.splitOn 0x0A := by
  -- on the lines: the first line feed is the one behind the first line
  induction lines with
  | nil => rfl
  | cons line lines ih =>
    have hl : 0x0A ∉ line := h line (List.mem_cons_self ..)
    have hr : ∀ l ∈ lines, 0x0A ∉ l := fun l hl => h l (List.mem_cons_of_mem _ hl)
    rw [unlines_cons, List.append_assoc, List.cons_append,
      List.splitOn_append_cons_self_of_not_mem hl, ih hr, List.cons_append]

/-- There are no more lines than bytes. -/
theorem length_le_unlines (lines : List Bytes) : lines.length ≤ (unlines lines).length := by
  induction lines with
  | nil => exact Nat.le_refl 0
  | cons line lines ih =>
    simp only [unlines_cons, List.length_append, List.length_cons]
    omega

/-- Joining lines and a last part that is not empty. -/
theorem intercalate_append (lines : List Bytes) (part : Bytes) (parts : List Bytes) :
    [0x0A].intercalate (lines ++ part :: parts) =
      unlines lines ++ [0x0A].intercalate (part :: parts) := by
  induction lines with
  | nil => rfl
  | cons line lines ih =>
    cases lines with
    | nil => simp [List.intercalate, unlines]
    | cons line' lines =>
      have joined : [0x0A].intercalate (line :: line' :: (lines ++ part :: parts)) =
          line ++ 0x0A :: [0x0A].intercalate (line' :: (lines ++ part :: parts)) := by
        simp [List.intercalate]
      simp only [List.cons_append] at ih ⊢
      rw [joined, ih]
      simp

/-- Before the same rest, a text has one list of lines. -/
theorem unlines_inj {lines lines' : List Bytes} {rest : Bytes} (h : ∀ line ∈ lines, 0x0A ∉ line)
    (h' : ∀ line ∈ lines', 0x0A ∉ line) :
    unlines lines ++ rest = unlines lines' ++ rest ↔ lines = lines' := by
  constructor
  · intro heq
    have split := congrArg (List.splitOn 0x0A) heq
    rw [splitOn_unlines h, splitOn_unlines h'] at split
    exact List.append_cancel_right split
  · rintro rfl
    rfl

end Bytes

end CommitGate
