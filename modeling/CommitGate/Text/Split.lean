/-! # Splitting

The parts of a text between the occurrences of a separator.

* `Split.on_ne_nil`: there is at least one part.
-/

namespace CommitGate.Split

/-- The parts of a text between separators. -/
def on (separator : Char) : List Char → List (List Char)
  | [] => [[]]
  | c :: rest =>
    match on separator rest with
    | [] => [[c]]
    | part :: others => if c = separator then [] :: part :: others else (c :: part) :: others

theorem on_ne_nil (separator : Char) (s : List Char) : on separator s ≠ [] := by
  cases s with
  | nil => simp [on]
  | cons c rest =>
    unfold on
    split
    · simp
    · split <;> simp

end CommitGate.Split
