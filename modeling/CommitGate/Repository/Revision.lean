import CommitGate.Repository.Object

/-! # Revisions

A revision names an object of a repository: by a reference or an id, and by steps from there.

* `Revision` is a revision by its structure.
* `Revision.read?` reads one.

Scope limit: there are no steps into trees, and none that look for a commit by its message.
-/

namespace CommitGate.Repository

/-- What an object is unwrapped to. -/
inductive Target where
  /-- The object itself. -/
  | anything
  /-- The first object that is no tag. -/
  | untagged
  /-- The first object of a kind. -/
  | kind (k : Kind)
deriving DecidableEq, Repr

/-- A revision. -/
inductive Revision where
  /-- A reference, an id or the beginning of one. -/
  | named (name : List Char)
  /-- A parent of a commit, counted from one. The commit itself is number zero. -/
  | parent (of : Revision) (number : Nat)
  /-- A commit's ancestor in the line of first parents. -/
  | ancestor (of : Revision) (generations : Nat)
  /-- What an object is unwrapped to. All of the revision's text is `text`. -/
  | unwrapped (of : Revision) (target : Target) (text : List Char)
deriving DecidableEq, Repr

namespace Revision

/-- What stands before and after the last `^\x7b`. -/
def splitLast? : List Char → Option (List Char × List Char)
  | [] => none
  | c :: rest =>
    match splitLast? rest with
    | some (before, after) => some (c :: before, after)
    | none =>
      match c, rest with
      | '^', '\x7b' :: after => some ([], after)
      | _, _ => none

theorem length_splitLast? {s before after : List Char} (h : splitLast? s = some (before, after)) :
    before.length < s.length := by
  induction s generalizing before after with
  | nil => simp [splitLast?] at h
  | cons c rest ih =>
    unfold splitLast? at h
    split at h
    · rename_i b a hb
      have := ih hb
      simp only [Option.some.injEq, Prod.mk.injEq] at h
      rw [← h.1]
      simp only [List.length_cons]
      omega
    · split at h
      · simp only [Option.some.injEq, Prod.mk.injEq] at h
        rw [← h.1]
        simp
      · simp at h

/-- The target that stands between braces. What comes after it does not count, except that a brace closes
the text. -/
def target? (s : List Char) : Option Target :=
  let names (word : String) : Bool := (word.toList ++ ['\x7d']).isPrefixOf s
  if names "commit" then some (.kind .commit)
  else if names "tag" then some (.kind .tag)
  else if names "tree" then some (.kind .tree)
  else if names "blob" then some (.kind .blob)
  else if names "object" then some .anything
  else if names "" then some .untagged
  else if names "/" then some (.kind .commit)
  else none

/-- The revision that is unwrapped, and what to, if a text ends with such a step. -/
def unwrapping? (s : List Char) : Option (List Char × Target) :=
  if s.length < 4 || s.getLast? ≠ some '\x7d' then none
  else
    match splitLast? s with
    | some (before, after) => (target? after).map fun t => (before, t)
    | none => none

theorem length_unwrapping? {s before : List Char} {t : Target}
    (h : unwrapping? s = some (before, t)) : before.length < s.length := by
  unfold unwrapping? at h
  split at h
  · simp at h
  · split at h
    · rename_i b a hs
      have := length_splitLast? hs
      simp only [Option.map_eq_some_iff, Prod.mk.injEq] at h
      obtain ⟨_, _, h, _⟩ := h
      rw [← h]
      exact this
    · simp at h

/-- The largest number of a step. -/
def maxNumber : Nat := Nat.pow 2 31 - 1

/-- The number of a step; it is one unless it is given. -/
def number? (digits : List Char) : Option Nat :=
  if digits.isEmpty then some 1
  else (Decimal.value? digits).filter (· ≤ maxNumber)

/-- What stands before a step to a parent or an ancestor, the sign of the step and its digits. -/
def step? (s : List Char) : Option (List Char × Char × List Char) :=
  let backwards := s.reverse
  match backwards.dropWhile Decimal.isDigit with
  | sign :: before =>
    if sign = '^' || sign = '~' then
      some (before.reverse, sign, (backwards.takeWhile Decimal.isDigit).reverse)
    else none
  | [] => none

theorem length_step? {s before digits : List Char} {sign : Char}
    (h : step? s = some (before, sign, digits)) : before.length < s.length := by
  unfold step? at h
  simp only at h
  split at h
  · rename_i c rest hr
    have := (List.dropWhile_sublist (l := s.reverse) Decimal.isDigit).length_le
    rw [hr] at this
    simp only [List.length_cons, List.length_reverse] at this
    split at h
    · simp only [Option.some.injEq, Prod.mk.injEq] at h
      rw [← h.1]
      simp only [List.length_reverse]
      omega
    · simp at h
  · simp at h

/-- The revision that a text is. -/
def read? (s : List Char) : Option Revision :=
  match _h : step? s with
  | some (before, sign, digits) =>
    match number? digits, read? before with
    | some n, some r => some (if sign = '^' then .parent r n else .ancestor r n)
    | _, _ => none
  | none =>
    match _h : unwrapping? s with
    | some (before, target) => (read? before).map fun r => .unwrapped r target s
    | none => some (.named s)
termination_by s.length
decreasing_by
  · exact length_step? (by assumption)
  · exact length_unwrapping? (by assumption)

end Revision

end CommitGate.Repository
