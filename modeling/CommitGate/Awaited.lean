/-! # Values that are waited for

A value that may come at once, later or never. Whoever waits looks for it again and again; each look is
a poll.

* `Awaited.race` waits for two values at a time and takes the one that comes first.

Scope limit: time is counted in polls, and both values of a race are polled equally often.
-/

namespace CommitGate

/-- A value that comes at the next poll, at a later one, or never. -/
inductive Awaited (α : Type) where
  | ready (value : α)
  | later (rest : Awaited α)
  | never
deriving DecidableEq, Repr

namespace Awaited

/-- The value together with the number of polls that find nothing before it, if it ever comes. -/
def arrival? {α : Type} : Awaited α → Option (Nat × α)
  | ready a => some (0, a)
  | later rest => rest.arrival?.map fun (n, a) => (n + 1, a)
  | never => none

/-- The value that comes after `polls` polls that find nothing. -/
def after {α : Type} (a : α) : Nat → Awaited α
  | 0 => ready a
  | n + 1 => later (after a n)

/-- How a race ends. The first competitor has been polled `polls` times by then. -/
inductive Finish (α β : Type) where
  | first (value : α) (polls : Nat)
  | second (value : β) (polls : Nat)
  /-- Neither value ever comes. -/
  | endless
deriving DecidableEq, Repr

/-- The same end after one more poll of both. -/
def Finish.delayed {α β : Type} : Finish α β → Finish α β
  | first a n => first a (n + 1)
  | second b n => second b (n + 1)
  | endless => endless

/-- Poll two values in turns, the first one first, until one of them is there. -/
def race {α β : Type} : Awaited α → Awaited β → Finish α β
  | ready a, _ => .first a 1
  | _, ready b => .second b 1
  | later a, later b => (race a b).delayed
  | later a, never => (race a never).delayed
  | never, later b => (race never b).delayed
  | never, never => .endless

/-- Whether the value is there at the first poll. -/
def isReady {α : Type} : Awaited α → Bool
  | ready _ => true
  | _ => false

end Awaited

end CommitGate
