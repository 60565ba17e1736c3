import CommitGate.Text.CharRange

/-! # Patterns

A pattern describes texts as a whole: it is anchored at both ends.

* `Pattern.accepts` says whether a text is one of those described. It reads one character after the other,
  and what a pattern still expects after a character (`Pattern.after`) is a pattern again.

Scope limit: a pattern has no groups to be captured, so it does not matter which way of matching is tried
first.
-/

namespace CommitGate

/-- A description of texts. -/
inductive Pattern where
  /-- No text at all. -/
  | never
  /-- The empty text. -/
  | nothing
  /-- One character that lies in one of the ranges. -/
  | oneOf (ranges : List CharRange)
  /-- A text of the first kind and then one of the second. -/
  | seq (first second : Pattern)
  | either (left right : Pattern)
  /-- Any number of texts, one after the other. -/
  | many (body : Pattern)
deriving DecidableEq, Repr

namespace Pattern

/-- One certain character. -/
def char (c : Char) : Pattern := oneOf [.only c]

/-- At least one text. -/
def oneOrMore (p : Pattern) : Pattern := seq p (many p)

/-- A text or none. -/
def optional (p : Pattern) : Pattern := either nothing p

/-- At most `n` texts. -/
def upTo : Nat → Pattern → Pattern
  | 0, _ => nothing
  | n + 1, p => optional (seq p (upTo n p))

/-! ## Reading -/

/-- Whether the empty text is described. -/
def admitsEmpty : Pattern → Bool
  | never | oneOf _ => false
  | nothing | many _ => true
  | seq p q => p.admitsEmpty && q.admitsEmpty
  | either p q => p.admitsEmpty || q.admitsEmpty

/-- `seq` without the parts that add nothing. -/
def followedBy : Pattern → Pattern → Pattern
  | never, _ => never
  | nothing, q => q
  | p, q => seq p q

/-- `either` without the parts that add nothing. -/
def orElse : Pattern → Pattern → Pattern
  | never, q => q
  | p, never => p
  | p, q => either p q

/-- What may follow the character `c` at the front of a text. -/
def after (c : Char) : Pattern → Pattern
  | never | nothing => never
  | oneOf ranges => if CharRange.holds ranges c then nothing else never
  | seq p q =>
    let inFirst := (p.after c).followedBy q
    if p.admitsEmpty then inFirst.orElse (q.after c) else inFirst
  | either p q => (p.after c).orElse (q.after c)
  | many p => (p.after c).followedBy (many p)

/-- Whether a text is described. -/
def accepts (p : Pattern) : List Char → Bool
  | [] => p.admitsEmpty
  | c :: rest => (p.after c).accepts rest

end Pattern

end CommitGate
