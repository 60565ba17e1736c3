/-! # Labels in ASCII

A label of a host's name may hold any characters. In its ASCII form the ASCII characters come first, and
after a hyphen follows where to insert which of the others, as numbers of variable length in base 36.

* `Punycode.encode` writes a label and `Punycode.decode?` reads one.

Each number says how many steps a counter goes on that runs through the pairs of a code point and a place,
the place first.
-/

namespace CommitGate.Punycode

/-! ## Digits -/

/-- The digit for `n < 36`: the letters come before the figures. -/
def digit (n : Nat) : Char := if n < 26 then Char.ofNat ('a'.toNat + n) else Char.ofNat ('0'.toNat + n - 26)

/-- The value of a digit of either case. -/
def value? (c : Char) : Option Nat :=
  if 'a' ≤ c ∧ c ≤ 'z' then some (c.toNat - 'a'.toNat)
  else if 'A' ≤ c ∧ c ≤ 'Z' then some (c.toNat - 'A'.toNat)
  else if '0' ≤ c ∧ c ≤ '9' then some (c.toNat - '0'.toNat + 26)
  else none

/-- The threshold at a position, counted in steps of 36: how far the position is past the bias, kept
between 1 and 26. A digit below it ends the number. -/
def threshold (bias position : Nat) : Nat := max 1 (min 26 (position - bias))

theorem one_le_threshold (bias position : Nat) : 1 ≤ threshold bias position := Nat.le_max_left _ _

/-! ## The bias -/

/-- Divide by 35 until at most 455 is left, and count 36 for each division. -/
def scale (delta position : Nat) : Nat × Nat :=
  if 455 < delta then scale (delta / 35) (position + 36) else (delta, position)
termination_by delta
decreasing_by omega

/-- The bias after the number `delta`, when `count` characters are in place. -/
def adapt (delta count : Nat) (first : Bool) : Nat :=
  let delta := if first then delta / 700 else delta / 2
  let (delta, position) := scale (delta + delta / count) 0
  position + 36 * delta / (delta + 38)

/-! ## Writing -/

/-- The digits of a number, starting at a position. -/
def digits (bias position n : Nat) : List Char :=
  let t := threshold bias position
  if n < t then [digit n]
  else digit (t + (n - t) % (36 - t)) :: digits bias (position + 36) ((n - t) / (36 - t))
termination_by n
decreasing_by
  have past := one_le_threshold bias position
  have fewer := Nat.div_le_self (n - threshold bias position) (36 - threshold bias position)
  omega

/-- What is written so far, and where the counter stands. -/
structure Writer where
  written : List Char
  delta : Nat
  bias : Nat
  placed : Nat

/-- Pass one character of the label while the counter stands at the code point `n`. -/
def Writer.pass (start n : Nat) (w : Writer) (c : Char) : Writer :=
  if c.toNat < n then { w with delta := w.delta + 1 }
  else if c.toNat = n then
    { written := w.written ++ digits w.bias 36 w.delta
      delta := 0
      bias := adapt w.delta (w.placed + 1) (w.placed = start)
      placed := w.placed + 1 }
  else w

/-- Go through the code points of the label that are not ASCII, the counter being at `n`. -/
def writeAll (label : List Char) (start : Nat) : List Nat → Nat → Writer → Writer
  | [], _, w => w
  | m :: rest, n, w =>
    let w := { w with delta := w.delta + (m - n) * (w.placed + 1) }
    let w := label.foldl (Writer.pass start m) w
    writeAll label start rest (m + 1) { w with delta := w.delta + 1 }

/-- Whether a character is ASCII. -/
def isAscii (c : Char) : Bool := c.toNat < 0x80

/-- The ASCII form of a label. -/
def encode (label : List Char) : List Char :=
  let plain := label.filter isAscii
  let others := (((label.filter fun c => !isAscii c).map Char.toNat).mergeSort Nat.ble).eraseReps
  let w := writeAll label plain.length others 128 ⟨[], 0, 72, plain.length⟩
  plain ++ (if plain.isEmpty then [] else ['-']) ++ w.written

/-! ## Reading -/

/-- Read a number, adding to `n` with a weight, which stays below 2³². What is left comes with it. -/
def readNumber (bias : Nat) : List Char → Nat → Nat → Nat → Option (Nat × List Char)
  | [], _, _, _ => none
  | c :: rest, position, weight, n => do
    let d ← value? c
    let t := threshold bias position
    if d < t then some (n + d * weight, rest)
    else if weight * (36 - t) < Nat.pow 2 32 then
      readNumber bias rest (position + 36) (weight * (36 - t)) (n + d * weight)
    else none

theorem length_readNumber {bias : Nat} {s : List Char} {position weight n : Nat} {r : Nat × List Char}
    (h : readNumber bias s position weight n = some r) : r.2.length < s.length := by
  induction s generalizing position weight n with
  | nil => simp [readNumber] at h
  | cons c rest ih =>
    unfold readNumber at h
    cases hv : value? c with
    | none => simp [hv] at h
    | some d =>
      simp only [hv, Option.bind_eq_bind, Option.bind_some] at h
      split at h
      · cases h
        simp
      · split at h
        · have := ih h
          simp only [List.length_cons]
          omega
        · simp at h

/-- Whether a number is the code point of a character. -/
def isScalar (n : Nat) : Bool := n < 0xD800 || (0xDFFF < n && n < 0x110000)

/-- Insert the characters that numbers tell, the counter being at the code point `n` and the place `i`. -/
def readAll (bias n i : Nat) (placed : List Char) (s : List Char) : Option (List Char) :=
  if s.isEmpty then some placed
  else
    match h : readNumber bias s 36 1 i with
    | none => none
    | some (next, rest) =>
      have := length_readNumber h
      let count := placed.length + 1
      let n := n + next / count
      let place := next % count
      if isScalar n then
        readAll (adapt (next - i) count (i = 0)) n (place + 1)
          (placed.take place ++ Char.ofNat n :: placed.drop place) rest
      else none
termination_by s.length

/-- The label that an ASCII form stands for. -/
def decode? (s : List Char) : Option (List Char) :=
  let back := s.reverse.takeWhile (· != '-')
  let front := (s.reverse.drop (back.length + 1)).reverse
  if s.contains '-' && !front.isEmpty then readAll 72 128 0 front back.reverse
  else readAll 72 128 0 [] s

end CommitGate.Punycode
