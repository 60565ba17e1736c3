import CommitGate.Crypto.Block

/-! # SHA-2

The four digests of the family. They differ in the width of their words, in the words they start from
and in the length they are cut to; the constants are bits of roots of the first primes.

* `Sha2.sha224`, `Sha2.sha256`, `Sha2.sha384` and `Sha2.sha512`.
-/

namespace CommitGate.Crypto.Sha2

/-! ## Constants -/

/-- Whether only 1 and `n` divide `n`. -/
def isPrime (n : Nat) : Bool := 2 ≤ n && (List.range n).all fun i => i < 2 || n % i ≠ 0

/-- The first eighty primes. -/
def primes : List Nat := ((List.range 410).filter isPrime).take 80

/-- The integer part of the `k`th root of `n`, if it has no more than `bits` bits. -/
def root (k bits n : Nat) : Nat :=
  (List.range bits).foldl
    (fun r i => let r' := r + Nat.pow 2 (bits - 1 - i); if Nat.pow r' k ≤ n then r' else r) 0

/-- The first `width` bits after the point of the `k`th root of `n`. -/
def fraction (k width n : Nat) : Nat := root k (width + 16) (n * Nat.pow 2 (k * width)) % Nat.pow 2 width

/-! ## Words -/

/-- A width of words with its rotations and shifts. -/
structure Width where
  bits : Nat
  rounds : Nat
  sum0 : Nat × Nat × Nat
  sum1 : Nat × Nat × Nat
  /-- Two rotations and a shift. -/
  step0 : Nat × Nat × Nat
  step1 : Nat × Nat × Nat
deriving DecidableEq, Repr

/-- Words of 32 bits. -/
def narrow : Width := ⟨32, 64, (2, 13, 22), (6, 11, 25), (7, 18, 3), (17, 19, 10)⟩

/-- Words of 64 bits. -/
def wide : Width := ⟨64, 80, (28, 34, 39), (14, 18, 41), (1, 8, 7), (19, 61, 6)⟩

namespace Width

/-- Rotate a word to the right. -/
def rotate (w : Width) (x n : Nat) : Nat := (x >>> n) ||| ((x <<< (w.bits - n)) % Nat.pow 2 w.bits)

/-- The sum of three rotations of a word. -/
def sum (w : Width) (r : Nat × Nat × Nat) (x : Nat) : Nat :=
  w.rotate x r.1 ^^^ w.rotate x r.2.1 ^^^ w.rotate x r.2.2

/-- The sum of two rotations and a shift of a word. -/
def step (w : Width) (r : Nat × Nat × Nat) (x : Nat) : Nat :=
  w.rotate x r.1 ^^^ w.rotate x r.2.1 ^^^ (x >>> r.2.2)

/-- Add words. -/
def add (w : Width) (xs : List Nat) : Nat := xs.foldl (· + ·) 0 % Nat.pow 2 w.bits

end Width

/-- The constants of the rounds for words of 32 bits. -/
def narrowConstants : List Nat := (primes.take 64).map (fraction 3 32)

/-- The constants of the rounds for words of 64 bits. -/
def wideConstants : List Nat := primes.map (fraction 3 64)

/-! ## The digest -/

/-- The eight words of the state. -/
structure State where
  a : Nat
  b : Nat
  c : Nat
  d : Nat
  e : Nat
  f : Nat
  g : Nat
  h : Nat
deriving DecidableEq, Repr

/-- The words of a state. -/
def State.words (s : State) : List Nat := [s.a, s.b, s.c, s.d, s.e, s.f, s.g, s.h]

/-- The state with eight words. -/
def State.ofWords : List Nat → State
  | [a, b, c, d, e, f, g, h] => ⟨a, b, c, d, e, f, g, h⟩
  | _ => ⟨0, 0, 0, 0, 0, 0, 0, 0⟩

/-- One round with its constant: the state and the window of the words still to come. -/
def round (w : Width) (s : State × List Nat) (constant : Nat) : State × List Nat :=
  let (st, window) := s
  let choice := (st.e &&& st.f) ^^^ ((Nat.pow 2 w.bits - 1 - st.e) &&& st.g)
  let majority := (st.a &&& st.b) ^^^ (st.a &&& st.c) ^^^ (st.b &&& st.c)
  let t1 := w.add [st.h, w.sum w.sum1 st.e, choice, constant, window.getD 0 0]
  let t2 := w.add [w.sum w.sum0 st.a, majority]
  let next := w.add [w.step w.step1 (window.getD 14 0), window.getD 9 0,
    w.step w.step0 (window.getD 1 0), window.getD 0 0]
  (⟨w.add [t1, t2], st.a, st.b, st.c, w.add [st.d, t1], st.e, st.f, st.g⟩,
    window.drop 1 ++ [next])

/-- What a block does to the state. -/
def compress (w : Width) (constants : List Nat) (s : State) (block : Bytes) : State :=
  let window := Block.words (w.bits / 8 - 1) block
  let r := (constants.foldl (round w) (s, window)).1
  State.ofWords ((s.words.zip r.words).map fun p => w.add [p.1, p.2])

/-- The first `length` bytes of the final state, which started from `start`. -/
def digest (w : Width) (constants start : List Nat) (length : Nat) (bs : Bytes) : Bytes :=
  let s := Block.fold (2 * w.bits - 1) (compress w constants) (State.ofWords start)
    (Block.padded (2 * w.bits) (w.bits / 4) bs)
  (s.words.flatMap (Bytes.ofNat (w.bits / 8))).take length

/-- The words that SHA-224 starts from. -/
def start224 : List Nat := ((primes.drop 8).take 8).map fun p => fraction 2 64 p % Nat.pow 2 32

/-- The words that SHA-256 starts from. -/
def start256 : List Nat := (primes.take 8).map (fraction 2 32)

/-- The words that SHA-384 starts from. -/
def start384 : List Nat := ((primes.drop 8).take 8).map (fraction 2 64)

/-- The words that SHA-512 starts from. -/
def start512 : List Nat := (primes.take 8).map (fraction 2 64)

/-- The digest of 28 bytes. -/
def sha224 (bs : Bytes) : Bytes := digest narrow narrowConstants start224 28 bs

/-- The digest of 32 bytes. -/
def sha256 (bs : Bytes) : Bytes := digest narrow narrowConstants start256 32 bs

/-- The digest of 48 bytes. -/
def sha384 (bs : Bytes) : Bytes := digest wide wideConstants start384 48 bs

/-- The digest of 64 bytes. -/
def sha512 (bs : Bytes) : Bytes := digest wide wideConstants start512 64 bs

end CommitGate.Crypto.Sha2
