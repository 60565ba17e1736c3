import CommitGate.Crypto.Block

/-! # SHA-1

The digest of twenty bytes that names keys and stored objects. It is not used to accept signatures.

* `Sha1.digest` is the digest of a byte sequence.
-/

namespace CommitGate.Crypto.Sha1

/-- The five words of the state. -/
structure State where
  a : UInt32
  b : UInt32
  c : UInt32
  d : UInt32
  e : UInt32
deriving DecidableEq, Repr

/-- The state before the first block. -/
def start : State := ⟨0x67452301, 0xEFCDAB89, 0x98BADCFE, 0x10325476, 0xC3D2E1F0⟩

/-- Rotate a word to the left. -/
def rotate (n : UInt32) (x : UInt32) : UInt32 := (x <<< n) ||| (x >>> (32 - n))

/-- The function and the constant of a round. -/
def mix (round : Nat) (s : State) : UInt32 :=
  if round < 20 then ((s.b &&& s.c) ||| (~~~s.b &&& s.d)) + 0x5A827999
  else if round < 40 then (s.b ^^^ s.c ^^^ s.d) + 0x6ED9EBA1
  else if round < 60 then ((s.b &&& s.c) ||| (s.b &&& s.d) ||| (s.c &&& s.d)) + 0x8F1BBCDC
  else (s.b ^^^ s.c ^^^ s.d) + 0xCA62C1D6

/-- The word that a window of sixteen words is continued with. -/
def nextWord (window : List UInt32) : UInt32 :=
  rotate 1 (window.getD 13 0 ^^^ window.getD 8 0 ^^^ window.getD 2 0 ^^^ window.getD 0 0)

/-- One round: the state and the window of the words still to come. -/
def round (s : State × List UInt32) (n : Nat) : State × List UInt32 :=
  let (st, window) := s
  let a := rotate 5 st.a + mix n st + st.e + window.getD 0 0
  (⟨a, st.a, rotate 30 st.b, st.c, st.d⟩, window.drop 1 ++ [nextWord window])

/-- What a block does to the state. -/
def compress (s : State) (block : Bytes) : State :=
  let window := (Block.words 3 block).map UInt32.ofNat
  let r := ((List.range 80).foldl round (s, window)).1
  ⟨s.a + r.a, s.b + r.b, s.c + r.c, s.d + r.d, s.e + r.e⟩

/-- The digest of a byte sequence. -/
def digest (bs : Bytes) : Bytes :=
  let s := Block.fold 63 compress start (Block.padded 64 8 bs)
  [s.a, s.b, s.c, s.d, s.e].flatMap fun w => Bytes.ofNat 4 w.toNat

end CommitGate.Crypto.Sha1
