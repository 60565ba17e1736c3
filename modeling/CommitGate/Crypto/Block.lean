import CommitGate.Bytes

/-! # Digests by blocks

A digest of a byte sequence is made by filling up the sequence to whole blocks and letting each block
change a state.

* `Block.padded` appends a one bit, zero bits and the length.
* `Block.fold` lets the blocks act in order.
-/

namespace CommitGate.Crypto.Block

/-- A byte sequence with a one bit, zero bits and its own length in bits in `width` bytes, so that
`size` divides the result's length. -/
def padded (size width : Nat) (bs : Bytes) : Bytes :=
  let used := (bs.length + 1 + width) % size
  bs ++ 0x80 :: List.replicate ((size - used) % size) 0 ++ Bytes.ofNat width (8 * bs.length)

/-- Let each block of `size + 1` bytes act on the state. -/
def fold {σ : Type} (size : Nat) (act : σ → Bytes → σ) (state : σ) (bs : Bytes) : σ :=
  match bs with
  | [] => state
  | b :: rest => fold size act (act state (b :: rest.take size)) (rest.drop size)
termination_by bs.length
decreasing_by
  simp only [List.length_drop, List.length_cons]
  omega

/-- The big-endian words of `size + 1` bytes in a block. -/
def words (size : Nat) (bs : Bytes) : List Nat :=
  (fold size (fun ws w => Bytes.toNat w :: ws) [] bs).reverse

end CommitGate.Crypto.Block
