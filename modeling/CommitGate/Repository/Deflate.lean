import CommitGate.Bytes

/-! # Compressed data

Objects are kept in compressed form: two bytes, then blocks that are bit streams. A block is stored as it is,
or written with two codes, one for bytes and lengths and one for distances; a length and a distance stand for
bytes that have come before.

* `Deflate.inflate?` is the content of compressed data.

Scope limit: the checksum behind the blocks is not looked at.
-/

namespace CommitGate.Deflate

/-- A reader of bits, which knows how many bits it has read. -/
abbrev Reader := ReaderT ByteArray (StateT Nat Option)

/-! ## Bits -/

/-- The next bit. -/
def bit : Reader Nat := do
  let data ← read
  let place ← get
  match data[place / 8]? with
  | none => failure
  | some b =>
    set (place + 1)
    pure (b.toNat / Nat.pow 2 (place % 8) % 2)

/-- The number of some bits, the low bit first. -/
def bits : Nat → Reader Nat
  | 0 => pure 0
  | n + 1 => do
    let low ← bit
    return low + 2 * (← bits n)

/-- Skip what is left of a byte. -/
def align : Reader Unit := modify fun place => (place + 7) / 8 * 8

/-! ## Codes -/

/-- A code: how many symbols have each number of bits, from one bit on, and the symbols in order. -/
structure Code where
  counts : List Nat
  symbols : Array Nat
deriving DecidableEq, Repr

namespace Code

/-- The most bits of a symbol. -/
def maxBits : Nat := 15

/-- The code whose symbols have the given numbers of bits. A symbol with none is not used. -/
def ofLengths (lengths : List Nat) : Code :=
  let sizes := (List.range maxBits).map (· + 1)
  ⟨sizes.map fun n => lengths.count n,
    (sizes.flatMap fun n => lengths.zipIdx.filterMap fun (l, i) => if l = n then some i else none).toArray⟩

/-- Read the rest of a symbol. `first` is the first word of the size that is looked at, `word` what has been
read, and `index` the number of shorter symbols. -/
def readFrom (symbols : Array Nat) (word first index : Nat) : List Nat → Reader Nat
  | [] => failure
  | count :: rest => do
    let word := 2 * word + (← bit)
    let first := 2 * first
    if word < first + count then
      match symbols[index + (word - first)]? with
      | some s => pure s
      | none => failure
    else readFrom symbols word (first + count) (index + count) rest

/-- Read a symbol. -/
def read (c : Code) : Reader Nat := readFrom c.symbols 0 0 0 c.counts

end Code

/-! ## Blocks -/

/-- The shortest length of a symbol and the number of bits that add to it, from symbol 257 on. -/
def lengths : List (Nat × Nat) :=
  [(3, 0), (4, 0), (5, 0), (6, 0), (7, 0), (8, 0), (9, 0), (10, 0), (11, 1), (13, 1), (15, 1), (17, 1),
   (19, 2), (23, 2), (27, 2), (31, 2), (35, 3), (43, 3), (51, 3), (59, 3), (67, 4), (83, 4), (99, 4),
   (115, 4), (131, 5), (163, 5), (195, 5), (227, 5), (258, 0)]

/-- The shortest distance of a symbol and the number of bits that add to it. -/
def distances : List (Nat × Nat) :=
  [(1, 0), (2, 0), (3, 0), (4, 0), (5, 1), (7, 1), (9, 2), (13, 2), (17, 3), (25, 3), (33, 4), (49, 4),
   (65, 5), (97, 5), (129, 6), (193, 6), (257, 7), (385, 7), (513, 8), (769, 8), (1025, 9), (1537, 9),
   (2049, 10), (3073, 10), (4097, 11), (6145, 11), (8193, 12), (12289, 12), (16385, 13), (24577, 13)]

/-- Read the value of a symbol of a table. -/
def valueIn (table : List (Nat × Nat)) (symbol : Nat) : Reader Nat :=
  match table[symbol]? with
  | none => failure
  | some (base, extra) => do return base + (← bits extra)

/-- Write bytes again that have come `distance` bytes before. -/
def repeatBytes (out : ByteArray) (distance : Nat) : Nat → ByteArray
  | 0 => out
  | n + 1 => repeatBytes (out.push (out[out.size - distance]?.getD 0)) distance n

/-- Read a block with codes, at most as many symbols as `fuel`. -/
def readSymbols (values away : Code) : Nat → ByteArray → Reader ByteArray
  | 0, _ => failure
  | fuel + 1, out => do
    let s ← values.read
    if s < 256 then readSymbols values away fuel (out.push (UInt8.ofNat s))
    else if s = 256 then pure out
    else
      let length ← valueIn lengths (s - 257)
      let distance ← valueIn distances (← away.read)
      if out.size < distance then failure
      readSymbols values away fuel (repeatBytes out distance length)

/-- Read a stored block. -/
def readStored (out : ByteArray) : Reader ByteArray := do
  align
  let length ← bits 16
  let _ ← bits 16
  (List.range length).foldlM (fun out _ => do return out.push (UInt8.ofNat (← bits 8))) out

/-- The codes of a block that does not bring its own. -/
def fixedCodes : Code × Code :=
  (.ofLengths (List.replicate 144 8 ++ List.replicate 112 9 ++ List.replicate 24 7 ++ List.replicate 8 8),
    .ofLengths (List.replicate 30 5))

/-- The order in which the sizes of a block's first code are given. -/
def sizeOrder : List Nat := [16, 17, 18, 0, 8, 7, 9, 6, 10, 5, 11, 4, 12, 3, 13, 2, 14, 1, 15]

/-- Read sizes until there are `count`, at most as many symbols as `fuel`. -/
def readSizes (c : Code) (count : Nat) : Nat → List Nat → Reader (List Nat)
  | 0, _ => failure
  | fuel + 1, sizes => do
    if sizes.length = count then return sizes
    if count < sizes.length then failure
    let s ← c.read
    if s < 16 then readSizes c count fuel (sizes ++ [s])
    else if s = 16 then
      match sizes.getLast? with
      | none => failure
      | some last =>
        let n ← bits 2
        readSizes c count fuel (sizes ++ List.replicate (n + 3) last)
    else if s = 17 then
      let n ← bits 3
      readSizes c count fuel (sizes ++ List.replicate (n + 3) 0)
    else
      let n ← bits 7
      readSizes c count fuel (sizes ++ List.replicate (n + 11) 0)

/-- Read the codes that a block brings. -/
def readCodes : Reader (Code × Code) := do
  let values := (← bits 5) + 257
  let away := (← bits 5) + 1
  let given ← (List.range ((← bits 4) + 4)).mapM fun _ => bits 3
  let sizeOf (symbol : Nat) : Nat := ((sizeOrder.zip given).lookup symbol).getD 0
  let sizes ← readSizes (.ofLengths ((List.range 19).map sizeOf)) (values + away) (values + away + 1) []
  pure (.ofLengths (sizes.take values), .ofLengths (sizes.drop values))

/-- Read blocks until the last one, at most as many as `fuel`. -/
def readBlocks : Nat → ByteArray → Reader ByteArray
  | 0, _ => failure
  | fuel + 1, out => do
    let isLast ← bit
    let size := 8 * (← read).size + 1
    let out ← match ← bits 2 with
      | 0 => readStored out
      | 1 => readSymbols fixedCodes.1 fixedCodes.2 size out
      | 2 => do
        let (values, away) ← readCodes
        readSymbols values away size out
      | _ => failure
    if isLast = 1 then pure out else readBlocks fuel out

/-- The content of compressed data. -/
def inflate? (data : ByteArray) : Option Bytes :=
  (((readBlocks (8 * data.size) .empty).run data).run 16).map fun (out, _) => out.toList

end CommitGate.Deflate
