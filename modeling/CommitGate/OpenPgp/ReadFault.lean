import CommitGate.Text.Base64

/-! # Reading faults

* `ReadFault` lists why armored or binary OpenPGP data cannot be read to its end.
-/

namespace CommitGate.OpenPgp

/-- Why data cannot be read to its end. -/
inductive ReadFault where
  /-- The data end where more is needed, or hold no armor at all. -/
  | endOfInput
  /-- The armor does not end with the footer that belongs to its header. -/
  | armorEnd
  /-- The lines of the armor do not start with the same quotation mark. -/
  | quoting
  /-- The armor's Base64 is not canonical. -/
  | base64 (error : Base64.Error)
  /-- A packet is shorter than its header says. -/
  | truncated
  /-- A packet starts with a byte that no header starts with. -/
  | noHeader (byte : UInt8)
  /-- A packet's header gives a tag that data cannot start with. -/
  | tag (name : String)
  /-- A packet's header gives a length that its tag does not admit. -/
  | length (detail : String)
deriving DecidableEq, Repr

/-- The eight binary digits of a byte. -/
def bits (b : UInt8) : String :=
  String.ofList ((List.range 8).map fun i => if b.toNat / Nat.pow 2 (7 - i) % 2 = 1 then '1' else '0')

/-- The text of a reading fault. -/
def ReadFault.message : ReadFault → String
  | .endOfInput => "unexpected EOF"
  | .armorEnd => "Invalid ASCII Armor footer."
  | .quoting => "Inconsistent quoting of armored data"
  | .base64 error => error.message
  | .truncated => "Malformed packet: Truncated packet"
  | .noHeader byte =>
    "Malformed packet: Malformed CTB: MSB of ptag (0b" ++ bits byte ++ ") not set"
      ++ (if byte == 0x2D then " (ptag is a dash, perhaps this is an ASCII-armor encoded message)"
        else "") ++ "."
  | .tag name => "Unsupported packet type.  Tag: " ++ name
  | .length detail => "Malformed packet: " ++ detail

end CommitGate.OpenPgp
