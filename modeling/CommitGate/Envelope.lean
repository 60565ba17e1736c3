import CommitGate.Fault
import CommitGate.OpenPgp.Packet
import CommitGate.OpenPgp.Signature
import CommitGate.Text.Hex

/-! # Signature envelopes

A commit's signature is an armored text that holds one signature packet and nothing else.

* `Envelope.parse` accepts such a text and names the key id that the signature names.
* `keyIdText?` writes a key id of eight bytes.

The key id is not verified here. An issuer that is only given by its fingerprint does not count.
-/

namespace CommitGate

open OpenPgp

/-- A key id of eight bytes as sixteen digits. -/
def keyIdText? (id : Bytes) : Option String := if id.length = 8 then some (Hex.upper id) else none

/-- A signature that has been read, with the text it was read from. -/
structure Envelope where
  issuerKeyId : String
  raw : Bytes
deriving DecidableEq, Repr

namespace Envelope

/-- What a signature's text starts with, after blanks. -/
def headerLine : List Char := "-----BEGIN PGP SIGNATURE-----".toList

/-- The data in a signature's armor. -/
def dearmor (armored : Bytes) : Except SignatureFault Bytes := do
  match Utf8.decode armored with
  | .error e => throw (.armor ("not valid UTF-8: " ++ e.message))
  | .ok text =>
    if !headerLine.isPrefixOf (Blank.trimStart text) then
      throw (.armor "missing signature armor header")
  let contents := Armor.read (some .signature) armored
  match contents.fault with
  | some fault => throw (.armor fault.message)
  | none => if contents.data.isEmpty then throw (.armor "empty armor body") else pure contents.data

/-- The only packet of some data. -/
def onlyPacket (data : Bytes) : Except SignatureFault Packet :=
  match Packets.ofBytes data with
  | ⟨[p], none⟩ => .ok p
  | ⟨[], some fault⟩ => .error (.packet fault.message)
  | ⟨[], none⟩ => .error (.packet "no packets found")
  | _ => .error .unexpectedPackets

/-- The signature in a packet. -/
def signatureOf (p : Packet) : Except SignatureFault Signature :=
  match if p.tag = .signature then Signature.ofBody? p.body else none with
  | some s => .ok s
  | none => .error .notASignature

/-- Read a signature's text. -/
def parse (armored : Bytes) : Except SignatureFault Envelope := do
  let packet ← onlyPacket (← dearmor armored)
  let signature ← signatureOf packet
  match signature.issuerKeyId?.bind keyIdText? with
  | some id => pure { issuerKeyId := id, raw := armored }
  | none => throw .missingIssuer

end Envelope

end CommitGate
