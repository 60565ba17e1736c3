import CommitGate.Envelope
import CommitGate.Proofs.Except
import CommitGate.Proofs.Text.Hex
import Mathlib.Data.List.TakeWhile

/-! # What an envelope is read from

An envelope asks five things of a signature's text, one after the other, and each refusal belongs to the first
of them that fails:

* `Envelope.Armored`: the text begins with the header line and holds data;
* the data have a first packet, and that is the only one;
* `Envelope.IsSignature`: the packet is a signature;
* `Envelope.IsIssuer`: some statement of the signature names a key id. `Envelope.FirstIssuer` is what the first
  such statement names, and `Envelope.Spells` is how the envelope has it.

`Envelope.parse_exact` puts them together.
-/

namespace CommitGate.Envelope

open OpenPgp

/-! ## The conditions -/

/-- The text begins with the header line, after blanks, and its armor holds the data, of which there are
some. -/
structure Armored (input data : Bytes) : Prop where
  headed : ∃ blanks rest : List Char, (∀ c ∈ blanks, Blank.isBlank c = true) ∧
    input = Utf8.encode (blanks ++ (headerLine ++ rest))
  faultless : (Armor.read (some .signature) input).fault = none
  body : (Armor.read (some .signature) input).data = data
  nonempty : data ≠ []

/-- The packet is the signature. -/
def IsSignature (p : Packet) (s : Signature) : Prop := p.tag = .signature ∧ Signature.ofBody? p.body = some s

/-- The statement is an issuer with the length of a key id. -/
def IsIssuer (q : Subpacket) : Prop := q.tag = Subpacket.issuer ∧ q.value.length = 8

/-- The key id of the first issuer. The statements that the signature covers come before those that it does
not. -/
def FirstIssuer (s : Signature) (id : Bytes) : Prop :=
  ∃ before q after, s.statements = before ++ q :: after ∧ IsIssuer q ∧ q.value = id ∧
    ∀ earlier ∈ before, ¬IsIssuer earlier

/-- The text is a key id in sixteen digits. -/
structure Spells (text : String) (id : Bytes) : Prop where
  length : text.length = 16
  digits : ∀ c ∈ text.toList, c ∈ Hex.upperDigits
  value : Hex.decode? text.toList = some id

/-! ## The armor -/

/-- The header line stands behind blanks exactly if the text without them begins with it. -/
theorem headerLine_isPrefixOf_iff {text : List Char} :
    headerLine.isPrefixOf (Blank.trimStart text) = true ↔
      ∃ blanks rest, (∀ c ∈ blanks, Blank.isBlank c = true) ∧ text = blanks ++ (headerLine ++ rest) := by
  rw [List.isPrefixOf_iff_prefix, Blank.trimStart]
  constructor
  · rintro ⟨rest, cut⟩
    refine ⟨text.takeWhile Blank.isBlank, rest, fun c hc => ?_, ?_⟩
    · exact List.mem_takeWhile_imp hc
    · rw [cut, List.takeWhile_append_dropWhile]
  · rintro ⟨blanks, rest, all, rfl⟩
    -- the line itself does not begin with a blank
    have line : headerLine ++ rest = '-' :: (headerLine.tail ++ rest) := rfl
    rw [List.dropWhile_append_of_pos all, line, List.dropWhile_cons_of_neg (by decide), ← line]
    exact List.prefix_append _ _

theorem dearmor_eq_ok_iff {input data : Bytes} : dearmor input = .ok data ↔ Armored input data := by
  constructor
  · intro h
    rw [dearmor] at h
    split at h
    · cases h
    · rename_i text decoded
      split at h
      · cases h
      · rename_i headed
        dsimp only at h
        split at h
        · cases h
        · rename_i faultless
          split at h
          · cases h
          · rename_i nonempty
            cases h
            rw [Bool.not_eq_true', Bool.not_eq_false] at headed
            obtain ⟨blanks, rest, all, rfl⟩ := headerLine_isPrefixOf_iff.1 headed
            exact ⟨⟨blanks, rest, all, Utf8.decode_eq_ok_iff.1 decoded⟩, faultless, rfl,
              fun empty => nonempty (List.isEmpty_iff.2 empty)⟩
  · rintro ⟨⟨blanks, rest, all, bytes⟩, faultless, rfl, nonempty⟩
    have decoded := Utf8.decode_eq_ok_iff.2 bytes
    have headed := headerLine_isPrefixOf_iff.2 ⟨blanks, rest, all, rfl⟩
    have full := List.isEmpty_eq_false_iff.2 nonempty
    simp only [dearmor, decoded, headed, faultless, full]
    rfl

/-- Whatever is wrong with a text's armor is reported as that. -/
theorem exists_armor_of_dearmor {input : Bytes} {f : SignatureFault} (h : dearmor input = .error f) :
    ∃ reason, f = .armor reason := by
  rw [dearmor] at h
  split at h
  · cases h
    exact ⟨_, rfl⟩
  · split at h
    · cases h
      exact ⟨_, rfl⟩
    · dsimp only at h
      split at h
      · cases h
        exact ⟨_, rfl⟩
      · split at h
        · cases h
          exact ⟨_, rfl⟩
        · cases h

/-! ## The packet -/

theorem onlyPacket_eq_ok_iff {data : Bytes} {p : Packet} :
    onlyPacket data = .ok p ↔ Packets.ofBytes data = ⟨[p], none⟩ := by
  constructor
  · intro h
    unfold onlyPacket at h
    split at h
    · rename_i only
      cases h
      exact only
    all_goals cases h
  · intro only
    rw [onlyPacket, only]

/-- Without a packet the fault is that of the first packet. With packets there is another one, unless there
is one packet only. -/
theorem of_onlyPacket {data : Bytes} {f : SignatureFault} (h : onlyPacket data = .error f) :
    ((Packets.ofBytes data).packets = [] ∧ ∃ reason, f = .packet reason) ∨
      ((Packets.ofBytes data).packets ≠ [] ∧ (∀ p, Packets.ofBytes data ≠ ⟨[p], none⟩) ∧
        f = .unexpectedPackets) := by
  have notOnly : ∀ p, Packets.ofBytes data ≠ ⟨[p], none⟩ := by
    intro p only
    rw [onlyPacket_eq_ok_iff.2 only] at h
    cases h
  unfold onlyPacket at h
  split at h
  · cases h
  · rename_i none
    cases h
    exact .inl ⟨by rw [none], _, rfl⟩
  · rename_i none
    cases h
    exact .inl ⟨by rw [none], _, rfl⟩
  · rename_i _ faulty faultless
    cases h
    refine .inr ⟨fun empty => ?_, notOnly, rfl⟩
    cases hp : Packets.ofBytes data with
    | mk packets fault =>
      rw [hp] at empty
      subst empty
      cases fault with
      | none => exact faultless hp
      | some fault => exact faulty fault hp

theorem exists_packet_of_onlyPacket {data : Bytes} (none : (Packets.ofBytes data).packets = []) :
    ∃ reason, onlyPacket data = .error (.packet reason) := by
  cases h : onlyPacket data with
  | ok p =>
    rw [onlyPacket_eq_ok_iff.1 h] at none
    cases none
  | error f =>
    rcases of_onlyPacket h with ⟨-, reason, rfl⟩ | ⟨some, -⟩
    · exact ⟨reason, rfl⟩
    · exact absurd none some

theorem onlyPacket_eq_unexpectedPackets {data : Bytes} (some : (Packets.ofBytes data).packets ≠ [])
    (notOnly : ∀ p, Packets.ofBytes data ≠ ⟨[p], none⟩) : onlyPacket data = .error .unexpectedPackets := by
  cases h : onlyPacket data with
  | ok p => exact absurd (onlyPacket_eq_ok_iff.1 h) (notOnly p)
  | error f =>
    rcases of_onlyPacket h with ⟨none, -⟩ | ⟨-, -, rfl⟩
    · exact absurd none some
    · rfl

/-! ## The signature -/

theorem signatureOf_eq_ok_iff {p : Packet} {s : Signature} : signatureOf p = .ok s ↔ IsSignature p s := by
  unfold signatureOf IsSignature
  by_cases tag : p.tag = .signature
  · cases Signature.ofBody? p.body <;> simp [tag]
  · simp [tag]

theorem signatureOf_eq_error_iff {p : Packet} {f : SignatureFault} :
    signatureOf p = .error f ↔ (∀ s, ¬IsSignature p s) ∧ f = .notASignature := by
  simp only [← signatureOf_eq_ok_iff]
  unfold signatureOf
  split
  · simp
  · simp [eq_comm]

/-! ## The key id -/

instance (q : Subpacket) : Decidable (IsIssuer q) :=
  inferInstanceAs (Decidable (q.tag = Subpacket.issuer ∧ q.value.length = 8))

/-- The signature's key id is the value of the first statement that is an issuer. -/
theorem issuerKeyId?_eq (s : Signature) :
    s.issuerKeyId? = (s.statements.find? fun q => decide (IsIssuer q)).map (·.value) := by
  have same : (fun q : Subpacket => q.value.length == 8 && q.tag == Subpacket.issuer) =
      fun q => decide (IsIssuer q) := by
    funext q
    rw [Bool.eq_iff_iff, Bool.and_eq_true, beq_iff_eq, beq_iff_eq, decide_eq_true_eq, IsIssuer, and_comm]
  rw [Signature.issuerKeyId?, Signature.issuerKeyIds, Signature.valuesOf, List.filter_map, List.filter_filter,
    List.head?_map, List.head?_filter, ← same]
  rfl

theorem issuerKeyId?_eq_some_iff {s : Signature} {id : Bytes} :
    s.issuerKeyId? = some id ↔ FirstIssuer s id := by
  simp only [issuerKeyId?_eq, Option.map_eq_some_iff, List.find?_eq_some_iff_append, decide_eq_true_eq,
    Bool.not_eq_true', decide_eq_false_iff_not, FirstIssuer]
  constructor
  · rintro ⟨q, ⟨issuer, before, after, cut, others⟩, value⟩
    exact ⟨before, q, after, cut, issuer, value, others⟩
  · rintro ⟨before, q, after, cut, issuer, value, others⟩
    exact ⟨q, ⟨issuer, before, after, cut, others⟩, value⟩

theorem issuerKeyId?_eq_none_iff {s : Signature} :
    s.issuerKeyId? = none ↔ ∀ q ∈ s.statements, ¬IsIssuer q := by
  simp only [issuerKeyId?_eq, Option.map_eq_none_iff, List.find?_eq_none, decide_eq_true_eq]

/-- A first issuer has the length of a key id. -/
theorem FirstIssuer.length {s : Signature} {id : Bytes} (h : FirstIssuer s id) : id.length = 8 := by
  obtain ⟨before, q, after, -, issuer, rfl, -⟩ := h
  exact issuer.2

/-- A text spells a key id exactly if it is its digits, two for each of eight bytes. -/
theorem spells_iff {text : String} {id : Bytes} : Spells text id ↔ id.length = 8 ∧ text = Hex.upper id := by
  constructor
  · rintro ⟨length, digits, value⟩
    have written : text = Hex.upper id := Hex.eq_upper_iff.2 ⟨digits, value⟩
    rw [written, Hex.length_upper] at length
    exact ⟨by omega, written⟩
  · rintro ⟨length, written⟩
    obtain ⟨digits, value⟩ := Hex.eq_upper_iff.1 written
    refine ⟨?_, digits, value⟩
    rw [written, Hex.length_upper, length]

/-- Different key ids have different texts, and a key id has one text. -/
theorem Spells.eq_iff {text text' : String} {id id' : Bytes} (h : Spells text id) (h' : Spells text' id') :
    text = text' ↔ id = id' := by
  constructor
  · rintro rfl
    exact Option.some.inj (h.value.symm.trans h'.value)
  · rintro rfl
    rw [(spells_iff.1 h).2, (spells_iff.1 h').2]

/-- The signature's key id is written exactly if there is an issuer, and then it is the first one. -/
theorem keyIdText_eq_some_iff {s : Signature} {text : String} :
    s.issuerKeyId?.bind keyIdText? = some text ↔ ∃ id, FirstIssuer s id ∧ Spells text id := by
  simp only [Option.bind_eq_some_iff, issuerKeyId?_eq_some_iff]
  refine exists_congr fun id => and_congr_right fun first => ?_
  rw [keyIdText?, if_pos first.length, spells_iff, Option.some.injEq]
  exact ⟨fun h => ⟨first.length, h.symm⟩, fun h => h.2.symm⟩

theorem keyIdText_eq_none_iff {s : Signature} :
    s.issuerKeyId?.bind keyIdText? = none ↔ ∀ q ∈ s.statements, ¬IsIssuer q := by
  rw [← issuerKeyId?_eq_none_iff]
  cases h : s.issuerKeyId? with
  | none => exact iff_of_true rfl rfl
  | some id =>
    have length := (issuerKeyId?_eq_some_iff.1 h).length
    simp [keyIdText?, length]

/-! ## The envelope -/

section

variable {input : Bytes}

theorem parse_eq_ok_iff {e : Envelope} :
    parse input = .ok e ↔ e.raw = input ∧ ∃ data p s id, Armored input data ∧
      Packets.ofBytes data = ⟨[p], none⟩ ∧ IsSignature p s ∧ FirstIssuer s id ∧ Spells e.issuerKeyId id := by
  simp only [parse, bind_eq_ok_iff, dearmor_eq_ok_iff, onlyPacket_eq_ok_iff, signatureOf_eq_ok_iff]
  constructor
  · rintro ⟨data, armored, p, only, s, signature, h⟩
    split at h
    · rename_i text named
      cases h
      obtain ⟨id, first, spells⟩ := keyIdText_eq_some_iff.1 named
      exact ⟨rfl, data, p, s, id, armored, only, signature, first, spells⟩
    · cases h
  · rintro ⟨rfl, data, p, s, id, armored, only, signature, first, spells⟩
    have named := keyIdText_eq_some_iff.2 ⟨id, first, spells⟩
    refine ⟨data, armored, p, only, s, signature, ?_⟩
    rw [named]
    rfl

/-- A refusal comes from the first step that fails. -/
theorem parse_eq_error_iff {f : SignatureFault} :
    parse input = .error f ↔ dearmor input = .error f ∨ ∃ data, Armored input data ∧
      (onlyPacket data = .error f ∨ ∃ p, Packets.ofBytes data = ⟨[p], none⟩ ∧
        (((∀ s, ¬IsSignature p s) ∧ f = .notASignature) ∨
          ∃ s, IsSignature p s ∧ (∀ q ∈ s.statements, ¬IsIssuer q) ∧ f = .missingIssuer)) := by
  simp only [parse, bind_eq_error_iff, dearmor_eq_ok_iff, onlyPacket_eq_ok_iff, signatureOf_eq_ok_iff,
    signatureOf_eq_error_iff]
  -- only the last step, which writes the key id, is no chain
  refine or_congr_right (exists_congr fun data => and_congr_right fun _ => or_congr_right
    (exists_congr fun p => and_congr_right fun _ => or_congr_right
      (exists_congr fun s => and_congr_right fun _ => ?_)))
  rw [← keyIdText_eq_none_iff]
  cases s.issuerKeyId?.bind keyIdText? with
  | none =>
    constructor
    · intro h
      cases h
      exact ⟨rfl, rfl⟩
    · rintro ⟨-, rfl⟩
      rfl
  | some text =>
    constructor
    · intro h
      cases h
    · rintro ⟨h, -⟩
      cases h

/-- The conditions hold up to the one that the fault stands for. -/
inductive FailsAt (input : Bytes) : SignatureFault → Prop
  | armor {reason : String} (h : ∀ data, ¬Armored input data) : FailsAt input (.armor reason)
  | packet {reason : String} {data : Bytes} (armored : Armored input data)
      (h : (Packets.ofBytes data).packets = []) : FailsAt input (.packet reason)
  | unexpectedPackets {data : Bytes} (armored : Armored input data)
      (some : (Packets.ofBytes data).packets ≠ []) (h : ∀ p, Packets.ofBytes data ≠ ⟨[p], none⟩) :
    FailsAt input .unexpectedPackets
  | notASignature {data : Bytes} {p : Packet} (armored : Armored input data)
      (only : Packets.ofBytes data = ⟨[p], none⟩) (h : ∀ s, ¬IsSignature p s) : FailsAt input .notASignature
  | missingIssuer {data : Bytes} {p : Packet} {s : Signature} (armored : Armored input data)
      (only : Packets.ofBytes data = ⟨[p], none⟩) (signature : IsSignature p s)
      (h : ∀ q ∈ s.statements, ¬IsIssuer q) : FailsAt input .missingIssuer

/-- A refusal is for the first condition that does not hold. -/
theorem failsAt_of_parse {f : SignatureFault} (h : parse input = .error f) : FailsAt input f := by
  rcases parse_eq_error_iff.1 h with unarmored | ⟨data, armored, h | ⟨p, only, h⟩⟩
  · obtain ⟨reason, rfl⟩ := exists_armor_of_dearmor unarmored
    refine .armor fun data armored => ?_
    rw [dearmor_eq_ok_iff.2 armored] at unarmored
    cases unarmored
  · rcases of_onlyPacket h with ⟨none, reason, rfl⟩ | ⟨some, notOnly, rfl⟩
    · exact .packet armored none
    · exact .unexpectedPackets armored some notOnly
  · rcases h with ⟨other, rfl⟩ | ⟨s, signature, nameless, rfl⟩
    · exact .notASignature armored only other
    · exact .missingIssuer armored only signature nameless

theorem exists_armor_iff :
    (∃ reason, parse input = .error (.armor reason)) ↔ ∀ data, ¬Armored input data := by
  constructor
  · rintro ⟨reason, h⟩
    cases failsAt_of_parse h with
    | armor h => exact h
  · intro unarmored
    cases h : dearmor input with
    | ok data => exact absurd (dearmor_eq_ok_iff.1 h) (unarmored data)
    | error f =>
      obtain ⟨reason, rfl⟩ := exists_armor_of_dearmor h
      exact ⟨reason, parse_eq_error_iff.2 (.inl h)⟩

theorem exists_packet_iff :
    (∃ reason, parse input = .error (.packet reason)) ↔
      ∃ data, Armored input data ∧ (Packets.ofBytes data).packets = [] := by
  constructor
  · rintro ⟨reason, h⟩
    cases failsAt_of_parse h with
    | packet armored h => exact ⟨_, armored, h⟩
  · rintro ⟨data, armored, none⟩
    obtain ⟨reason, h⟩ := exists_packet_of_onlyPacket none
    exact ⟨reason, parse_eq_error_iff.2 (.inr ⟨data, armored, .inl h⟩)⟩

theorem eq_unexpectedPackets_iff :
    parse input = .error .unexpectedPackets ↔ ∃ data, Armored input data ∧
      (Packets.ofBytes data).packets ≠ [] ∧ ∀ p, Packets.ofBytes data ≠ ⟨[p], none⟩ := by
  constructor
  · intro h
    cases failsAt_of_parse h with
    | unexpectedPackets armored some h => exact ⟨_, armored, some, h⟩
  · rintro ⟨data, armored, some, notOnly⟩
    exact parse_eq_error_iff.2 (.inr ⟨data, armored, .inl (onlyPacket_eq_unexpectedPackets some notOnly)⟩)

theorem eq_notASignature_iff :
    parse input = .error .notASignature ↔ ∃ data p, Armored input data ∧
      Packets.ofBytes data = ⟨[p], none⟩ ∧ ∀ s, ¬IsSignature p s := by
  constructor
  · intro h
    cases failsAt_of_parse h with
    | notASignature armored only h => exact ⟨_, _, armored, only, h⟩
  · rintro ⟨data, p, armored, only, other⟩
    exact parse_eq_error_iff.2 (.inr ⟨data, armored, .inr ⟨p, only, .inl ⟨other, rfl⟩⟩⟩)

theorem eq_missingIssuer_iff :
    parse input = .error .missingIssuer ↔ ∃ data p s, Armored input data ∧
      Packets.ofBytes data = ⟨[p], none⟩ ∧ IsSignature p s ∧ ∀ q ∈ s.statements, ¬IsIssuer q := by
  constructor
  · intro h
    cases failsAt_of_parse h with
    | missingIssuer armored only signature h => exact ⟨_, _, _, armored, only, signature, h⟩
  · rintro ⟨data, p, s, armored, only, signature, nameless⟩
    exact parse_eq_error_iff.2 (.inr ⟨data, armored, .inr ⟨p, only, .inr ⟨s, signature, nameless, rfl⟩⟩⟩)

/-- An envelope is read exactly if the only packet is a signature with an issuer. -/
theorem exists_parse_iff :
    (∃ e, parse input = .ok e) ↔ ∃ data p s, Armored input data ∧ Packets.ofBytes data = ⟨[p], none⟩ ∧
      IsSignature p s ∧ ∃ q ∈ s.statements, IsIssuer q := by
  simp only [parse_eq_ok_iff]
  constructor
  · rintro ⟨e, -, data, p, s, id, armored, only, signature, ⟨before, q, after, cut, issuer, -⟩, -⟩
    exact ⟨data, p, s, armored, only, signature, q, cut ▸ List.mem_append_right _ List.mem_cons_self, issuer⟩
  · rintro ⟨data, p, s, armored, only, signature, q, hq, issuer⟩
    cases h : s.issuerKeyId? with
    | none => exact absurd issuer (issuerKeyId?_eq_none_iff.1 h q hq)
    | some id =>
      have first := issuerKeyId?_eq_some_iff.1 h
      exact ⟨⟨Hex.upper id, input⟩, rfl, data, p, s, id, armored, only, signature, first,
        spells_iff.2 ⟨first.length, rfl⟩⟩

end

/-- An envelope is read exactly if the text is an armor under its header line, with a single packet that is a
signature with an issuer. Then it has the text and the first issuer, in sixteen digits, which are different for
different issuers. If no envelope is read, the fault is that of the first condition that does not hold. -/
theorem parse_exact (input : Bytes) :
    (∀ e, parse input = .ok e ↔ e.raw = input ∧ ∃ data p s id, Armored input data ∧
      Packets.ofBytes data = ⟨[p], none⟩ ∧ IsSignature p s ∧ FirstIssuer s id ∧
      Spells e.issuerKeyId id) ∧
    ((∃ e, parse input = .ok e) ↔ ∃ data p s, Armored input data ∧
      Packets.ofBytes data = ⟨[p], none⟩ ∧ IsSignature p s ∧ ∃ q ∈ s.statements, IsIssuer q) ∧
    ((∃ reason, parse input = .error (.armor reason)) ↔ ∀ data, ¬Armored input data) ∧
    ((∃ reason, parse input = .error (.packet reason)) ↔
      ∃ data, Armored input data ∧ (Packets.ofBytes data).packets = []) ∧
    (parse input = .error .unexpectedPackets ↔ ∃ data, Armored input data ∧
      (Packets.ofBytes data).packets ≠ [] ∧ ∀ p, Packets.ofBytes data ≠ ⟨[p], none⟩) ∧
    (parse input = .error .notASignature ↔ ∃ data p, Armored input data ∧
      Packets.ofBytes data = ⟨[p], none⟩ ∧ ∀ s, ¬IsSignature p s) ∧
    (parse input = .error .missingIssuer ↔ ∃ data p s, Armored input data ∧
      Packets.ofBytes data = ⟨[p], none⟩ ∧ IsSignature p s ∧ ∀ q ∈ s.statements, ¬IsIssuer q) ∧
    ∀ text text' id id', Spells text id → Spells text' id' → (text = text' ↔ id = id') :=
  ⟨fun _ => parse_eq_ok_iff, exists_parse_iff, exists_armor_iff, exists_packet_iff, eq_unexpectedPackets_iff,
    eq_notASignature_iff, eq_missingIssuer_iff, fun _ _ _ _ h h' => h.eq_iff h'⟩

/-- Leading zeros are kept. -/
example : keyIdText? [0, 0, 0, 0, 0, 0, 0x0A, 0x1F] = some "0000000000000A1F" := by decide +kernel

end CommitGate.Envelope
