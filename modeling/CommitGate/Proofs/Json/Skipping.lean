import CommitGate.Proofs.Json.Decoding
import CommitGate.Proofs.Json.Numbers
import CommitGate.Proofs.Json.Strings

/-! # Passing over documents

Values of members without a meaning are passed over. One reader does so for all of them, with the brackets that
are open on a stack; it takes the documents of the grammar and nothing else.

* `Decode.skipValue_spelled`: a document is passed over up to its last sign;
* `Decode.passesDocuments`, `Decode.of_skipValue`: what has been passed over was a document.
-/

namespace CommitGate.Json

open Reader (Blank)

namespace Reader

/-! ## Spaces -/

/-- Every text begins with spaces, up to its end or to a sign. -/
theorem exists_blank (bs : Bytes) :
    Blank bs ∨ ∃ blank b more, Blank blank ∧ isSpace b = false ∧ bs = blank ++ b :: more := by
  induction bs with
  | nil => exact .inl Blank.nil
  | cons b bs ih =>
    cases space : isSpace b with
    | false => exact .inr ⟨[], b, bs, Blank.nil, space, rfl⟩
    | true =>
      have more : ∀ {blank : Bytes}, Blank blank → Blank (b :: blank) := fun h =>
        List.forall_mem_cons.2 ⟨space, h⟩
      rcases ih with blank | ⟨blank, b', rest, isBlank, sign, rfl⟩
      · exact .inl (more blank)
      · exact .inr ⟨b :: blank, b', rest, more isBlank, sign, rfl⟩

theorem Blank.append {a b : Bytes} (ha : Blank a) (hb : Blank b) : Blank (a ++ b) := fun x hx =>
  (List.mem_append.1 hx).elim (ha x) (hb x)

theorem Blank.ascii {blank : Bytes} (h : Blank blank) : ∀ b ∈ blank, b.toNat < 0x80 := by
  have all : ∀ b, isSpace b = true → b.toNat < 0x80 := forall_byte (by decide +kernel)
  exact fun b hb => all b (h b hb)

section

variable {n : Nat} {bs : Bytes} {c : Cursor}

/-- The sign that is read next stands behind spaces. -/
theorem of_peekToken {x : Option UInt8} (h : peekToken ⟨n, bs⟩ = (.ok x, c)) :
    (x = none ∧ Blank bs ∧ c.rest = []) ∨
      ∃ blank b more, x = some b ∧ Blank blank ∧ isSpace b = false ∧ bs = blank ++ b :: more ∧ c.rest = b :: more := by
  rcases exists_blank bs with blank | ⟨blank, b, more, isBlank, sign, rfl⟩
  · rw [peekToken_end n blank] at h
    cases h
    exact .inl ⟨rfl, blank, rfl⟩
  · rw [peekToken_cons n isBlank sign] at h
    cases h
    exact .inr ⟨blank, b, more, rfl, isBlank, sign, rfl, rfl⟩

theorem of_peekValue {b : UInt8} (h : peekValue ⟨n, bs⟩ = (.ok b, c)) :
    ∃ blank more, Blank blank ∧ isSpace b = false ∧ bs = blank ++ b :: more ∧ c.rest = b :: more := by
  unfold peekValue at h
  obtain ⟨x, c', peeked, h⟩ := of_bind h
  rcases of_peekToken peeked with ⟨rfl, -, -⟩ | ⟨blank, b', more, rfl, isBlank, sign, parts, left⟩
  · cases h
  · cases h
    exact ⟨blank, more, isBlank, sign, parts, left⟩

/-- The letters of a word have been read. -/
theorem of_word {letters : List Char} {u : Unit} (small : ∀ x ∈ letters, x.toNat < 256)
    (h : word letters ⟨n, bs⟩ = (.ok u, c)) : bs = letters.map (fun x => UInt8.ofNat x.toNat) ++ c.rest := by
  induction letters generalizing n bs with
  | nil =>
    cases h
    rfl
  | cons x letters ih =>
    obtain ⟨first, others⟩ := List.forall_mem_cons.1 small
    cases bs with
    | nil => cases h
    | cons b bs =>
      rw [word, bind_of_ok (show next ⟨n, b :: bs⟩ = (.ok (some b), ⟨n + 1, bs⟩) from rfl)] at h
      dsimp only at h
      split at h
      · rename_i same
        rw [ih others h, List.map_cons, List.cons_append, ← same, UInt8.ofNat_toNat]
      · cases h

end

/-- The letters of a word have been passed over behind the first one. -/
theorem of_skipWord {α : Type} {letters : String} {b : UInt8} {n : Nat} {more : Bytes} {x y : α} {c : Cursor}
    (text : IsText (b :: more)) (first : b.toNat < 0x80) (small : ∀ x ∈ letters.toList, x.toNat < 0x80)
    (h : (do skip; word letters.toList; pure x : Reader α) ⟨n, b :: more⟩ = (.ok y, c)) :
    IsText c.rest ∧ more = Bytes.ofAscii letters ++ c.rest := by
  rw [bind_of_ok (skip_cons n)] at h
  obtain ⟨_, c', read, same⟩ := of_bind h
  obtain ⟨-, rfl⟩ := of_pure same
  obtain rfl := of_word (fun x hx => Nat.lt_trans (small x hx) (by decide)) read
  refine ⟨(text.of_cons first).of_ascii fun y hy => ?_, rfl⟩
  obtain ⟨x, hx, rfl⟩ := List.mem_map.1 hy
  rw [Utf8.toNat_ofNat_of_lt (Nat.lt_trans (small x hx) (by decide))]
  exact small x hx

end Reader

/-- Spaces behind what stands before an item stand before the item. -/
theorem Leads.append {first : Bool} {lead blank : Bytes} (h : Leads first lead) (isBlank : Blank blank) :
    Leads first (lead ++ blank) := by
  cases first with
  | true => exact Blank.append h isBlank
  | false =>
    obtain ⟨a, b, ha, hb, rfl⟩ := h
    exact ⟨a, b ++ blank, ha, hb.append isBlank, by simp⟩

theorem Leads.ascii {first : Bool} {lead : Bytes} (h : Leads first lead) : ∀ b ∈ lead, b.toNat < 0x80 := by
  cases first with
  | true => exact Blank.ascii h
  | false =>
    obtain ⟨x, y, hx, hy, rfl⟩ := h
    intro z hz
    rcases List.mem_append.1 hz with hz | hz
    · exact hx.ascii z hz
    · exact List.forall_mem_cons.2 ⟨by decide, hy.ascii⟩ z hz

/-- Neither array nor object. -/
def Doc.IsScalar : Doc → Prop
  | .array _ => False
  | .object _ => False
  | _ => True

namespace Decode

open Reader
open Utf8 (encode)

/-! ## The parts of one step -/

/-- The sign that closes a bracket. -/
def Frame.closing : Frame → UInt8
  | .array => 0x5D
  | .object => 0x7D

/-- A value that is neither array nor object. -/
def skipScalar (b : UInt8) : Reader Unit :=
  if b == 0x22 then do
    skip
    skipString
  else if b == 0x2D then do
    skip
    skipNumber
  else if isDigit b then skipNumber
  else discard (scalar b)

/-- What is left to do behind a value within open brackets. -/
def leave (fuel : Nat) : List Frame → Reader Unit
  | [] => pure ()
  | frame :: frames => skipAfter fuel true frame frames

section

variable {fuel n : Nat} {frame : Frame} {frames : List Frame} {blank more : Bytes} {b : UInt8}

theorem skipFrom_cons (fuel n : Nat) (frames : List Frame) (more : Bytes) (h : Blank blank) (sign : isSpace b = false) :
    ∃ m, skipFrom (fuel + 1) frames ⟨n, blank ++ b :: more⟩ =
      if b = 0x5B then skipAfter fuel false .array frames ⟨m + 1, more⟩
      else if b = 0x7B then skipAfter fuel false .object frames ⟨m + 1, more⟩
      else (skipScalar b >>= fun _ => leave fuel frames) ⟨m, b :: more⟩ := by
  refine ⟨n + blank.length, ?_⟩
  unfold skipFrom
  rw [bind_of_ok (peekValue_cons n h sign)]
  simp only [beq_iff_eq]
  split
  · exact bind_of_ok (skip_cons _)
  · split
    · exact bind_of_ok (skip_cons _)
    · unfold skipScalar
      simp only [beq_iff_eq]
      split
      · rw [bind_assoc]
        cases frames <;> rfl
      · split
        · rw [bind_assoc]
          cases frames <;> rfl
        · split
          · cases frames <;> rfl
          · cases frames <;> rfl

theorem skipAfter_cons (fuel n : Nat) (frame : Frame) (frames : List Frame) (more : Bytes) (afterItem : Bool)
    (h : Blank blank) (sign : isSpace b = false) :
    ∃ m, skipAfter (fuel + 1) afterItem frame frames ⟨n, blank ++ b :: more⟩ =
      if b = 0x2C ∧ afterItem = true then skipItem fuel frame frames ⟨m + 1, more⟩
      else if b = frame.closing then leave fuel frames ⟨m + 1, more⟩
      else if afterItem = true then
        failNext (match frame with
          | .array => .expectedArrayComma
          | .object => .expectedObjectComma) ⟨m, b :: more⟩
      else skipItem fuel frame frames ⟨m, b :: more⟩ := by
  refine ⟨n + blank.length, ?_⟩
  unfold skipAfter
  rw [bind_of_ok (peekToken_cons n h sign)]
  cases frame <;> cases frames <;> simp only [Bool.and_eq_true, beq_iff_eq, Frame.closing, leave]
  all_goals
    split
    · exact bind_of_ok (skip_cons _)
    · split
      · exact bind_of_ok (skip_cons _)
      · split <;> rfl

theorem skipItem_array (c : Cursor) : skipItem (fuel + 1) .array frames c = skipFrom fuel (.array :: frames) c := by
  unfold skipItem
  rfl

theorem skipItem_object (c : Cursor) :
    skipItem (fuel + 1) .object frames c = (skipName >>= fun _ => skipFrom fuel (.object :: frames)) c := by
  unfold skipItem
  rfl

end

/-! ## Documents are passed over -/

theorem follows_blank {blank : Bytes} {b : UInt8} (h : Blank blank) (sign : b = 0x2C ∨ b = 0x5D ∨ b = 0x7D)
    (rest : Bytes) : Follows (blank ++ b :: rest) := by
  cases blank with
  | nil =>
    intro x hx
    exact .inr (Option.some.inj hx ▸ sign)
  | cons y blank =>
    intro x hx
    exact .inl (Option.some.inj hx ▸ h y (List.mem_cons_self ..))

/-- What stands behind an item may stand behind a number. -/
theorem follows_items {items : List Doc} {text : Bytes} (h : Doc.AreSpelled false items text) (rest : Bytes) :
    Follows (text ++ 0x5D :: rest) := by
  cases items with
  | nil => exact follows_blank h (.inr (.inl rfl)) rest
  | cons d items =>
    obtain ⟨_, own, others, ⟨a, b, blank, -, rfl⟩, -, -, rfl⟩ := h
    simp only [List.append_assoc, List.cons_append]
    exact follows_blank blank (.inl rfl) _

theorem follows_members {members : List (List Piece × Doc)} {text : Bytes}
    (h : Doc.MembersAreSpelled false members text) (rest : Bytes) : Follows (text ++ 0x7D :: rest) := by
  cases members with
  | nil => exact follows_blank h (.inr (.inr rfl)) rest
  | cons m members =>
    obtain ⟨_, a, b, own, others, ⟨x, y, blank, -, rfl⟩, -, -, -, -, -, rfl⟩ := h
    simp only [List.append_assoc, List.cons_append]
    exact follows_blank blank (.inl rfl) _

theorem skipScalar_spelled {d : Doc} (scalar : d.IsScalar) {own rest : Bytes} (spelled : d.IsSpelled own)
    (follows : Follows rest) : ∃ b more, own = b :: more ∧ isSpace b = false ∧ b ≠ 0x5B ∧ b ≠ 0x7B ∧
      ∀ n, Ends (skipScalar b ⟨n, own ++ rest⟩) (some ()) rest := by
  have word : ∀ (letters : String) (n : Nat), (∀ x ∈ letters.toList, x.toNat < 256) → ∀ (b : UInt8) (v : Value),
      Ends ((do skip; Reader.word letters.toList; pure (some v) : Reader (Option Value))
        ⟨n, b :: (Bytes.ofAscii letters ++ rest)⟩) (some (some v)) rest := by
    intro letters n small b v
    obtain ⟨m, read⟩ := word_ofAscii letters small (n + 1) rest
    exact ⟨m, (bind_of_ok (skip_cons n)).trans (bind_of_ok read)⟩
  cases d with
  | null =>
    obtain rfl : own = _ := spelled
    refine ⟨0x6E, Bytes.ofAscii "ull", rfl, rfl, by decide, by decide, fun n => ?_⟩
    obtain ⟨m, read⟩ := word "ull" n (forall_mem_of_all (by decide)) 0x6E .null
    exact ⟨m, discard_of_ok read⟩
  | bool truth =>
    cases truth with
    | true =>
      obtain rfl : own = _ := spelled
      refine ⟨0x74, Bytes.ofAscii "rue", rfl, rfl, by decide, by decide, fun n => ?_⟩
      obtain ⟨m, read⟩ := word "rue" n (forall_mem_of_all (by decide)) 0x74 (.bool true)
      exact ⟨m, discard_of_ok read⟩
    | false =>
      obtain rfl : own = _ := spelled
      refine ⟨0x66, Bytes.ofAscii "alse", rfl, rfl, by decide, by decide, fun n => ?_⟩
      obtain ⟨m, read⟩ := word "alse" n (forall_mem_of_all (by decide)) 0x66 (.bool false)
      exact ⟨m, discard_of_ok read⟩
  | number text =>
    obtain ⟨number, rfl⟩ := spelled
    rcases number with number | ⟨own, number, rfl⟩
    · have read := skipNumber_number number follows
      obtain ⟨_, _, _, ⟨⟨some, digits⟩, -⟩, -, -, rfl⟩ := number
      obtain ⟨b, more, rfl⟩ := List.exists_cons_of_ne_nil some
      have digit := digits b (List.mem_cons_self ..)
      obtain ⟨space, -, bracket, brace, quote, minus, -⟩ := Doc.sign_of_isDigit digit
      refine ⟨b, _, rfl, space, bracket, brace, fun n => ?_⟩
      rw [skipScalar, beq_false_of_ne quote, beq_false_of_ne minus, show Reader.isDigit b = true from digit]
      exact read n
    · refine ⟨0x2D, own, rfl, rfl, by decide, by decide, fun n => ?_⟩
      obtain ⟨m, read⟩ := skipNumber_number number follows (n + 1)
      exact ⟨m, (bind_of_ok (skip_cons n)).trans read⟩
  | string ps =>
    obtain ⟨valid, rfl⟩ := spelled
    refine ⟨0x22, _, rfl, rfl, by decide, by decide, fun n => ?_⟩
    obtain ⟨m, read⟩ := skipString_pieces valid (n + 1) rest
    rw [Doc.encode_quoted]
    exact ⟨m, (bind_of_ok (skip_cons n)).trans read⟩
  | array items => exact scalar.elim
  | object members => exact scalar.elim

/-- The name of a member is passed over, and the colon behind it. -/
theorem skipName_spelled {ps : List Piece} (valid : ∀ p ∈ ps, p.IsValid) {blank a : Bytes} (isBlank : Blank blank)
    (ha : Blank a) (n : Nat) (rest : Bytes) :
    Ends (skipName ⟨n, blank ++ (encode (Doc.quoted ps) ++ (a ++ 0x3A :: rest))⟩) (some ()) rest := by
  obtain ⟨m, passed⟩ := skipString_pieces valid (n + blank.length + 1) (a ++ 0x3A :: rest)
  unfold skipName
  rw [Doc.encode_quoted, bind_of_ok (peekToken_cons n isBlank rfl)]
  change Ends ((skip >>= _) _) _ _
  rw [bind_of_ok (skip_cons _)]
  dsimp only
  rw [bind_of_ok passed, bind_of_ok (peekToken_cons m ha rfl)]
  exact ⟨_, skip_cons _⟩

theorem skipFrom_scalar {d : Doc} (scalar : d.IsScalar) {own : Bytes} (spelled : d.IsSpelled own) :
    ∃ cost, cost + 2 ≤ 4 * own.length ∧ ∀ fuel frames blank rest n, Blank blank → Follows rest →
      ∃ m, skipFrom (fuel + cost) frames ⟨n, blank ++ (own ++ rest)⟩ = leave fuel frames ⟨m, rest⟩ := by
  obtain ⟨b, more, begins, -⟩ := spelled.exists_sign
  -- one step, whatever the value
  refine ⟨1, by rw [begins, List.length_cons]; omega, fun fuel frames blank rest n isBlank follows => ?_⟩
  obtain ⟨b, more, begins, sign, bracket, brace, passed⟩ := skipScalar_spelled scalar spelled follows
  obtain ⟨m, first⟩ := skipFrom_cons fuel n frames (more ++ rest) isBlank sign
  obtain ⟨m', read⟩ := passed m
  rw [begins, List.cons_append] at read ⊢
  rw [if_neg bracket, if_neg brace, bind_of_ok read] at first
  exact ⟨m', first⟩

mutual

/-- A document is passed over at a cost within its length, and then what the brackets around it ask for is done. -/
theorem skipFrom_spelled (d : Doc) {own : Bytes} (spelled : d.IsSpelled own) :
    ∃ cost, cost + 2 ≤ 4 * own.length ∧ ∀ fuel frames blank rest n, Blank blank → Follows rest →
      ∃ m, skipFrom (fuel + cost) frames ⟨n, blank ++ (own ++ rest)⟩ = leave fuel frames ⟨m, rest⟩ := by
  match d with
  | .array items =>
    obtain ⟨inner, within, rfl⟩ := spelled
    obtain ⟨cost, le, passed⟩ := skipAfter_items true items within
    refine ⟨cost + 2, by simp only [List.length_cons, List.length_append, List.length_nil]; omega, ?_⟩
    intro fuel frames blank rest n isBlank _
    obtain ⟨m, first⟩ := skipFrom_cons (fuel + cost + 1) n frames (inner ++ 0x5D :: rest) isBlank
      (show isSpace 0x5B = false from rfl)
    obtain ⟨m', others⟩ := passed fuel frames rest (m + 1)
    refine ⟨m', .trans ?_ others⟩
    rw [if_pos rfl] at first
    rw [show fuel + (cost + 2) = fuel + cost + 1 + 1 from rfl]
    simpa using first
  | .object members =>
    obtain ⟨inner, within, rfl⟩ := spelled
    obtain ⟨cost, le, passed⟩ := skipAfter_members true members within
    refine ⟨cost + 2, by simp only [List.length_cons, List.length_append, List.length_nil]; omega, ?_⟩
    intro fuel frames blank rest n isBlank _
    obtain ⟨m, first⟩ := skipFrom_cons (fuel + cost + 1) n frames (inner ++ 0x7D :: rest) isBlank
      (show isSpace 0x7B = false from rfl)
    obtain ⟨m', others⟩ := passed fuel frames rest (m + 1)
    refine ⟨m', .trans ?_ others⟩
    rw [if_neg (by decide), if_pos rfl] at first
    rw [show fuel + (cost + 2) = fuel + cost + 1 + 1 from rfl]
    simpa using first
  | .null => exact skipFrom_scalar (d := .null) trivial spelled
  | .bool truth => exact skipFrom_scalar (d := .bool truth) trivial spelled
  | .number text => exact skipFrom_scalar (d := .number text) trivial spelled
  | .string ps => exact skipFrom_scalar (d := .string ps) trivial spelled

/-- The items of an array are passed over, and the bracket behind them. -/
theorem skipAfter_items (first : Bool) (items : List Doc) {text : Bytes} (spelled : Doc.AreSpelled first items text) :
    ∃ cost ≤ 4 * text.length, ∀ fuel frames rest n,
      ∃ m, skipAfter (fuel + cost + 1) (!first) .array frames ⟨n, text ++ 0x5D :: rest⟩ =
        leave fuel frames ⟨m, rest⟩ := by
  match items with
  | [] =>
    refine ⟨0, Nat.zero_le _, fun fuel frames rest n => ?_⟩
    obtain ⟨m, ended⟩ := skipAfter_cons fuel n .array frames rest (!first) spelled
      (show isSpace 0x5D = false from rfl)
    rw [if_neg (fun h => absurd h.1 (by decide)), if_pos (show 0x5D = Frame.closing .array from rfl)] at ended
    exact ⟨m + 1, ended⟩
  | d :: items =>
    obtain ⟨lead, own, others, leads, ownSpelled, otherSpelled, rfl⟩ := spelled
    obtain ⟨cost, le, passed⟩ := skipFrom_spelled d ownSpelled
    obtain ⟨cost', le', passed'⟩ := skipAfter_items false items otherSpelled
    refine ⟨cost' + 1 + cost + 1, by simp only [List.length_append]; omega, fun fuel frames rest n => ?_⟩
    have follows := follows_items otherSpelled rest
    obtain ⟨b, more, begins, sign⟩ := ownSpelled.exists_sign
    -- the item, and then what follows it
    have item : ∀ blank m, Blank blank → ∃ m', skipItem (fuel + (cost' + 1 + cost) + 1) .array frames
        ⟨m, blank ++ (own ++ (others ++ 0x5D :: rest))⟩ = leave fuel frames ⟨m', rest⟩ := by
      intro blank m isBlank
      obtain ⟨m₁, h₁⟩ := passed (fuel + cost' + 1) (.array :: frames) blank _ m isBlank follows
      obtain ⟨m₂, h₂⟩ := passed' fuel frames rest m₁
      refine ⟨m₂, (skipItem_array _).trans (.trans ?_ h₂)⟩
      rw [show fuel + (cost' + 1 + cost) = fuel + cost' + 1 + cost by omega]
      exact h₁
    simp only [List.append_assoc, ← Nat.add_assoc] at item ⊢
    cases first with
    | true =>
      obtain ⟨m, entered⟩ := skipAfter_cons (fuel + cost' + 1 + cost + 1) n .array frames
        (more ++ (others ++ 0x5D :: rest)) false leads sign.sign.1
      obtain ⟨m', read⟩ := item [] m Blank.nil
      rw [if_neg (fun h => absurd h.2 (by decide)), if_neg (show b ≠ Frame.closing .array from sign.sign.2),
        if_neg (by decide)] at entered
      rw [begins] at read ⊢
      exact ⟨m', entered.trans read⟩
    | false =>
      obtain ⟨before, after, blankBefore, blankAfter, rfl⟩ := leads
      obtain ⟨m, entered⟩ := skipAfter_cons (fuel + cost' + 1 + cost + 1) n .array frames
        (after ++ (own ++ (others ++ 0x5D :: rest))) true blankBefore (show isSpace 0x2C = false from rfl)
      obtain ⟨m', read⟩ := item after (m + 1) blankAfter
      rw [if_pos ⟨rfl, rfl⟩] at entered
      simp only [List.append_assoc, List.cons_append]
      exact ⟨m', entered.trans read⟩

/-- The members of an object are passed over, and the brace behind them. -/
theorem skipAfter_members (first : Bool) (members : List (List Piece × Doc)) {text : Bytes}
    (spelled : Doc.MembersAreSpelled first members text) :
    ∃ cost ≤ 4 * text.length, ∀ fuel frames rest n,
      ∃ m, skipAfter (fuel + cost + 1) (!first) .object frames ⟨n, text ++ 0x7D :: rest⟩ =
        leave fuel frames ⟨m, rest⟩ := by
  match members with
  | [] =>
    refine ⟨0, Nat.zero_le _, fun fuel frames rest n => ?_⟩
    obtain ⟨m, ended⟩ := skipAfter_cons fuel n .object frames rest (!first) spelled
      (show isSpace 0x7D = false from rfl)
    rw [if_neg (fun h => absurd h.1 (by decide)), if_pos (show 0x7D = Frame.closing .object from rfl)] at ended
    exact ⟨m + 1, ended⟩
  | (ps, d) :: members =>
    obtain ⟨lead, a, b, own, others, leads, valid, ha, hb, ownSpelled, otherSpelled, rfl⟩ := spelled
    obtain ⟨cost, le, passed⟩ := skipFrom_spelled d ownSpelled
    obtain ⟨cost', le', passed'⟩ := skipAfter_members false members otherSpelled
    refine ⟨cost' + 1 + cost + 1, by simp only [List.length_append, List.length_cons]; omega,
      fun fuel frames rest n => ?_⟩
    have follows := follows_members otherSpelled rest
    -- the member, and then what follows it
    have item : ∀ blank m, Blank blank → ∃ m', skipItem (fuel + (cost' + 1 + cost) + 1) .object frames
        ⟨m, blank ++ (encode (Doc.quoted ps) ++ (a ++ 0x3A :: (b ++ (own ++ (others ++ 0x7D :: rest)))))⟩ =
          leave fuel frames ⟨m', rest⟩ := by
      intro blank m isBlank
      obtain ⟨m₀, name⟩ := skipName_spelled valid isBlank ha m (b ++ (own ++ (others ++ 0x7D :: rest)))
      obtain ⟨m₁, h₁⟩ := passed (fuel + cost' + 1) (.object :: frames) b _ m₀ hb follows
      obtain ⟨m₂, h₂⟩ := passed' fuel frames rest m₁
      refine ⟨m₂, (skipItem_object _).trans ((bind_of_ok name).trans (.trans ?_ h₂))⟩
      rw [show fuel + (cost' + 1 + cost) = fuel + cost' + 1 + cost by omega]
      exact h₁
    simp only [List.append_assoc, List.cons_append, ← Nat.add_assoc] at item ⊢
    cases first with
    | true =>
      have quoted : ∀ bytes, encode (Doc.quoted ps) ++ bytes =
          0x22 :: (encode (ps.flatMap Piece.chars ++ ['"']) ++ bytes) := fun _ => rfl
      obtain ⟨m, entered⟩ := skipAfter_cons (fuel + cost' + 1 + cost + 1) n .object frames
        (encode (ps.flatMap Piece.chars ++ ['"']) ++ (a ++ 0x3A :: (b ++ (own ++ (others ++ 0x7D :: rest))))) false leads (show isSpace 0x22 = false from rfl)
      obtain ⟨m', read⟩ := item [] m Blank.nil
      rw [if_neg (fun h => absurd h.2 (by decide)), if_neg (by decide), if_neg (by decide)] at entered
      rw [quoted] at read ⊢
      exact ⟨m', entered.trans read⟩
    | false =>
      obtain ⟨before, after, blankBefore, blankAfter, rfl⟩ := leads
      obtain ⟨m, entered⟩ := skipAfter_cons (fuel + cost' + 1 + cost + 1) n .object frames
        (after ++ (encode (Doc.quoted ps) ++ (a ++ 0x3A :: (b ++ (own ++ (others ++ 0x7D :: rest)))))) true blankBefore
        (show isSpace 0x2C = false from rfl)
      obtain ⟨m', read⟩ := item after (m + 1) blankAfter
      rw [if_pos ⟨rfl, rfl⟩] at entered
      simp only [List.append_assoc, List.cons_append]
      exact ⟨m', entered.trans read⟩

end

/-- A document is passed over up to its last sign. -/
theorem skipValue_spelled {d : Doc} {own blank rest : Bytes} (spelled : d.IsSpelled own) (isBlank : Blank blank)
    (follows : Follows rest) (n : Nat) : Ends (skipValue ⟨n, blank ++ (own ++ rest)⟩) (some ()) rest := by
  obtain ⟨cost, le, passed⟩ := skipFrom_spelled d spelled
  have enough : cost ≤ 4 * (blank ++ (own ++ rest)).length + 4 := by
    simp only [List.length_append]
    omega
  obtain ⟨fuel, hf⟩ := Nat.exists_eq_add_of_le' enough
  obtain ⟨m, read⟩ := passed fuel [] blank rest n isBlank follows
  unfold skipValue
  rw [bind_of_ok (get_eq _)]
  dsimp only
  rw [hf]
  exact ⟨m, read⟩

/-! ## What has been passed over -/

/-- A text is what a bracket may hold, behind the first sign or behind an item. -/
def Frame.Holds (first : Bool) (inner : Bytes) : Frame → Prop
  | .array => ∃ items, Doc.AreSpelled first items inner
  | .object => ∃ members, Doc.MembersAreSpelled first members inner

/-- A text goes on, up to a rest, with what the open brackets hold behind an item, and closes them. -/
def Closes : List Frame → Bytes → Bytes → Prop
  | [], text, rest => text = rest
  | frame :: frames, text, rest =>
    ∃ inner mid, frame.Holds false inner ∧ text = inner ++ frame.closing :: mid ∧ Closes frames mid rest

/-- The same for the innermost bracket, behind its first sign or behind an item. -/
def ClosesWithin (first : Bool) (frame : Frame) (frames : List Frame) (text rest : Bytes) : Prop :=
  ∃ inner mid, frame.Holds first inner ∧ text = inner ++ frame.closing :: mid ∧ Closes frames mid rest

section

variable {n : Nat} {c : Cursor} {bs : Bytes}

theorem of_skipScalar {b : UInt8} {more : Bytes} {u : Unit} (text : IsText (b :: more)) (bracket : b ≠ 0x5B)
    (brace : b ≠ 0x7B) (h : skipScalar b ⟨n, b :: more⟩ = (.ok u, c)) :
    IsText c.rest ∧ ∃ d own, Doc.IsSpelled d own ∧ b :: more = own ++ c.rest := by
  unfold skipScalar at h
  split at h
  · rename_i quote
    obtain rfl := eq_of_beq quote
    rw [bind_of_ok (skip_cons n)] at h
    obtain ⟨left, ps, valid, parts⟩ := of_skipString (text.of_cons (by decide)) h
    exact ⟨left, .string ps, encode (Doc.quoted ps), ⟨valid, rfl⟩, by rw [parts, Doc.encode_quoted]⟩
  · split at h
    · rename_i minus
      obtain rfl := eq_of_beq minus
      rw [bind_of_ok (skip_cons n)] at h
      obtain ⟨own, number, rfl⟩ := of_skipNumber h
      exact ⟨(text.of_cons (by decide)).of_ascii number.ascii, .number (0x2D :: own), 0x2D :: own,
        ⟨.inr ⟨own, number, rfl⟩, rfl⟩, rfl⟩
    · rename_i quote minus
      split at h
      · obtain ⟨own, number, parts⟩ := of_skipNumber h
        rw [parts] at text ⊢
        exact ⟨text.of_ascii number.ascii, .number own, own, ⟨.inl number, rfl⟩, rfl⟩
      · rename_i digit
        obtain ⟨x, h⟩ := of_discard h
        unfold scalar at h
        split at h
        · rename_i null
          obtain rfl := eq_of_beq null
          obtain ⟨left, rfl⟩ := of_skipWord text (by decide) (forall_mem_of_all (by decide)) h
          exact ⟨left, .null, _, rfl, rfl⟩
        · split at h
          · rename_i truth
            obtain rfl := eq_of_beq truth
            obtain ⟨left, rfl⟩ := of_skipWord text (by decide) (forall_mem_of_all (by decide)) h
            exact ⟨left, .bool true, _, rfl, rfl⟩
          · split at h
            · rename_i falsehood
              obtain rfl := eq_of_beq falsehood
              obtain ⟨left, rfl⟩ := of_skipWord text (by decide) (forall_mem_of_all (by decide)) h
              exact ⟨left, .bool false, _, rfl, rfl⟩
            · rw [beq_false_of_ne bracket, beq_false_of_ne brace] at h
              cases h

/-- What has been passed over before a value was a name and a colon. -/
theorem of_skipName {u : Unit} (text : IsText bs) (h : skipName ⟨n, bs⟩ = (.ok u, c)) :
    IsText c.rest ∧ ∃ (blank : Bytes) (ps : List Piece) (a : Bytes), Blank blank ∧ (∀ p ∈ ps, p.IsValid) ∧ Blank a ∧
      bs = blank ++ (encode (Doc.quoted ps) ++ (a ++ 0x3A :: c.rest)) := by
  unfold skipName at h
  obtain ⟨x, ⟨m, quoted⟩, peeked, h⟩ := of_bind h
  rcases of_peekToken peeked with ⟨rfl, -, -⟩ | ⟨blank, b, more, rfl, isBlank, -, rfl, left⟩
  · obtain ⟨_, _, failed, -⟩ := of_bind h
    exact (failNext_ne_ok failed).elim
  · obtain rfl : quoted = b :: more := left
    dsimp only at h
    split at h
    · rename_i quote
      obtain rfl := eq_of_beq quote
      rw [bind_of_ok (skip_cons m)] at h
      obtain ⟨_, ⟨k, behind⟩, name, h⟩ := of_bind h
      obtain ⟨text', ps, valid, parts⟩ := of_skipString ((text.of_ascii isBlank.ascii).of_cons (by decide)) name
      obtain ⟨y, ⟨k', colon⟩, peeked', h⟩ := of_bind h
      rcases of_peekToken peeked' with ⟨rfl, -, -⟩ | ⟨a, b', more', rfl, ha, -, rfl, left'⟩
      · cases h
      · obtain rfl : colon = b' :: more' := left'
        dsimp only at h
        split at h
        · rename_i isColon
          obtain rfl := eq_of_beq isColon
          rw [skip_cons] at h
          cases h
          exact ⟨(text'.of_ascii ha.ascii).of_cons (by decide), blank, ps, a, isBlank, valid, ha,
            by rw [parts, Doc.encode_quoted]⟩
        · cases h
    · obtain ⟨_, _, failed, -⟩ := of_bind h
      exact (failNext_ne_ok failed).elim

end

/-- With this much fuel every state of the machine passes over documents, and closes the brackets that are open. -/
structure PassesDocuments (fuel : Nat) : Prop where
  value : ∀ {frames : List Frame} {bs : Bytes} {n : Nat} {c : Cursor} {u : Unit}, IsText bs →
    skipFrom fuel frames ⟨n, bs⟩ = (.ok u, c) → IsText c.rest ∧ ∃ blank d own mid, Blank blank ∧
      Doc.IsSpelled d own ∧ bs = blank ++ (own ++ mid) ∧ Closes frames mid c.rest
  after : ∀ {afterItem : Bool} {frame : Frame} {frames : List Frame} {bs : Bytes} {n : Nat} {c : Cursor} {u : Unit},
    IsText bs → skipAfter fuel afterItem frame frames ⟨n, bs⟩ = (.ok u, c) →
      IsText c.rest ∧ ClosesWithin (!afterItem) frame frames bs c.rest
  item : ∀ {frame : Frame} {frames : List Frame} {bs : Bytes} {n : Nat} {c : Cursor} {u : Unit}, IsText bs →
    skipItem fuel frame frames ⟨n, bs⟩ = (.ok u, c) → IsText c.rest ∧
      ∀ first lead, Leads first lead → ClosesWithin first frame frames (lead ++ bs) c.rest

namespace PassesDocuments

section

variable {fuel n : Nat} {frame : Frame} {frames : List Frame} {bs : Bytes} {c : Cursor} {u : Unit}

theorem leave (ih : PassesDocuments fuel) (text : IsText bs) (h : leave fuel frames ⟨n, bs⟩ = (.ok u, c)) :
    IsText c.rest ∧ Closes frames bs c.rest := by
  cases frames with
  | nil =>
    cases h
    exact ⟨text, rfl⟩
  | cons frame frames => exact ih.after text h

/-- Before a value: a bracket is opened, or a scalar is passed over. -/
theorem skipFrom (ih : PassesDocuments fuel) (text : IsText bs)
    (h : skipFrom (fuel + 1) frames ⟨n, bs⟩ = (.ok u, c)) :
    IsText c.rest ∧ ∃ blank d own mid, Blank blank ∧ Doc.IsSpelled d own ∧ bs = blank ++ (own ++ mid) ∧
      Closes frames mid c.rest := by
  rcases exists_blank bs with blank | ⟨blank, b, more, isBlank, sign, rfl⟩
  · unfold Decode.skipFrom at h
    have ended : peekValue ⟨n, bs⟩ = (.error ⟨.endOfValue, some (n + bs.length)⟩, ⟨n + bs.length, []⟩) :=
      (bind_of_ok (peekToken_end n blank)).trans rfl
    rw [bind_of_error ended] at h
    cases h
  · have text' := text.of_ascii isBlank.ascii
    obtain ⟨m, run⟩ := skipFrom_cons fuel n frames more isBlank sign
    rw [run] at h
    split at h
    · rename_i bracket
      obtain rfl := bracket
      obtain ⟨left, inner, mid, ⟨items, spelled⟩, rfl, closed⟩ := ih.after (text'.of_cons (by decide)) h
      exact ⟨left, blank, .array items, 0x5B :: (inner ++ [0x5D]), mid, isBlank, ⟨inner, spelled, rfl⟩,
        by simp [Frame.closing], closed⟩
    · split at h
      · rename_i brace
        obtain rfl := brace
        obtain ⟨left, inner, mid, ⟨members, spelled⟩, rfl, closed⟩ := ih.after (text'.of_cons (by decide)) h
        exact ⟨left, blank, .object members, 0x7B :: (inner ++ [0x7D]), mid, isBlank, ⟨inner, spelled, rfl⟩,
          by simp [Frame.closing], closed⟩
      · rename_i bracket brace
        obtain ⟨_, ⟨k, mid⟩, read, h⟩ := of_bind h
        obtain ⟨left, d, own, spelled, parts⟩ := of_skipScalar text' bracket brace read
        obtain ⟨left', closed⟩ := ih.leave left h
        exact ⟨left', blank, d, own, mid, isBlank, spelled, by rw [parts], closed⟩

/-- Within a bracket: a comma leads to the next item, and the closing sign leaves the bracket. -/
theorem skipAfter {afterItem : Bool} (ih : PassesDocuments fuel) (text : IsText bs)
    (h : skipAfter (fuel + 1) afterItem frame frames ⟨n, bs⟩ = (.ok u, c)) :
    IsText c.rest ∧ ClosesWithin (!afterItem) frame frames bs c.rest := by
  rcases exists_blank bs with blank | ⟨blank, b, more, isBlank, sign, rfl⟩
  · unfold Decode.skipAfter at h
    rw [bind_of_ok (peekToken_end n blank)] at h
    cases frame <;> cases frames <;> cases h
  · have text' := text.of_ascii isBlank.ascii
    obtain ⟨m, run⟩ := skipAfter_cons fuel n frame frames more afterItem isBlank sign
    rw [run] at h
    split at h
    · rename_i comma
      obtain ⟨rfl, rfl⟩ := comma
      obtain ⟨left, closed⟩ := ih.item (text'.of_cons (by decide)) h
      -- the comma is what leads to the next item
      have all := closed false (blank ++ [0x2C]) ⟨blank, [], isBlank, Blank.nil, rfl⟩
      rw [List.append_assoc] at all
      exact ⟨left, all⟩
    · split at h
      · rename_i closing
        subst closing
        have ascii : frame.closing.toNat < 0x80 := by cases frame <;> decide
        obtain ⟨left, closed⟩ := ih.leave (text'.of_cons ascii) h
        refine ⟨left, blank, more, ?_, rfl, closed⟩
        cases frame with
        | array => exact ⟨[], isBlank⟩
        | object => exact ⟨[], isBlank⟩
      · split at h
        · cases h
        · rename_i start
          obtain rfl : afterItem = false := by simpa using start
          obtain ⟨left, closed⟩ := ih.item text' h
          exact ⟨left, closed true blank isBlank⟩

theorem skipItem_array (ih : PassesDocuments fuel) (text : IsText bs)
    (h : skipItem (fuel + 1) .array frames ⟨n, bs⟩ = (.ok u, c)) :
    IsText c.rest ∧ ∀ first lead, Leads first lead → ClosesWithin first .array frames (lead ++ bs) c.rest := by
  rw [Decode.skipItem_array] at h
  obtain ⟨left, blank, d, own, mid, isBlank, spelled, rfl, inner, mid', ⟨items, others⟩, rfl, closed⟩ :=
    ih.value text h
  refine ⟨left, fun first before leads => ⟨(before ++ blank) ++ (own ++ inner), mid', ⟨d :: items, ?_⟩, ?_, closed⟩⟩
  · exact ⟨before ++ blank, own, inner, leads.append isBlank, spelled, others, rfl⟩
  · simp

theorem skipItem_object (ih : PassesDocuments fuel) (text : IsText bs)
    (h : skipItem (fuel + 1) .object frames ⟨n, bs⟩ = (.ok u, c)) :
    IsText c.rest ∧ ∀ first lead, Leads first lead → ClosesWithin first .object frames (lead ++ bs) c.rest := by
  rw [Decode.skipItem_object] at h
  obtain ⟨_, ⟨k, behindColon⟩, name, h⟩ := of_bind h
  obtain ⟨text', blank, ps, a, isBlank, valid, ha, parts⟩ := of_skipName text name
  obtain ⟨left, b, d, own, mid, hb, spelled, rest, inner, mid', ⟨members, others⟩, rfl, closed⟩ := ih.value text' h
  refine ⟨left, fun first before leads => ⟨(before ++ blank) ++ (encode (Doc.quoted ps) ++ (a ++ 0x3A ::
    (b ++ (own ++ inner)))), mid', ⟨(ps, d) :: members, ?_⟩, ?_, closed⟩⟩
  · exact ⟨before ++ blank, a, b, own, inner, leads.append isBlank, valid, ha, hb, spelled, others, rfl⟩
  · dsimp only at parts rest
    rw [parts, rest]
    simp

end

end PassesDocuments

/-- Every run of the machine passes over documents. -/
theorem passesDocuments (fuel : Nat) : PassesDocuments fuel := by
  -- on the fuel for all states of the machine at once; each step spends one and takes one sign or name
  induction fuel with
  | zero =>
    exact ⟨fun _ h => (failNext_ne_ok h).elim, fun _ h => (failNext_ne_ok h).elim,
      fun _ h => (failNext_ne_ok h).elim⟩
  | succ fuel ih =>
    refine ⟨ih.skipFrom, ih.skipAfter, fun {frame} => ?_⟩
    cases frame with
    | array => exact ih.skipItem_array
    | object => exact ih.skipItem_object

/-- What has been passed over was a document, with spaces before it. -/
theorem of_skipValue {bs : Bytes} {n : Nat} {c : Cursor} {u : Unit} (text : IsText bs)
    (h : skipValue ⟨n, bs⟩ = (.ok u, c)) :
    IsText c.rest ∧ ∃ blank d own, Blank blank ∧ Doc.IsSpelled d own ∧ bs = blank ++ (own ++ c.rest) := by
  unfold skipValue at h
  rw [bind_of_ok (get_eq _)] at h
  obtain ⟨text', blank, d, own, mid, isBlank, spelled, parts, closed⟩ := (passesDocuments _).value text h
  obtain rfl : mid = c.rest := closed
  exact ⟨text', blank, d, own, isBlank, spelled, parts⟩

end Decode

end CommitGate.Json
