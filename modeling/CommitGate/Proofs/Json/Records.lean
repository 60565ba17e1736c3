import CommitGate.Proofs.Json.Skipping

/-! # What decoders make of documents

`Decode.Reads` holds of a decoder and what it makes of each document, however the document is written and wherever
it stands: of those without a meaning for it nothing, and of a text that is no document nothing either.

* `reads_text`, `reads_bool`, `reads_record`: the decoders of one type;
* `Reads.run_written`, `Reads.of_run`, `Reads.run_trailing`: whole texts.

Scope limit: the members of a record may all be absent.
-/

namespace CommitGate.Json

namespace Decode

open Reader
open Utf8 (encode)

/-- The decoder makes of each document what the document means, or fails if it means nothing, at a depth above the
level; and it takes nothing but documents. -/
structure Reads {α : Type} (decode : Decoder α) (level : Nat) (meaning : Doc → Option α) : Prop where
  ends : ∀ (d : Doc) own, d.IsSpelled own → ∀ depth n blank rest, level < depth → Blank blank →
    Ends (decode depth ⟨n, blank ++ (own ++ rest)⟩) (meaning d) rest
  accepts : ∀ depth n bs a c, IsText bs → decode depth ⟨n, bs⟩ = (.ok a, c) →
    IsText c.rest ∧ ∃ blank d own, Blank blank ∧ Doc.IsSpelled d own ∧ bs = blank ++ (own ++ c.rest)

section

variable {α β : Type} {decode : Decoder α} {level : Nat} {meaning : Doc → Option α}

theorem Reads.mono {level' : Nat} (h : Reads decode level meaning) (le : level ≤ level') :
    Reads decode level' meaning :=
  ⟨fun d own spelled depth n blank rest deep => h.ends d own spelled depth n blank rest (Nat.lt_of_le_of_lt le deep),
    h.accepts⟩

theorem Reads.map (h : Reads decode level meaning) (f : α → β) :
    Reads (fun depth => f <$> decode depth) level fun d => (meaning d).map f := by
  refine ⟨fun d own spelled depth n blank rest deep isBlank =>
    (h.ends d own spelled depth n blank rest deep isBlank).map f, fun depth n bs b c text read => ?_⟩
  obtain ⟨a, read, -⟩ := of_map read
  exact h.accepts depth n bs a c text read

theorem Reads.of_eq {meaning' : Doc → Option α} (h : Reads decode level meaning) (same : ∀ d, meaning d = meaning' d) :
    Reads decode level meaning' :=
  funext same ▸ h

end

/-! ## Values of one type -/

section

variable {α : Type} {n : Nat} {c : Cursor}

/-- Finding one thing in the place of another is never a success. -/
theorem unexpected_fails (b : UInt8) (expected : String) (c : Cursor) (rest : Bytes) :
    Ends (unexpected b expected c : Except Failure α × Cursor) none rest := by
  unfold unexpected
  cases hr : scalar b c with
  | mk result c' =>
    cases result with
    | error e => exact ⟨e, c', bind_of_error hr⟩
    | ok v =>
      rw [bind_of_ok hr]
      cases v with
      | none => exact ⟨_, _, rfl⟩
      | some v => exact ⟨_, _, rfl⟩

theorem unexpected_ne_ok {b : UInt8} {expected : String} {c c' : Cursor} {a : α}
    (h : located (unexpected b expected) c = (.ok a, c')) : False := by
  obtain ⟨e, c'', failed⟩ := unexpected_fails (α := α) b expected c []
  have read := of_located h
  rw [failed] at read
  cases read

theorem reads_text : Reads text 0 Doc.text? := by
  constructor
  · intro d own spelled depth n blank rest _ isBlank
    obtain ⟨b, more, rfl, begins⟩ := spelled.exists_sign
    have other : b ≠ 0x22 → Ends (text depth ⟨n, blank ++ (b :: more ++ rest)⟩) none rest := by
      intro quote
      unfold text textWith
      rw [List.cons_append, bind_of_ok (peekValue_cons n isBlank begins.sign.1), beq_false_of_ne quote]
      exact (unexpected_fails b _ _ rest).located
    cases d with
    | string ps =>
      obtain ⟨valid, written⟩ := spelled
      have quoted : b :: more ++ rest = 0x22 :: (encode (ps.flatMap Piece.chars) ++ 0x22 :: rest) := by
        rw [written, Doc.encode_quoted]
      have read := (string_pieces valid (n + blank.length + 1) rest).bind
        (f := fun s => (pure s : Reader String)) (y := some) fun s m _ => ⟨m, rfl⟩
      unfold text textWith
      rw [quoted, bind_of_ok (peekValue_cons n isBlank rfl)]
      change Ends ((skip >>= _) _) _ _
      rw [bind_of_ok (skip_cons _)]
      simpa [Doc.text?] using read
    | null => exact other (by cases begins; decide)
    | bool truth => exact other (by cases truth <;> cases begins <;> decide)
    | number _ => exact other (by
        rcases begins with rfl | digit
        · decide
        · exact (Doc.sign_of_isDigit digit).2.2.2.2.1)
    | array _ => exact other (by cases begins; decide)
    | object _ => exact other (by cases begins; decide)
  · intro depth n bs s c isText read
    unfold text textWith at read
    obtain ⟨b, ⟨m, bs'⟩, peeked, read⟩ := of_bind read
    obtain ⟨blank, more, isBlank, -, rfl, rfl⟩ := of_peekValue peeked
    split at read
    · rename_i quote
      obtain rfl := eq_of_beq quote
      rw [bind_of_ok (skip_cons m)] at read
      obtain ⟨s', c', string, same⟩ := of_bind read
      obtain ⟨-, rfl⟩ := of_pure same
      obtain ⟨left, ps, valid, parts⟩ := of_string ((isText.of_ascii isBlank.ascii).of_cons (by decide)) string
      exact ⟨left, blank, .string ps, encode (Doc.quoted ps), isBlank, ⟨valid, rfl⟩,
        by rw [parts, Doc.encode_quoted]⟩
    · exact (unexpected_ne_ok read).elim

theorem reads_bool : Reads bool 0 Doc.bool? := by
  constructor
  · intro d own spelled depth n blank rest deep isBlank
    obtain ⟨b, more, rfl, begins⟩ := spelled.exists_sign
    have other : b ≠ 0x74 → b ≠ 0x66 → Ends (bool depth ⟨n, blank ++ (b :: more ++ rest)⟩) none rest := by
      intro truth falsehood
      unfold bool
      rw [List.cons_append, bind_of_ok (peekValue_cons n isBlank begins.sign.1), beq_false_of_ne truth,
        beq_false_of_ne falsehood]
      exact (unexpected_fails b _ _ rest).located
    cases d with
    | bool truth =>
      have read := (yields_bool truth).ends _ (show Spells (.bool truth) (b :: more) from spelled) depth n blank rest
      exact read deep isBlank
    | null => exact other (by cases begins; decide) (by cases begins; decide)
    | string _ => exact other (by cases begins; decide) (by cases begins; decide)
    | number _ =>
      have ne : b ≠ 0x74 ∧ b ≠ 0x66 := by
        rcases begins with rfl | digit
        · decide
        · exact (Doc.sign_of_isDigit digit).2.2.2.2.2.2
      exact other ne.1 ne.2
    | array _ => exact other (by cases begins; decide) (by cases begins; decide)
    | object _ => exact other (by cases begins; decide) (by cases begins; decide)
  · intro depth n bs truth c isText read
    unfold bool at read
    obtain ⟨b, ⟨m, bs'⟩, peeked, read⟩ := of_bind read
    obtain ⟨blank, more, isBlank, -, rfl, rfl⟩ := of_peekValue peeked
    have text := isText.of_ascii isBlank.ascii
    split at read
    · rename_i isTrue
      obtain rfl := eq_of_beq isTrue
      obtain ⟨left, rfl⟩ := of_skipWord text (by decide) (forall_mem_of_all (by decide)) read
      exact ⟨left, blank, .bool true, _, isBlank, rfl, rfl⟩
    · split at read
      · rename_i isFalse
        obtain rfl := eq_of_beq isFalse
        obtain ⟨left, rfl⟩ := of_skipWord text (by decide) (forall_mem_of_all (by decide)) read
        exact ⟨left, blank, .bool false, _, isBlank, rfl, rfl⟩
      · exact (unexpected_ne_ok read).elim

end

/-! ## Single signs -/

section

variable {lead blank : Bytes} {n : Nat} {c : Cursor} {bs : Bytes}

/-- A name is read if its pieces stand for one. -/
theorem memberName_pieces {first : Bool} {ps : List Piece} (valid : ∀ p ∈ ps, p.IsValid) (rest : Bytes) (n : Nat)
    (h : Leads first lead) :
    Ends (memberName first ⟨n, lead ++ (encode (Doc.quoted ps) ++ rest)⟩)
      ((Piece.text? ps).map fun s => some (String.ofList s)) rest := by
  have quoted := Doc.encode_quoted ps rest
  have name : ∀ m, Ends (memberName.name ⟨m, encode (Doc.quoted ps) ++ rest⟩)
      ((Piece.text? ps).map fun s => some (String.ofList s)) rest := by
    intro m
    have read := (string_pieces valid (m + 1) rest).map some
    unfold memberName.name
    rw [quoted, bind_of_ok (skip_cons m)]
    rwa [Option.map_map] at read
  unfold memberName
  cases first with
  | true =>
    have read := name (n + lead.length)
    rw [quoted] at read ⊢
    rw [bind_of_ok (peekToken_cons n h rfl)]
    exact read
  | false =>
    obtain ⟨before, after, blankBefore, blankAfter, rfl⟩ := h
    have read := name (n + before.length + 1 + after.length)
    rw [List.append_assoc, List.cons_append, bind_of_ok (peekToken_cons n blankBefore rfl)]
    change Ends ((skip >>= _) _) _ _
    rw [quoted] at read ⊢
    rw [bind_of_ok (skip_cons _), bind_of_ok (peekToken_cons _ blankAfter rfl)]
    exact read

theorem of_name {more : Bytes} {x : Option String} (text : IsText more)
    (h : memberName.name ⟨n, 0x22 :: more⟩ = (.ok x, c)) :
    x ≠ none ∧ IsText c.rest ∧ ∃ ps : List Piece, (∀ p ∈ ps, p.IsValid) ∧
      0x22 :: more = encode (Doc.quoted ps) ++ c.rest := by
  unfold memberName.name at h
  rw [bind_of_ok (skip_cons n)] at h
  obtain ⟨s, string, rfl⟩ := of_map h
  obtain ⟨left, ps, valid, parts⟩ := of_string text string
  exact ⟨Option.some_ne_none s, left, ps, valid, by rw [parts, Doc.encode_quoted]⟩

/-- Behind members there is a brace, or the name of another one. -/
theorem of_memberName {first : Bool} {x : Option String} (text : IsText bs)
    (h : memberName first ⟨n, bs⟩ = (.ok x, c)) :
    (x = none ∧ ∃ blank more, Blank blank ∧ bs = blank ++ 0x7D :: more ∧ c.rest = 0x7D :: more ∧ IsText c.rest) ∨
      (x ≠ none ∧ IsText c.rest ∧ ∃ (lead : Bytes) (ps : List Piece), Leads first lead ∧ (∀ p ∈ ps, p.IsValid) ∧
        bs = lead ++ (encode (Doc.quoted ps) ++ c.rest)) := by
  unfold memberName at h
  obtain ⟨y, ⟨m, bs'⟩, peeked, h⟩ := of_bind h
  rcases of_peekToken peeked with ⟨rfl, -, -⟩ | ⟨blank, b, more, rfl, isBlank, -, rfl, left⟩
  · cases h
  · obtain rfl : bs' = b :: more := left
    have text' := text.of_ascii isBlank.ascii
    dsimp only at h
    split at h
    · rename_i brace
      obtain rfl := eq_of_beq brace
      cases h
      exact .inl ⟨rfl, blank, more, isBlank, rfl, rfl, text'⟩
    · split at h
      · rename_i isFirst
        split at h
        · rename_i quote
          obtain rfl := eq_of_beq quote
          obtain ⟨some, left, ps, valid, parts⟩ := of_name (text'.of_cons (by decide)) h
          exact .inr ⟨some, left, blank, ps, by rw [isFirst]; exact isBlank, valid, by rw [parts]⟩
        · cases h
      · rename_i isFirst
        split at h
        · rename_i comma
          obtain rfl := eq_of_beq comma
          rw [bind_of_ok (skip_cons m)] at h
          obtain ⟨z, ⟨k, bs''⟩, peeked', h⟩ := of_bind h
          rcases of_peekToken peeked' with ⟨rfl, -, -⟩ | ⟨blank', b', more', rfl, isBlank', -, rfl, left'⟩
          · cases h
          · obtain rfl : bs'' = b' :: more' := left'
            have text'' := (text'.of_cons (by decide)).of_ascii isBlank'.ascii
            dsimp only at h
            split at h
            · rename_i quote
              obtain rfl := eq_of_beq quote
              obtain ⟨some, left, ps, valid, parts⟩ := of_name (text''.of_cons (by decide)) h
              refine .inr ⟨some, left, blank ++ 0x2C :: blank', ps, ?_, valid, by rw [parts]; simp⟩
              rw [Bool.not_eq_true] at isFirst
              rw [isFirst]
              exact ⟨blank, blank', isBlank, isBlank', rfl⟩
            · split at h <;> cases h
        · cases h

theorem of_colon {u : Unit} (text : IsText bs) (h : colon ⟨n, bs⟩ = (.ok u, c)) :
    IsText c.rest ∧ ∃ blank, Blank blank ∧ bs = blank ++ 0x3A :: c.rest := by
  unfold colon at h
  obtain ⟨y, ⟨m, bs'⟩, peeked, h⟩ := of_bind h
  rcases of_peekToken peeked with ⟨rfl, -, -⟩ | ⟨blank, b, more, rfl, isBlank, -, rfl, left⟩
  · cases h
  · obtain rfl : bs' = b :: more := left
    dsimp only at h
    split at h
    · rename_i isColon
      obtain rfl := eq_of_beq isColon
      rw [skip_cons] at h
      cases h
      exact ⟨(text.of_ascii isBlank.ascii).of_cons (by decide), blank, isBlank, rfl⟩
    · cases h

theorem of_endObject {u : Unit} (text : IsText bs) (h : endObject ⟨n, bs⟩ = (.ok u, c)) :
    IsText c.rest ∧ ∃ blank, Blank blank ∧ bs = blank ++ 0x7D :: c.rest := by
  unfold endObject at h
  obtain ⟨y, ⟨m, bs'⟩, peeked, h⟩ := of_bind h
  rcases of_peekToken peeked with ⟨rfl, -, -⟩ | ⟨blank, b, more, rfl, isBlank, -, rfl, left⟩
  · cases h
  · obtain rfl : bs' = b :: more := left
    dsimp only at h
    split at h
    · rename_i brace
      obtain rfl := eq_of_beq brace
      rw [skip_cons] at h
      cases h
      exact ⟨(text.of_ascii isBlank.ascii).of_cons (by decide), blank, isBlank, rfl⟩
    · split at h <;> cases h

/-- The end of an array is a bracket behind spaces. -/
theorem of_endArray {u : Unit} (text : IsText bs) (h : endArray ⟨n, bs⟩ = (.ok u, c)) :
    IsText c.rest ∧ ∃ blank, Blank blank ∧ bs = blank ++ 0x5D :: c.rest := by
  unfold endArray at h
  obtain ⟨y, ⟨m, bs'⟩, peeked, h⟩ := of_bind h
  rcases of_peekToken peeked with ⟨rfl, -, -⟩ | ⟨blank, b, more, rfl, isBlank, -, rfl, left⟩
  · cases h
  · obtain rfl : bs' = b :: more := left
    dsimp only at h
    split at h
    · rename_i bracket
      obtain rfl := eq_of_beq bracket
      rw [skip_cons] at h
      cases h
      exact ⟨(text.of_ascii isBlank.ascii).of_cons (by decide), blank, isBlank, rfl⟩
    · split at h
      · rw [bind_of_ok (skip_cons m)] at h
        obtain ⟨z, _, -, h⟩ := of_bind h
        split at h <;> cases h
      · cases h

/-- Behind items there is a bracket, or another item. -/
theorem of_hasItem {first more : Bool} (h : hasItem first ⟨n, bs⟩ = (.ok more, c)) :
    (more = false ∧ ∃ blank rest, Blank blank ∧ bs = blank ++ 0x5D :: rest ∧ c.rest = 0x5D :: rest) ∨
      (more = true ∧ ∃ lead, Leads first lead ∧ bs = lead ++ c.rest) := by
  unfold hasItem at h
  obtain ⟨y, ⟨m, bs'⟩, peeked, h⟩ := of_bind h
  rcases of_peekToken peeked with ⟨rfl, -, -⟩ | ⟨blank, b, rest, rfl, isBlank, -, rfl, left⟩
  · cases h
  · obtain rfl : bs' = b :: rest := left
    dsimp only at h
    split at h
    · rename_i bracket
      obtain rfl := eq_of_beq bracket
      cases h
      exact .inl ⟨rfl, blank, rest, isBlank, rfl, rfl⟩
    · split at h
      · rename_i isFirst
        cases h
        exact .inr ⟨rfl, blank, by rw [isFirst]; exact isBlank, rfl⟩
      · rename_i isFirst
        split at h
        · rename_i comma
          obtain rfl := eq_of_beq comma
          rw [bind_of_ok (skip_cons m)] at h
          obtain ⟨z, ⟨k, bs''⟩, peeked', h⟩ := of_bind h
          rcases of_peekToken peeked' with ⟨rfl, -, -⟩ | ⟨blank', b', rest', rfl, isBlank', -, rfl, left'⟩
          · cases h
          · obtain rfl : bs'' = b' :: rest' := left'
            dsimp only at h
            split at h
            · cases h
            · cases h
              refine .inr ⟨rfl, blank ++ 0x2C :: blank', ?_, by simp⟩
              rw [Bool.not_eq_true] at isFirst
              rw [isFirst]
              exact ⟨blank, blank', isBlank, isBlank', rfl⟩
        · cases h

/-- An item that is left over stands in the way of the end. -/
theorem endArray_lead {first : Bool} {b : UInt8} (n : Nat) (rest : Bytes) (h : Leads first lead)
    (sign : isSpace b = false) (item : b ≠ 0x5D) : Ends (endArray ⟨n, lead ++ b :: rest⟩) none rest := by
  have comma : ∀ c, Ends ((peekToken >>= fun y => if y == some 0x5D then failNext .trailingComma
      else failNext .trailingCharacters : Reader Unit) c) none rest := by
    intro c
    cases hr : peekToken c with
    | mk result c' =>
      cases result with
      | error e => exact ⟨e, c', bind_of_error hr⟩
      | ok y =>
        rw [bind_of_ok hr]
        split <;> exact ⟨_, _, rfl⟩
  unfold endArray
  cases first with
  | true =>
    rw [bind_of_ok (peekToken_cons n h sign)]
    dsimp only
    rw [beq_false_of_ne item, if_neg Bool.false_ne_true]
    split
    · rw [bind_of_ok (skip_cons _)]
      exact comma _
    · exact ⟨_, _, rfl⟩
  | false =>
    obtain ⟨before, after, blankBefore, -, rfl⟩ := h
    rw [List.append_assoc, List.cons_append, bind_of_ok (peekToken_cons n blankBefore rfl)]
    change Ends ((skip >>= _) _) _ _
    rw [bind_of_ok (skip_cons _)]
    exact comma _

end

/-! ## Records -/

/-- A member of a record: its name, and what becomes of the record with a value of it. -/
structure Slot (α : Type) where
  name : String
  store : α → Doc → Option α

namespace Slot

section

variable {α : Type}

/-- The members of an object are stored one after the other, each known one once; unknown ones are passed over. -/
def storeMembers (slots : List (Slot α)) : List String → List (List Piece × Doc) → α → Option α
  | _, [], a => some a
  | seen, (ps, d) :: members, a =>
    (Piece.text? ps).bind fun s =>
      match slots.find? fun slot => slot.name == String.ofList s with
      | none => storeMembers slots (String.ofList s :: seen) members a
      | some slot =>
        if seen.contains (String.ofList s) then none
        else (slot.store a d).bind (storeMembers slots (String.ofList s :: seen) members)

/-- The items of an array are stored in the order of the slots, of which there must be enough. -/
def storeItems : List (Slot α) → List Doc → α → Option α
  | _, [], a => some a
  | [], _ :: _, _ => none
  | slot :: slots, d :: items, a => (slot.store a d).bind (storeItems slots items)

/-- The record of a document. -/
def record (slots : List (Slot α)) (blank : α) : Doc → Option α
  | .object members => storeMembers slots [] members blank
  | .array items => storeItems slots items blank
  | _ => none

/-- The field of a decoder that may be absent, and does what the slot says. -/
structure Describes (slot : Slot α) (level : Nat) (f : Field α) : Prop where
  name : f.name = slot.name
  required : f.required = false
  reads : ∀ a, Reads (f.store a) level (slot.store a)

end

end Slot

section

variable {α : Type} {level : Nat} {fields : List (Field α)} {slots : List (Slot α)}

/-- A name has a field and the slot that describes it, or neither. -/
theorem find_slot (h : List.Forall₂ (fun f (s : Slot α) => s.Describes level f) fields slots) (name : String) :
    (fields.find? (fun f => f.name == name) = none ∧ slots.find? (fun s => s.name == name) = none) ∨
      ∃ f s, fields.find? (fun f => f.name == name) = some f ∧ slots.find? (fun s => s.name == name) = some s ∧
        s.Describes level f := by
  induction h with
  | nil => exact .inl ⟨rfl, rfl⟩
  | @cons f s fields slots here _ ih =>
    rw [List.find?_cons, List.find?_cons, here.name]
    cases same : s.name == name with
    | true => exact .inr ⟨f, s, rfl, rfl, here⟩
    | false => exact ih

theorem not_required (h : List.Forall₂ (fun f (s : Slot α) => s.Describes level f) fields slots) :
    ∀ f ∈ fields, f.required = false := by
  induction h with
  | nil => exact fun _ hf => absurd hf List.not_mem_nil
  | cons here _ ih => exact List.forall_mem_cons.2 ⟨here.required, ih⟩

theorem length_le_of_membersAreSpelled {members : List (List Piece × Doc)} {first : Bool} {text : Bytes}
    (h : Doc.MembersAreSpelled first members text) : members.length ≤ text.length := by
  induction members generalizing first text with
  | nil => exact Nat.zero_le _
  | cons m members ih =>
    obtain ⟨lead, a, b, own, rest, -, -, -, -, -, others, rfl⟩ := h
    have further := ih others
    simp only [List.length_append, List.length_cons]
    omega

/-- The members are stored one by one, up to the closing brace. -/
theorem named_spelled (h : List.Forall₂ (fun f (s : Slot α) => s.Describes level f) fields slots)
    {members : List (List Piece × Doc)} {seen : List String} {text : Bytes}
    (spelled : Doc.MembersAreSpelled (seen == []) members text) {fuel depth : Nat} (enough : members.length < fuel)
    (deep : level < depth) (a : α) (n : Nat) (rest : Bytes) :
    Ends (named fields depth fuel seen a ⟨n, text ++ 0x7D :: rest⟩) (Slot.storeMembers slots seen members a)
      (0x7D :: rest) := by
  -- on the members, of which each takes one turn of the fuel and is seen from then on
  induction members generalizing seen text fuel a n with
  | nil =>
    obtain ⟨fuel, rfl⟩ := Nat.exists_eq_add_of_lt enough
    obtain ⟨m, ended⟩ := memberName_end (seen == []) rest n spelled
    have complete : (fields.find? fun f => f.required && !seen.contains f.name) = none :=
      List.find?_eq_none.2 fun f hf => by simp [not_required h f hf]
    rw [named, bind_of_ok ended]
    simp only [complete]
    exact ⟨m, rfl⟩
  | cons member members ih =>
    obtain ⟨fuel, rfl⟩ := Nat.exists_eq_add_of_lt enough
    obtain ⟨ps, d⟩ := member
    obtain ⟨lead, before, after, own, further, leads, valid, blankBefore, blankAfter, ownSpelled, others, rfl⟩ :=
      spelled
    have follows := follows_members others rest
    -- the name, the colon, the value, and then the members that are left
    have name := memberName_pieces valid (before ++ 0x3A :: (after ++ (own ++ (further ++ 0x7D :: rest)))) n leads
    simp only [List.append_assoc, List.cons_append, List.length_cons] at name ⊢
    rw [named, Slot.storeMembers]
    cases text : Piece.text? ps with
    | none =>
      rw [text] at name
      obtain ⟨e, c, failed⟩ := name
      exact ⟨e, c, bind_of_error failed⟩
    | some s =>
      rw [text] at name
      obtain ⟨m, nameRead⟩ := name
      obtain ⟨m', colon⟩ := colon_blank (after ++ (own ++ (further ++ 0x7D :: rest))) m blankBefore
      have rest' : ∀ a' n', Ends (named fields depth (members.length + 1 + fuel) (String.ofList s :: seen) a'
          ⟨n', further ++ 0x7D :: rest⟩) (Slot.storeMembers slots (String.ofList s :: seen) members a') (0x7D :: rest) :=
        fun a' n' => ih (show Doc.MembersAreSpelled ((String.ofList s :: seen) == []) members further from others)
          (by omega) a' n'
      rw [bind_of_ok nameRead, Option.bind_some]
      dsimp only
      rcases find_slot h (String.ofList s) with ⟨field, slot⟩ | ⟨f, slot, field, found, describes⟩
      · obtain ⟨m'', passed⟩ := skipValue_spelled ownSpelled blankAfter follows m'
        simp only [field, slot]
        rw [bind_of_ok colon, bind_of_ok passed]
        exact rest' a m''
      · simp only [field, found]
        split
        · exact ⟨_, _, rfl⟩
        · rw [bind_of_ok colon]
          exact ((describes.reads a).ends d own ownSpelled depth m' after _ deep blankAfter).bind fun a' n' _ =>
            rest' a' n'

/-- What has been read as the rest of an object were members. -/
theorem of_named (h : List.Forall₂ (fun f (s : Slot α) => s.Describes level f) fields slots) {depth : Nat} (fuel : Nat)
    {seen : List String} {a a' : α} {n : Nat} {bs : Bytes} {c : Cursor} (text : IsText bs)
    (read : named fields depth fuel seen a ⟨n, bs⟩ = (.ok a', c)) :
    IsText c.rest ∧ ∃ members inner more, Doc.MembersAreSpelled (seen == []) members inner ∧
      bs = inner ++ 0x7D :: more ∧ c.rest = 0x7D :: more := by
  -- on the fuel: each turn reads a member, or stops before the brace
  induction fuel generalizing seen a n bs with
  | zero => cases read
  | succ fuel ih =>
    rw [named] at read
    obtain ⟨x, ⟨m, bs'⟩, name, read⟩ := of_bind read
    rcases of_memberName text name with ⟨rfl, blank, more, isBlank, all, left, text'⟩ |
      ⟨some, text', lead, ps, leads, valid, all⟩
    · have complete : (fields.find? fun f => f.required && !seen.contains f.name) = none :=
        List.find?_eq_none.2 fun f hf => by simp [not_required h f hf]
      simp only [complete] at read
      obtain ⟨-, rfl⟩ := of_pure read
      exact ⟨text', [], blank, more, isBlank, all, left⟩
    · obtain ⟨s, rfl⟩ := Option.ne_none_iff_exists'.1 some
      -- the value behind the colon is a document, and members follow it
      have item : ∀ {k : Nat} {after : Bytes} {d : Doc} {own rest : Bytes} {before : Bytes} {b : α}, Blank before →
          Blank after → d.IsSpelled own → bs' = before ++ 0x3A :: (after ++ (own ++ rest)) → IsText rest →
            named fields depth fuel (s :: seen) b ⟨k, rest⟩ = (.ok a', c) →
              IsText c.rest ∧ ∃ members inner more, Doc.MembersAreSpelled (seen == []) members inner ∧
                bs = inner ++ 0x7D :: more ∧ c.rest = 0x7D :: more := by
        intro k after d own rest before b hb ha spelled parts text read
        obtain ⟨left, members, inner, more, others, rfl, ended⟩ := ih text read
        refine ⟨left, (ps, d) :: members, _, more,
          ⟨lead, before, after, own, inner, leads, valid, hb, ha, spelled, others, rfl⟩, ?_, ended⟩
        rw [all]
        dsimp only
        rw [parts]
        simp
      rcases find_slot h s with ⟨field, -⟩ | ⟨f, slot, field, -, describes⟩
      · simp only [field] at read
        obtain ⟨_, ⟨k, behind⟩, colon, read⟩ := of_bind read
        obtain ⟨text₁, before, hb, parts⟩ := of_colon text' colon
        obtain ⟨_, ⟨k', rest⟩, passed, read⟩ := of_bind read
        obtain ⟨text₂, after, d, own, ha, spelled, value⟩ := of_skipValue text₁ passed
        exact item hb ha spelled (parts.trans (by rw [value])) text₂ read
      · simp only [field] at read
        split at read
        · cases read
        · obtain ⟨_, ⟨k, behind⟩, colon, read⟩ := of_bind read
          obtain ⟨text₁, before, hb, parts⟩ := of_colon text' colon
          obtain ⟨b, ⟨k', rest⟩, stored, read⟩ := of_bind read
          obtain ⟨text₂, after, d, own, ha, spelled, value⟩ := (describes.reads a).accepts _ _ _ _ _ text₁ stored
          exact item hb ha spelled (parts.trans (by rw [value])) text₂ read

theorem storeItems_eq_none {items : List Doc} (long : slots.length < items.length) (a : α) :
    Slot.storeItems slots items a = none := by
  induction slots generalizing items a with
  | nil =>
    cases items with
    | nil => exact absurd long (Nat.lt_irrefl _)
    | cons d items => rfl
  | cons slot slots ih =>
    cases items with
    | nil => exact absurd long (Nat.not_lt_zero _)
    | cons d items =>
      rw [Slot.storeItems]
      cases slot.store a d with
      | none => rfl
      | some a' => exact ih (Nat.lt_of_succ_lt_succ long) a'

/-- At the end of an array the members that are left keep their values. -/
theorem positional_end (h : List.Forall₂ (fun f (s : Slot α) => s.Describes level f) fields slots) (expected : String)
    (size depth index : Nat) (a : α) {blank : Bytes} (isBlank : Blank blank) (n : Nat) (rest : Bytes)
    (some : fields ≠ []) :
    Ends (positional expected size depth index fields a ⟨n, blank ++ 0x5D :: rest⟩) (.some a) (0x5D :: rest) := by
  induction h generalizing blank index n with
  | nil => exact absurd rfl some
  | @cons f slot fields slots describes others ih =>
    obtain ⟨m, ended⟩ := hasItem_end (index == 0) rest n isBlank
    rw [positional, bind_of_ok ended]
    simp only [Bool.false_eq_true, if_false, describes.required]
    cases fields with
    | nil => exact ⟨m, rfl⟩
    | cons f' fields => exact ih (index + 1) Blank.nil m (List.cons_ne_nil _ _)

theorem closedBy_congr {r r' : Reader α} {closing : Reader Unit} {c c' : Cursor} (h : r c = r' c') :
    closedBy r closing c = closedBy r' closing c' := by
  rw [closedBy, closedBy, h]

/-- The items are stored one by one, up to the closing bracket or to an item that is left over. -/
theorem positional_spelled (h : List.Forall₂ (fun f (s : Slot α) => s.Describes level f) fields slots)
    (expected : String) (size : Nat) {depth : Nat} (deep : level < depth) {index : Nat} {items : List Doc}
    {text : Bytes} (spelled : Doc.AreSpelled (index == 0) items text) (a : α) (n : Nat) (rest : Bytes) :
    Ends (closedBy (positional expected size depth index fields a) endArray ⟨n, text ++ 0x5D :: rest⟩)
      (Slot.storeItems slots items a) rest := by
  -- on the slots, of which each takes one item
  induction h generalizing index items text a n with
  | nil =>
    have read : ∀ c : Cursor, positional expected size depth index ([] : List (Field α)) a c = (.ok a, c) :=
      fun _ => rfl
    cases items with
    | nil => exact Ends.closedBy ⟨n, read _⟩ fun m => endArray_blank rest m spelled
    | cons d items =>
      obtain ⟨lead, own, further, leads, ownSpelled, -, rfl⟩ := spelled
      obtain ⟨b, more, rfl, begins⟩ := ownSpelled.exists_sign
      -- no slot is left for this item, and the bracket does not come yet
      obtain ⟨e, c, failed⟩ := endArray_lead n (more ++ (further ++ 0x5D :: rest)) leads begins.sign.1
        begins.sign.2
      simp only [List.append_assoc, List.cons_append]
      exact ⟨e, c, by rw [closedBy, read]; dsimp only; rw [failed]⟩
  | @cons f slot fields slots describes others ih =>
    cases items with
    | nil =>
      have ended := positional_end (.cons describes others) expected size depth index a spelled n rest
        (List.cons_ne_nil _ _)
      exact ended.closedBy fun m => endArray_blank rest m Blank.nil
    | cons d items =>
      obtain ⟨lead, own, further, leads, ownSpelled, otherSpelled, rfl⟩ := spelled
      obtain ⟨b, more, begins, sign⟩ := ownSpelled.exists_sign
      obtain ⟨m, follows⟩ := hasItem_lead (more ++ (further ++ 0x5D :: rest)) n leads sign.sign.1 sign.sign.2
      have stored := (describes.reads a).ends d own ownSpelled depth m [] (further ++ 0x5D :: rest) deep Blank.nil
      rw [List.nil_append] at stored
      have entered : positional expected size depth index (f :: fields) a
          ⟨n, lead ++ (own ++ further) ++ 0x5D :: rest⟩ =
            (f.store a depth >>= fun a => positional expected size depth (index + 1) fields a)
              ⟨m, own ++ (further ++ 0x5D :: rest)⟩ := by
        rw [positional]
        simp only [begins, List.append_assoc, List.cons_append]
        rw [bind_of_ok follows]
        rfl
      rw [closedBy_congr entered, Slot.storeItems]
      cases meaning : slot.store a d with
      | none =>
        rw [meaning] at stored
        obtain ⟨e, c, failed⟩ := stored
        exact ⟨e, _, by rw [closedBy, bind_of_error failed]⟩
      | some a' =>
        rw [meaning] at stored
        obtain ⟨m', stored⟩ := stored
        rw [closedBy_congr (bind_of_ok stored)]
        exact ih (show Doc.AreSpelled (index + 1 == 0) items further from otherSpelled) a' m'

/-- What has been read as the items of an array were items. -/
theorem of_positional (h : List.Forall₂ (fun f (s : Slot α) => s.Describes level f) fields slots) {expected : String}
    {size depth index : Nat} {a a' : α} {n : Nat} {bs : Bytes} {c : Cursor} (text : IsText bs)
    (read : positional expected size depth index fields a ⟨n, bs⟩ = (.ok a', c)) :
    IsText c.rest ∧ ∀ blank rest, Blank blank → c.rest = blank ++ 0x5D :: rest →
      ∃ items inner, Doc.AreSpelled (index == 0) items inner ∧ bs = inner ++ 0x5D :: rest := by
  -- on the slots; behind the last one the bracket must come
  induction h generalizing index a n bs with
  | nil =>
    obtain ⟨-, rfl⟩ := of_pure read
    exact ⟨text, fun blank rest isBlank parts => ⟨[], blank, isBlank, parts⟩⟩
  | @cons f slot fields slots describes others ih =>
    rw [positional] at read
    obtain ⟨more, ⟨m, bs'⟩, item, read⟩ := of_bind read
    rcases of_hasItem item with ⟨rfl, blank, rest, isBlank, all, left⟩ | ⟨rfl, lead, leads, all⟩
    · simp only [Bool.false_eq_true, if_false, describes.required] at read
      obtain rfl : bs' = 0x5D :: rest := left
      have text' := (all ▸ text).of_ascii isBlank.ascii
      -- nothing has been read behind the bracket
      have ended : c.rest = 0x5D :: rest := by
        cases fields with
        | nil =>
          obtain ⟨-, rfl⟩ := of_pure read
          rfl
        | cons f' fields =>
          obtain ⟨m', ended⟩ := positional_end others expected size depth (index + 1) a Blank.nil m rest
            (List.cons_ne_nil _ _)
          rw [List.nil_append] at ended
          rw [ended] at read
          cases read
          rfl
      refine ⟨ended ▸ text', fun blank' rest' isBlank' parts => ⟨[], blank, isBlank, ?_⟩⟩
      rw [ended] at parts
      cases blank' with
      | nil =>
        obtain rfl : rest = rest' := List.tail_eq_of_cons_eq parts
        exact all
      | cons b blank' =>
        have space := isBlank' b (List.mem_cons_self ..)
        rw [← (List.cons.inj parts).1] at space
        cases space
    · simp only [if_true] at read
      obtain ⟨b, ⟨k, rest⟩, stored, read⟩ := of_bind read
      have text' : IsText bs' := (all ▸ text).of_ascii leads.ascii
      obtain ⟨text₁, blank, d, own, isBlank, spelled, value⟩ := (describes.reads a).accepts _ _ _ _ _ text' stored
      obtain ⟨text₂, further⟩ := ih text₁ read
      refine ⟨text₂, fun blank' rest' isBlank' parts => ?_⟩
      obtain ⟨items, inner, otherSpelled, others⟩ := further blank' rest' isBlank' parts
      refine ⟨d :: items, (lead ++ blank) ++ (own ++ inner),
        ⟨lead ++ blank, own, inner, ?_, spelled, otherSpelled, rfl⟩, ?_⟩
      · exact leads.append isBlank
      · dsimp only at value others all
        rw [all, value, others]
        simp

end

section

variable {α : Type} {level : Nat} {fields : List (Field α)} {slots : List (Slot α)}

/-- The content of brackets has been read, and the bracket that closes them. -/
theorem of_bracketed {depth n : Nat} {b : UInt8} {bs : Bytes} {r : Nat → Reader α} {closing : Reader Unit} {a : α}
    {c : Cursor} (h : closedBy (descend depth r) closing ⟨n, b :: bs⟩ = (.ok a, c)) :
    ∃ c', r (depth - 1) ⟨n + 1, bs⟩ = (.ok a, c') ∧ closing c' = (.ok (), c) := by
  obtain ⟨c', within, closed⟩ := of_closedBy h
  unfold descend at within
  split at within
  · cases within
  · rw [bind_of_ok (skip_cons n)] at within
    exact ⟨c', within, closed⟩

/-- Within the depth, the content of brackets is read one level deeper. -/
theorem closedBy_descend {depth : Nat} (deep : 1 < depth) (r : Nat → Reader α) (closing : Reader Unit) (b : UInt8)
    (n : Nat) (inner : Bytes) :
    closedBy (descend depth r) closing ⟨n, b :: inner⟩ = closedBy (r (depth - 1)) closing ⟨n + 1, inner⟩ := by
  refine closedBy_congr ?_
  unfold descend
  rw [if_neg (by omega), bind_of_ok (skip_cons n)]

theorem record_object {expected : String} {blank : α}
    (h : List.Forall₂ (fun f (s : Slot α) => s.Describes level f) fields slots)
    {members : List (List Piece × Doc)} {inner : Bytes} (within : Doc.MembersAreSpelled true members inner)
    {depth : Nat} (deep : level + 1 < depth) {spaces : Bytes} (isBlank : Blank spaces) (n : Nat) (rest : Bytes) :
    Ends (record expected blank fields depth ⟨n, spaces ++ 0x7B :: (inner ++ 0x7D :: rest)⟩)
      (Slot.record slots blank (.object members)) rest := by
  have enough := length_le_of_membersAreSpelled within
  have room : members.length < 2 * (inner ++ 0x7D :: rest).length + 2 := by
    rw [List.length_append]
    omega
  unfold record
  rw [bind_of_ok (peekValue_cons n isBlank rfl)]
  refine Ends.located ?_
  change Ends (closedBy (descend depth fun depth => do named fields depth (← fuelFor) [] blank) endObject _) _ _
  rw [closedBy_descend (by omega), closedBy_congr (bind_of_ok (fuelFor_eq _))]
  have within : Doc.MembersAreSpelled (([] : List String) == []) members inner := within
  exact (named_spelled h within room (by omega) blank _ rest).closedBy fun m => endObject_blank rest m Blank.nil

theorem record_array {expected : String} {blank : α}
    (h : List.Forall₂ (fun f (s : Slot α) => s.Describes level f) fields slots) {items : List Doc} {inner : Bytes}
    (within : Doc.AreSpelled true items inner) {depth : Nat} (deep : level + 1 < depth) {spaces : Bytes}
    (isBlank : Blank spaces) (n : Nat) (rest : Bytes) :
    Ends (record expected blank fields depth ⟨n, spaces ++ 0x5B :: (inner ++ 0x5D :: rest)⟩)
      (Slot.record slots blank (.array items)) rest := by
  unfold record
  rw [bind_of_ok (peekValue_cons n isBlank rfl)]
  refine Ends.located ?_
  change Ends (closedBy (descend depth fun depth =>
    positional expected fields.length depth 0 fields blank) endArray _) _ _
  rw [closedBy_descend (by omega)]
  have within : Doc.AreSpelled ((0 : Nat) == 0) items inner := within
  exact positional_spelled h expected fields.length (by omega) within blank _ rest

/-- A record begins with a bracket or a brace. -/
theorem record_other (expected : String) (blank : α) (fields : List (Field α)) {b : UInt8} (bracket : b ≠ 0x5B)
    (brace : b ≠ 0x7B) (sign : isSpace b = false) {spaces : Bytes} (isBlank : Blank spaces) (depth n : Nat)
    (more rest : Bytes) : Ends (record expected blank fields depth ⟨n, spaces ++ b :: more⟩) none rest := by
  unfold record
  rw [bind_of_ok (peekValue_cons n isBlank sign), beq_false_of_ne bracket, beq_false_of_ne brace]
  exact (unexpected_fails b _ _ rest).located

/-- What has been read as a record was an array or an object. -/
theorem of_record {expected : String} {blank : α}
    (h : List.Forall₂ (fun f (s : Slot α) => s.Describes level f) fields slots) {depth n : Nat} {bs : Bytes} {a : α}
    {c : Cursor} (text : IsText bs) (read : record expected blank fields depth ⟨n, bs⟩ = (.ok a, c)) :
    IsText c.rest ∧ ∃ spaces d own, Blank spaces ∧ Doc.IsSpelled d own ∧ bs = spaces ++ (own ++ c.rest) := by
  unfold record at read
  obtain ⟨b, ⟨m, bs'⟩, peeked, read⟩ := of_bind read
  obtain ⟨spaces, more, isBlank, -, rfl, left⟩ := of_peekValue peeked
  obtain rfl : bs' = b :: more := left
  have text' := text.of_ascii isBlank.ascii
  have read := of_located read
  split at read
  · rename_i bracket
    obtain rfl := eq_of_beq bracket
    obtain ⟨c', within, closed⟩ := of_bracketed read
    obtain ⟨text₁, further⟩ := of_positional h (text'.of_cons (by decide)) within
    obtain ⟨text₂, blank', blankEnd, ended⟩ := of_endArray text₁ closed
    obtain ⟨items, inner, spelled, parts⟩ := further blank' c.rest blankEnd ended
    exact ⟨text₂, spaces, .array items, 0x5B :: (inner ++ [0x5D]), isBlank, ⟨inner, spelled, rfl⟩, by
      rw [parts]; simp⟩
  · split at read
    · rename_i brace
      obtain rfl := eq_of_beq brace
      obtain ⟨c', within, closed⟩ := of_bracketed read
      obtain ⟨text₁, members, inner, rest, spelled, parts, left⟩ :=
        of_named h _ (text'.of_cons (by decide)) ((bind_of_ok (fuelFor_eq _)).symm.trans within)
      obtain ⟨text₂, blank', blankEnd, ended⟩ := of_endObject text₁ closed
      have same : rest = c.rest := by
        rw [left] at ended
        cases blank' with
        | nil => exact List.tail_eq_of_cons_eq ended
        | cons y blank' =>
          have space := blankEnd y (List.mem_cons_self ..)
          rw [← (List.cons.inj ended).1] at space
          cases space
      exact ⟨text₂, spaces, .object members, 0x7B :: (inner ++ [0x7D]), isBlank, ⟨inner, spelled, rfl⟩, by
        rw [parts, same]; simp⟩
    · have found : located (unexpected b expected) ⟨m, b :: more⟩ = (.ok a, c) := by rw [located, read]
      exact (unexpected_ne_ok found).elim

/-- A record is read from the documents that the slots make one of. -/
theorem reads_record (expected : String) (blank : α)
    (h : List.Forall₂ (fun f (s : Slot α) => s.Describes level f) fields slots) :
    Reads (record expected blank fields) (level + 1) (Slot.record slots blank) := by
  refine ⟨fun d own spelled depth n spaces rest deep isBlank => ?_, fun depth n bs a c => of_record h⟩
  obtain ⟨b, more, rfl, sign⟩ := spelled.exists_sign
  have other : b ≠ 0x5B → b ≠ 0x7B →
      Ends (record expected blank fields depth ⟨n, spaces ++ b :: (more ++ rest)⟩) none rest := fun bracket brace =>
    record_other expected blank fields bracket brace sign.sign.1 isBlank depth n _ rest
  cases d with
  | object members =>
    obtain ⟨inner, within, written⟩ := spelled
    rw [written, List.cons_append, List.append_assoc]
    exact record_object h within deep isBlank n rest
  | array items =>
    obtain ⟨inner, within, written⟩ := spelled
    rw [written, List.cons_append, List.append_assoc]
    exact record_array h within deep isBlank n rest
  | null => exact other (by cases sign; decide) (by cases sign; decide)
  | bool truth => exact other (by cases truth <;> cases sign <;> decide) (by cases truth <;> cases sign <;> decide)
  | string _ => exact other (by cases sign; decide) (by cases sign; decide)
  | number _ =>
    have ne : b ≠ 0x5B ∧ b ≠ 0x7B := by
      rcases sign with rfl | digit
      · decide
      · obtain ⟨-, -, bracket, brace, -⟩ := Doc.sign_of_isDigit digit
        exact ⟨bracket, brace⟩
    exact other ne.1 ne.2

end

/-! ## Whole texts -/

section

variable {α : Type} {decode : Decoder α} {level : Nat} {meaning : Doc → Option α}

/-- A text that holds a document is read as what the document means. -/
theorem Reads.run_written (h : Reads decode level meaning) (deep : level < startDepth) {d : Doc} {text : List Char}
    (written : d.IsWritten text) : (run decode (encode text)).toOption = meaning d := by
  obtain ⟨before, own, after, blankBefore, blankAfter, spelled, parts⟩ := written
  have read := h.ends d own spelled startDepth 0 before after deep blankBefore
  -- behind the document only spaces are left
  have all : Ends (whole decode ⟨0, before ++ (own ++ after)⟩) ((meaning d).bind some) [] :=
    read.bind fun a m _ => by
      rw [bind_of_ok (peekToken_end m blankAfter)]
      exact ⟨_, rfl⟩
  rw [run, parts]
  rw [Option.bind_fun_some] at all
  cases value : meaning d with
  | some a =>
    rw [value] at all
    obtain ⟨m, all⟩ := all
    rw [all]
    rfl
  | none =>
    rw [value] at all
    obtain ⟨e, c, all⟩ := all
    rw [all]
    rfl

/-- A text that is read holds a document. -/
theorem Reads.of_run (h : Reads decode level meaning) (deep : level < startDepth) {text : List Char} {a : α}
    (read : run decode (encode text) = .ok a) : ∃ d : Doc, d.IsWritten text ∧ meaning d = some a := by
  have written : ∃ d : Doc, d.IsWritten text := by
    unfold run at read
    split at read
    · rename_i a' c all
      unfold whole at all
      obtain ⟨b, ⟨m, rest⟩, value, all⟩ := of_bind all
      obtain ⟨-, before, d, own, blankBefore, spelled, parts⟩ := h.accepts _ _ _ _ _ ⟨text, rfl⟩ value
      obtain ⟨x, c', peeked, all⟩ := of_bind all
      rcases of_peekToken peeked with ⟨-, blankAfter, -⟩ | ⟨_, _, _, rfl, -⟩
      · exact ⟨d, before, own, rest, blankBefore, blankAfter, spelled, parts⟩
      · cases all
    · cases read
  obtain ⟨d, written⟩ := written
  exact ⟨d, written, by rw [← h.run_written deep written, read]; rfl⟩

/-- Nothing but spaces may stand behind a document. -/
theorem Reads.run_trailing (h : Reads decode level meaning) (deep : level < startDepth) {d : Doc} {text : List Char}
    {before own after : Bytes} (blank : Blank before) (spelled : d.IsSpelled own) (trailing : ¬Blank after)
    (parts : encode text = before ++ (own ++ after)) : ∃ e, run decode (encode text) = .error e := by
  have read := h.ends d own spelled startDepth 0 before after deep blank
  obtain ⟨spaces, b, more, isBlank, sign, rest⟩ := (exists_blank after).resolve_left trailing
  have all : Ends (whole decode ⟨0, encode text⟩) (none : Option α) [] := by
    rw [parts]
    cases value : meaning d with
    | none =>
      rw [value] at read
      obtain ⟨e, c, read⟩ := read
      exact ⟨e, c, bind_of_error read⟩
    | some a =>
      rw [value] at read
      obtain ⟨m, read⟩ := read
      unfold whole
      rw [bind_of_ok read, rest, bind_of_ok (peekToken_cons m isBlank sign)]
      exact ⟨_, _, rfl⟩
  obtain ⟨e, c, all⟩ := all
  exact ⟨e.message (encode text), by rw [run, all]⟩

end

end Decode

end CommitGate.Json
