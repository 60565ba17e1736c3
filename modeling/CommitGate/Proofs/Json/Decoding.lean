import CommitGate.Proofs.Json.Spelling
import Mathlib.Data.List.Forall2

/-! # What decoders make of a spelled value

`Decode.Yields` holds of a decoder, a value and what the decoder makes of it, however the value is spelled
and wherever it stands. The decoders of parts and the decoders of wholes meet in it.

* `yields_textWith`, `yields_bool`, `Yields.optional`, `yields_list`, `yields_record`: the decoders of one type;
* `run_spelled`: a whole text.

Scope limit: records are objects with members that are known.
-/

namespace CommitGate.Json

namespace Decode

open Reader
open Utf8 (encode)

/-- The decoder makes `x` of a value that holds others within each other at most `level` deep, and fails on
it if `x` is none. -/
structure Yields {α : Type} (decode : Decoder α) (level : Nat) (v : Value) (x : Option α) : Prop where
  ends : ∀ text, Spells v text → ∀ depth n blank rest, level < depth → Blank blank →
    Ends (decode depth ⟨n, blank ++ (text ++ rest)⟩) x rest

/-! ## Single signs -/

section

variable {lead blank : Bytes}

/-- Items end where the array does. -/
theorem hasItem_end (first : Bool) (rest : Bytes) (n : Nat) (h : Blank blank) :
    Ends (hasItem first ⟨n, blank ++ 0x5D :: rest⟩) (some false) (0x5D :: rest) := by
  unfold hasItem
  rw [bind_of_ok (peekToken_cons n h rfl)]
  exact ⟨_, rfl⟩

/-- Another sign is an item's. -/
theorem hasItem_lead {first : Bool} {b : UInt8} (rest : Bytes) (n : Nat) (h : Leads first lead)
    (sign : isSpace b = false) (item : b ≠ 0x5D) :
    Ends (hasItem first ⟨n, lead ++ b :: rest⟩) (some true) (b :: rest) := by
  have item' : (b == 0x5D) = false := beq_false_of_ne item
  unfold hasItem
  cases first with
  | true =>
    rw [bind_of_ok (peekToken_cons n h sign)]
    simp only [item', Bool.false_eq_true, if_false, if_true]
    exact ⟨_, rfl⟩
  | false =>
    obtain ⟨before, after, blankBefore, blankAfter, rfl⟩ := h
    rw [List.append_assoc, List.cons_append, bind_of_ok (peekToken_cons n blankBefore rfl)]
    change Ends ((skip >>= _) _) _ _
    rw [bind_of_ok (skip_cons _), bind_of_ok (peekToken_cons _ blankAfter sign)]
    simp only [item', Bool.false_eq_true, if_false]
    exact ⟨_, rfl⟩

/-- Members end where the object does. -/
theorem memberName_end (first : Bool) (rest : Bytes) (n : Nat) (h : Blank blank) :
    Ends (memberName first ⟨n, blank ++ 0x7D :: rest⟩) (some none) (0x7D :: rest) := by
  unfold memberName
  rw [bind_of_ok (peekToken_cons n h rfl)]
  exact ⟨_, rfl⟩

/-- A string in quotes begins with one. -/
theorem encode_quote_append (k : String) (rest : Bytes) :
    encode (quote k.toList) ++ rest = 0x22 :: (encode (k.toList.flatMap escape) ++ 0x22 :: rest) := by
  simp [quote, Utf8.encodeChar]

theorem name_quoted (k : String) (rest : Bytes) (n : Nat) :
    Ends (memberName.name ⟨n, encode (quote k.toList) ++ rest⟩) (some (some k)) rest := by
  obtain ⟨m, read⟩ := string_quoted k (n + 1) rest
  unfold memberName.name
  rw [encode_quote_append, bind_of_ok (skip_cons n)]
  exact ⟨m, map_of_ok read⟩

/-- A quote begins the name of a member. -/
theorem memberName_lead {first : Bool} (k : String) (rest : Bytes) (n : Nat) (h : Leads first lead) :
    Ends (memberName first ⟨n, lead ++ (encode (quote k.toList) ++ rest)⟩) (some (some k)) rest := by
  unfold memberName
  have quoted := encode_quote_append k rest
  cases first with
  | true =>
    have read := name_quoted k rest (n + lead.length)
    rw [quoted] at read ⊢
    rw [bind_of_ok (peekToken_cons n h rfl)]
    exact read
  | false =>
    obtain ⟨before, after, blankBefore, blankAfter, rfl⟩ := h
    have read := name_quoted k rest (n + before.length + 1 + after.length)
    rw [List.append_assoc, List.cons_append, bind_of_ok (peekToken_cons n blankBefore rfl)]
    change Ends ((skip >>= _) _) _ _
    rw [quoted] at read ⊢
    rw [bind_of_ok (skip_cons _), bind_of_ok (peekToken_cons _ blankAfter rfl)]
    exact read

theorem colon_blank (rest : Bytes) (n : Nat) (h : Blank blank) :
    Ends (colon ⟨n, blank ++ 0x3A :: rest⟩) (some ()) rest := by
  unfold colon
  rw [bind_of_ok (peekToken_cons n h rfl)]
  exact ⟨_, skip_cons _⟩

theorem endArray_blank (rest : Bytes) (n : Nat) (h : Blank blank) :
    Ends (endArray ⟨n, blank ++ 0x5D :: rest⟩) (some ()) rest := by
  unfold endArray
  rw [bind_of_ok (peekToken_cons n h rfl)]
  exact ⟨_, skip_cons _⟩

theorem endObject_blank (rest : Bytes) (n : Nat) (h : Blank blank) :
    Ends (endObject ⟨n, blank ++ 0x7D :: rest⟩) (some ()) rest := by
  unfold endObject
  rw [bind_of_ok (peekToken_cons n h rfl)]
  exact ⟨_, skip_cons _⟩

end

/-! ## Brackets -/

section

variable {α : Type} {x : Option α} {depth : Nat} {b : UInt8} {inner within rest : Bytes}
  {r : Nat → Reader α} {closing : Reader Unit}

/-- Between brackets there is one level less. -/
theorem bracketed (n : Nat) (deep : 1 < depth) (read : ∀ m, Ends (r (depth - 1) ⟨m, inner⟩) x within)
    (closes : ∀ m, Ends (closing ⟨m, within⟩) (some ()) rest) :
    Ends (located (closedBy (descend depth r) closing) ⟨n, b :: inner⟩) x rest := by
  have entered : Ends (descend depth r ⟨n, b :: inner⟩) x within := by
    unfold descend
    rw [if_neg (Nat.not_le.2 deep), bind_of_ok (skip_cons n)]
    exact read _
  exact (entered.closedBy closes).located

theorem fuelFor_eq (c : Cursor) : fuelFor c = (.ok (2 * c.rest.length + 2), c) := rfl

end

/-! ## Texts -/

section

variable {α : Type} {decode : Decoder α} {level : Nat} {v : Value} {x : Option α}

/-- A decoder that uses no depth can be used at any. -/
theorem Yields.mono {level' : Nat} (h : Yields decode level v x) (le : level ≤ level') :
    Yields decode level' v x :=
  ⟨fun text spelled depth n blank rest deep =>
    h.ends text spelled depth n blank rest (Nat.lt_of_le_of_lt le deep)⟩

theorem Yields.of_eq {y : Option α} (h : Yields decode level v x) (same : x = y) : Yields decode level v y :=
  same ▸ h

theorem Yields.map {β : Type} (h : Yields decode level v x) (f : α → β) :
    Yields (fun depth => f <$> decode depth) level v (x.map f) :=
  ⟨fun text spelled depth n blank rest deep isBlank =>
    (h.ends text spelled depth n blank rest deep isBlank).map f⟩

/-- A string is read, and refused or made something of. -/
theorem yields_textWith (expected : String) (accept : String → Except String α) (s : String) :
    Yields (textWith expected accept) 0 (.string s) (accept s).toOption := by
  constructor
  rintro text rfl depth n blank rest - isBlank
  obtain ⟨m, read⟩ := string_quoted s (n + blank.length + 1) rest
  unfold textWith
  rw [encode_quote_append, bind_of_ok (peekValue_cons n isBlank rfl)]
  change Ends ((skip >>= _) _) _ _
  rw [bind_of_ok (skip_cons _), bind_of_ok read]
  cases accept s with
  | ok a => exact ⟨m, rfl⟩
  | error message => exact ⟨_, _, rfl⟩

theorem yields_text (s : String) : Yields text 0 (.string s) (some s) := yields_textWith _ _ s

/-- A word is read letter by letter. -/
theorem word_ofAscii (letters : String) (h : ∀ c ∈ letters.toList, c.toNat < 256) (n : Nat)
    (rest : Bytes) : Ends (word letters.toList ⟨n, Bytes.ofAscii letters ++ rest⟩) (some ()) rest := by
  unfold Bytes.ofAscii
  generalize letters.toList = letters at h ⊢
  induction letters generalizing n with
  | nil => exact ⟨n, rfl⟩
  | cons c letters ih =>
    rw [List.map_cons, List.cons_append, word_cons n (h c (List.mem_cons_self ..))]
    exact ih (n + 1) fun c' hc => h c' (List.mem_cons_of_mem _ hc)

theorem ofAscii_true : Bytes.ofAscii "true" = 0x74 :: Bytes.ofAscii "rue" := by decide

theorem ofAscii_false : Bytes.ofAscii "false" = 0x66 :: Bytes.ofAscii "alse" := by decide

theorem yields_bool (b : Bool) : Yields bool 0 (.bool b) (some b) := by
  constructor
  rintro text rfl depth n blank rest - isBlank
  unfold bool
  cases b with
  | true =>
    obtain ⟨m, read⟩ := word_ofAscii "rue" (forall_mem_of_all (by decide)) (n + blank.length + 1) rest
    rw [if_pos rfl, ofAscii_true, List.cons_append, bind_of_ok (peekValue_cons n isBlank rfl)]
    simp only [beq_self_eq_true, if_true]
    rw [bind_of_ok (skip_cons _), bind_of_ok read]
    exact ⟨m, rfl⟩
  | false =>
    obtain ⟨m, read⟩ := word_ofAscii "alse" (forall_mem_of_all (by decide)) (n + blank.length + 1) rest
    have other : ((0x66 : UInt8) == 0x74) = false := rfl
    rw [if_neg Bool.false_ne_true, ofAscii_false, List.cons_append,
      bind_of_ok (peekValue_cons n isBlank rfl)]
    simp only [other, Bool.false_eq_true, if_false, beq_self_eq_true, if_true]
    rw [bind_of_ok (skip_cons _), bind_of_ok read]
    exact ⟨m, rfl⟩

/-- Anything but `null` is there. -/
theorem Yields.optional {members : List (String × Value)} (h : Yields decode level (.object members) x) :
    Yields (optional decode) level (.object members) (x.map some) := by
  constructor
  rintro text ⟨inner, spelled, rfl⟩ depth n blank rest deep isBlank
  have read := h.ends _ ⟨inner, spelled, rfl⟩ depth (n + blank.length) [] rest deep Blank.nil
  unfold Decode.optional
  rw [List.cons_append, bind_of_ok (peekToken_cons n isBlank rfl)]
  exact read.map some

end

/-! ## Arrays -/

section

variable {α : Type} {decode : Decoder α} {level : Nat} {xs : List α} {write : α → Value}

theorem length_le_of_spellsItems {items : List Value} {first : Bool} {text : Bytes}
    (h : SpellsItems first items text) : items.length ≤ text.length + if first then 1 else 0 := by
  induction items generalizing first text with
  | nil => exact Nat.zero_le _
  | cons v items ih =>
    obtain ⟨lead, own, rest, leads, -, others, rfl⟩ := h
    have further := ih others
    have comma : 1 ≤ lead.length + if first then 1 else 0 := by
      cases first with
      | true => exact Nat.le_add_left ..
      | false =>
        obtain ⟨before, after, -, -, rfl⟩ := leads
        simp only [List.length_append, List.length_cons]
        omega
    simp only [List.length_append, List.length_cons, Bool.false_eq_true, if_false] at further ⊢
    omega

/-- The items are read one by one, up to the closing bracket. -/
theorem listFrom_items (fits : ∀ a ∈ xs, (write a).Fits level)
    (h : ∀ a ∈ xs, Yields decode level (write a) (some a)) {first : Bool} {text : Bytes}
    (spelled : SpellsItems first (xs.map write) text) {fuel depth : Nat} (enough : xs.length < fuel)
    (deep : level < depth) (before : List α) (rest : Bytes) (n : Nat) :
    Ends (listFrom decode depth fuel first before ⟨n, text ++ 0x5D :: rest⟩) (some (before.reverse ++ xs))
      (0x5D :: rest) := by
  -- on the items, whatever has been read before them
  induction xs generalizing first text fuel before n with
  | nil =>
    cases fuel with
    | zero => exact absurd enough (Nat.not_lt_zero _)
    | succ fuel =>
      obtain ⟨m, ended⟩ := hasItem_end first rest n spelled
      rw [listFrom, bind_of_ok ended, List.append_nil]
      exact ⟨m, rfl⟩
  | cons x xs ih =>
    cases fuel with
    | zero => exact absurd enough (Nat.not_lt_zero _)
    | succ fuel =>
      obtain ⟨lead, own, further, leads, ownSpelled, others, rfl⟩ := spelled
      obtain ⟨b, more, rfl, sign, item⟩ := exists_sign (fits x (List.mem_cons_self ..)) ownSpelled
      obtain ⟨m, follows⟩ := hasItem_lead (more ++ (further ++ 0x5D :: rest)) n leads sign item
      obtain ⟨m', one⟩ := (h x (List.mem_cons_self ..)).ends _ ownSpelled depth m []
        (further ++ 0x5D :: rest) deep Blank.nil
      have all := ih (fun w hw => fits w (List.mem_cons_of_mem _ hw))
        (fun w hw => h w (List.mem_cons_of_mem _ hw)) others (Nat.lt_of_succ_lt_succ enough) (x :: before) m'
      rw [List.reverse_cons, List.append_assoc] at all
      rw [listFrom]
      simp only [List.nil_append, List.append_assoc, List.cons_append] at one ⊢
      rw [bind_of_ok follows]
      simp only [if_true]
      rw [bind_of_ok one]
      exact all

/-- A list is read back if its items are. -/
theorem yields_list (fits : ∀ a ∈ xs, (write a).Fits level)
    (h : ∀ a ∈ xs, Yields decode level (write a) (some a)) :
    Yields (list decode) (level + 1) (.array (xs.map write)) (some xs) := by
  constructor
  rintro text ⟨inner, spelled, rfl⟩ depth n blank rest deep isBlank
  unfold Decode.list
  rw [List.cons_append, List.append_assoc, bind_of_ok (peekValue_cons n isBlank rfl)]
  refine bracketed _ (by omega) (fun m => ?_) fun m => endArray_blank rest m Blank.nil
  have enough := length_le_of_spellsItems spelled
  rw [List.length_map, if_pos rfl] at enough
  have room : xs.length < 2 * (inner ++ 0x5D :: rest).length + 2 := by
    rw [List.length_append]
    omega
  rw [bind_of_ok (fuelFor_eq _)]
  exact listFrom_items fits h spelled room (by omega) [] rest m

end

/-! ## Records -/

section

variable {α : Type} {fields : List (Field α)} {level : Nat}

/-- There is a field for the member, which makes the step of what is read before. -/
def Stores (fields : List (Field α)) (level : Nat) (m : String × Value) (step : α → Option α) : Prop :=
  ∃ f ∈ fields, f.name = m.1 ∧ ∀ a, Yields (f.store a) level m.2 (step a)

/-- A field is named by its place. -/
theorem Stores.needed {β : Type} {k : String} {decode : Decoder β} {set : α → β → α} {v : Value}
    {x : Option β} (i : Nat) (h : Yields decode level v x) (field : fields[i]? = some (.needed k decode set)) :
    Stores fields level (k, v) fun a => x.map (set a) :=
  ⟨_, List.mem_of_getElem? field, rfl, fun a => h.map (set a)⟩

@[inherit_doc Stores.needed]
theorem Stores.optional {β : Type} {k : String} {decode : Decoder β} {set : α → β → α} {v : Value}
    {x : Option β} (i : Nat) (h : Yields decode level v x)
    (field : fields[i]? = some (.optional k decode set)) :
    Stores fields level (k, v) fun a => x.map (set a) :=
  ⟨_, List.mem_of_getElem? field, rfl, fun a => h.map (set a)⟩

theorem find_field (distinct : (fields.map Field.name).Nodup) {f : Field α} (h : f ∈ fields) :
    fields.find? (fun g => g.name == f.name) = some f := by
  induction fields with
  | nil => exact absurd h List.not_mem_nil
  | cons g fields ih =>
    rw [List.map_cons, List.nodup_cons] at distinct
    rcases List.mem_cons.1 h with rfl | further
    · simp
    · have other : (g.name == f.name) = false :=
        beq_false_of_ne fun same => distinct.1 (same ▸ List.mem_map_of_mem further)
      rw [List.find?_cons, other]
      exact ih distinct.2 further

theorem length_le_of_spellsMembers {members : List (String × Value)} {first : Bool} {text : Bytes}
    (h : SpellsMembers first members text) : members.length ≤ text.length := by
  induction members generalizing first text with
  | nil => exact Nat.zero_le _
  | cons m members ih =>
    obtain ⟨lead, a, b, own, rest, -, -, -, -, others, rfl⟩ := h
    have further := ih others
    simp only [List.length_append, List.length_cons]
    omega

/-- One member is read and stored, and what follows it is read with its name among those seen. -/
theorem named_member {k : String} {v : Value} {step y : α → Option α}
    (distinct : (fields.map Field.name).Nodup) (stores : Stores fields level (k, v) step)
    {seen : List String} (unseen : k ∉ seen) {lead before after own rest rest' : Bytes}
    (leads : Leads (seen == []) lead) (blankBefore : Blank before) (blankAfter : Blank after)
    (spelled : Spells v own) {fuel depth : Nat} (deep : level < depth)
    (next : ∀ a n, Ends (named fields depth fuel (k :: seen) a ⟨n, rest⟩) (y a) rest') (a : α) (n : Nat) :
    Ends (named fields depth (fuel + 1) seen a
        ⟨n, lead ++ (encode (quote k.toList) ++ (before ++ 0x3A :: (after ++ (own ++ rest))))⟩)
      ((step a).bind y) rest' := by
  obtain ⟨f, field, name, yields⟩ := stores
  have find := find_field distinct field
  rw [name] at find
  obtain ⟨m, follows⟩ := memberName_lead k (before ++ 0x3A :: (after ++ (own ++ rest))) n leads
  obtain ⟨m', colon⟩ := colon_blank (after ++ (own ++ rest)) m blankBefore
  have fresh : seen.contains k = false := by simpa using unseen
  rw [named, bind_of_ok follows]
  simp only [find, fresh, Bool.false_eq_true, if_false]
  rw [bind_of_ok colon]
  exact ((yields a).ends _ spelled depth m' after rest deep blankAfter).bind fun a' n' _ => next a' n'

/-- The members are read one by one, up to the closing brace. -/
theorem named_members {members : List (String × Value)} {steps : List (α → Option α)}
    (distinct : (fields.map Field.name).Nodup)
    (stores : List.Forall₂ (Stores fields level) members steps) {seen : List String}
    (nodup : (members.map Prod.fst).Nodup) (fresh : ∀ m ∈ members, m.1 ∉ seen)
    (complete : ∀ f ∈ fields, f.required = true → f.name ∈ seen ∨ f.name ∈ members.map Prod.fst)
    {text : Bytes} (spelled : SpellsMembers (seen == []) members text) {fuel depth : Nat}
    (enough : members.length < fuel) (deep : level < depth) (a : α) (n : Nat) (rest : Bytes) :
    Ends (named fields depth fuel seen a ⟨n, text ++ 0x7D :: rest⟩)
      (steps.foldlM (fun a step => step a) a) (0x7D :: rest) := by
  -- on the members with their fields: what has been seen, and what still stands there, makes up what is needed
  induction stores generalizing seen text fuel a n with
  | nil =>
    cases fuel with
    | zero => exact absurd enough (Nat.not_lt_zero _)
    | succ fuel =>
      obtain ⟨m, ended⟩ := memberName_end (seen == []) rest n spelled
      have missing : (fields.find? fun f => f.required && !seen.contains f.name) = none := by
        refine List.find?_eq_none.2 fun f hf => ?_
        have there := complete f hf
        simp only [List.map_nil, List.not_mem_nil, or_false] at there
        cases required : f.required <;> simp [required, there]
      rw [named, bind_of_ok ended]
      simp only [missing]
      exact ⟨m, rfl⟩
  | @cons member step members steps store stores ih =>
    cases fuel with
    | zero => exact absurd enough (Nat.not_lt_zero _)
    | succ fuel =>
      obtain ⟨k, v⟩ := member
      obtain ⟨lead, before, after, own, further, leads, blankBefore, blankAfter, ownSpelled, others, rfl⟩ :=
        spelled
      rw [List.map_cons, List.nodup_cons] at nodup
      have others' : SpellsMembers ((k :: seen) == []) members further := others
      simp only [List.append_assoc, List.cons_append]
      refine named_member distinct store (fresh (k, v) (List.mem_cons_self ..)) leads blankBefore blankAfter
        ownSpelled deep (fun a' n' => ih nodup.2 (fun m hm => ?_) (fun f hf required => ?_) others'
          (Nat.lt_of_succ_lt_succ enough) a' n') a n
      · rw [List.mem_cons, not_or]
        exact ⟨fun same => nodup.1 (List.mem_map.2 ⟨m, hm, same⟩), fresh m (List.mem_cons_of_mem _ hm)⟩
      · have there := complete f hf required
        rw [List.map_cons, List.mem_cons] at there
        rw [List.mem_cons]
        exact or_assoc.2 (or_left_comm.1 there)

/-- A record is read from an object with members that have fields, each once, and no field missing that must
be present. -/
theorem yields_record {members : List (String × Value)} {steps : List (α → Option α)} {blank : α}
    (expected : String) (distinct : (fields.map Field.name).Nodup)
    (stores : List.Forall₂ (Stores fields level) members steps)
    (nodup : (members.map Prod.fst).Nodup)
    (complete : ∀ f ∈ fields, f.required = true → f.name ∈ members.map Prod.fst) :
    Yields (record expected blank fields) (level + 1) (.object members)
      (steps.foldlM (fun a step => step a) blank) := by
  constructor
  rintro text ⟨inner, spelled, rfl⟩ depth n spaces rest deep isBlank
  unfold record
  rw [List.cons_append, List.append_assoc, bind_of_ok (peekValue_cons n isBlank rfl)]
  refine bracketed _ (by omega) (fun m => ?_) fun m => endObject_blank rest m Blank.nil
  have enough := length_le_of_spellsMembers spelled
  rw [bind_of_ok (fuelFor_eq _)]
  have room : members.length < 2 * (inner ++ 0x7D :: rest).length + 2 := by
    rw [List.length_append]
    omega
  exact named_members distinct stores nodup (fun _ _ => List.not_mem_nil) (fun f hf h => .inr (complete f hf h))
    spelled room (by omega) blank m rest

end

/-! ## Whole texts -/

/-- A text is read if it spells a value that is not nested too deep, with spaces around it or not. -/
theorem run_spelled {α : Type} {decode : Decoder α} {level : Nat} {v : Value} {x : Option α}
    (h : Yields decode level v x) (deep : level < startDepth) {text before after : Bytes}
    (spelled : Spells v text) (blankBefore : Blank before) (blankAfter : Blank after) :
    (run decode (before ++ (text ++ after))).toOption = x := by
  have read := h.ends text spelled startDepth 0 before after deep blankBefore
  cases x with
  | some a =>
    obtain ⟨m, read⟩ := read
    have all : whole decode ⟨0, before ++ (text ++ after)⟩ = (.ok a, ⟨m + after.length, []⟩) := by
      unfold whole
      rw [bind_of_ok read, bind_of_ok (peekToken_end m blankAfter)]
      rfl
    rw [run, all]
    rfl
  | none =>
    obtain ⟨e, c, read⟩ := read
    have all : whole decode ⟨0, before ++ (text ++ after)⟩ = (.error e, c) := by
      unfold whole
      rw [bind_of_error read]
    rw [run, all]
    rfl

end Decode

end CommitGate.Json
