import CommitGate.Json.Content
import CommitGate.Proofs.Json.Decoding

/-! # Spelled values, read as values

A record whose kind is a member of its own is read into values first. Any value without numbers comes out as it
was (`yields_value`), and so do the members of such a record (`yields_tagged`).

Scope limit: the member for the kind comes first.
-/

namespace CommitGate.Json

namespace Decode

open Reader
open Utf8 (encode)

/-! ## Any value -/

section

variable {level : Nat}

theorem ofAscii_null : Bytes.ofAscii "null" = 0x6E :: Bytes.ofAscii "ull" := by decide

/-- Values that hold no others are read at once. -/
theorem valueFrom_of_scalar {v : Value} {b : UInt8} {more blank rest : Bytes} (fuel depth n : Nat)
    (h : Blank blank) (sign : isSpace b = false)
    (read : ∀ m, Ends (scalar b ⟨m, b :: (more ++ rest)⟩) (some (some v)) rest) :
    Ends (valueFrom (fuel + 1) depth ⟨n, blank ++ (b :: more ++ rest)⟩) (some v) rest := by
  obtain ⟨m, read⟩ := read (n + blank.length)
  rw [valueFrom, List.cons_append, bind_of_ok (peekValue_cons n h sign), bind_of_ok read]
  exact ⟨m, rfl⟩

theorem scalar_null (n : Nat) (rest : Bytes) :
    Ends (scalar 0x6E ⟨n, 0x6E :: (Bytes.ofAscii "ull" ++ rest)⟩) (some (some .null)) rest := by
  obtain ⟨m, read⟩ := word_ofAscii "ull" (forall_mem_of_all (by decide)) (n + 1) rest
  unfold scalar
  simp only [beq_self_eq_true, if_true]
  rw [bind_of_ok (skip_cons _), bind_of_ok read]
  exact ⟨m, rfl⟩

theorem scalar_true (n : Nat) (rest : Bytes) :
    Ends (scalar 0x74 ⟨n, 0x74 :: (Bytes.ofAscii "rue" ++ rest)⟩) (some (some (.bool true))) rest := by
  obtain ⟨m, read⟩ := word_ofAscii "rue" (forall_mem_of_all (by decide)) (n + 1) rest
  unfold scalar
  rw [if_neg (by decide), if_pos (by decide), bind_of_ok (skip_cons _), bind_of_ok read]
  exact ⟨m, rfl⟩

theorem scalar_false (n : Nat) (rest : Bytes) :
    Ends (scalar 0x66 ⟨n, 0x66 :: (Bytes.ofAscii "alse" ++ rest)⟩) (some (some (.bool false))) rest := by
  obtain ⟨m, read⟩ := word_ofAscii "alse" (forall_mem_of_all (by decide)) (n + 1) rest
  unfold scalar
  rw [if_neg (by decide), if_neg (by decide), if_pos (by decide), bind_of_ok (skip_cons _), bind_of_ok read]
  exact ⟨m, rfl⟩

theorem scalar_quote (s : String) (n : Nat) (rest : Bytes) :
    Ends (scalar 0x22 ⟨n, 0x22 :: (encode (s.toList.flatMap escape) ++ 0x22 :: rest)⟩)
      (some (some (.string s))) rest := by
  obtain ⟨m, read⟩ := string_quoted s (n + 1) rest
  unfold scalar
  rw [if_neg (by decide), if_neg (by decide), if_neg (by decide), if_neg (by decide), if_neg (by decide),
    if_pos (by decide), bind_of_ok (skip_cons _), bind_of_ok read]
  exact ⟨m, rfl⟩

/-- The value is read back from any spelling of it, given as much fuel as that is long. -/
def ReadsBack (level : Nat) (v : Value) : Prop :=
  ∀ text, Spells v text → ∀ fuel depth n blank rest, text.length ≤ fuel → level < depth → Blank blank →
    Ends (valueFrom fuel depth ⟨n, blank ++ (text ++ rest)⟩) (some v) rest

theorem itemsFrom_items {items : List Value} (fits : ∀ v ∈ items, v.Fits level)
    (h : ∀ v ∈ items, ReadsBack level v) {first : Bool} {text : Bytes}
    (spelled : SpellsItems first items text) {fuel depth : Nat} (enough : text.length < fuel)
    (deep : level < depth) (before : List Value) (n : Nat) (rest : Bytes) :
    Ends (itemsFrom fuel first before depth ⟨n, text ++ 0x5D :: rest⟩)
      (some (.array (before.reverse ++ items))) (0x5D :: rest) := by
  -- on the items, whatever has been read before them; behind each the text that is left is shorter
  induction items generalizing first text fuel before n with
  | nil =>
    cases fuel with
    | zero => exact absurd enough (Nat.not_lt_zero _)
    | succ fuel =>
      obtain ⟨m, ended⟩ := hasItem_end first rest n spelled
      rw [itemsFrom, bind_of_ok ended, List.append_nil]
      exact ⟨m, rfl⟩
  | cons v items ih =>
    cases fuel with
    | zero => exact absurd enough (Nat.not_lt_zero _)
    | succ fuel =>
      obtain ⟨lead, own, further, leads, ownSpelled, others, rfl⟩ := spelled
      obtain ⟨b, more, rfl, sign, item⟩ := exists_sign (fits v (List.mem_cons_self ..)) ownSpelled
      obtain ⟨m, follows⟩ := hasItem_lead (more ++ (further ++ 0x5D :: rest)) n leads sign item
      simp only [List.length_append, List.length_cons] at enough
      obtain ⟨m', one⟩ := h v (List.mem_cons_self ..) _ ownSpelled fuel depth m []
        (further ++ 0x5D :: rest) (by rw [List.length_cons]; omega) deep Blank.nil
      have all := ih (fun w hw => fits w (List.mem_cons_of_mem _ hw))
        (fun w hw => h w (List.mem_cons_of_mem _ hw)) others (show further.length < fuel by omega)
        (v :: before) m'
      rw [List.reverse_cons, List.append_assoc] at all
      rw [itemsFrom]
      simp only [List.nil_append, List.append_assoc, List.cons_append] at one ⊢
      rw [bind_of_ok follows]
      simp only [if_true]
      rw [bind_of_ok one]
      exact all

theorem membersFrom_members {members : List (String × Value)} (h : ∀ m ∈ members, ReadsBack level m.2)
    {first : Bool} {text : Bytes} (spelled : SpellsMembers first members text) {fuel depth : Nat}
    (enough : text.length < fuel) (deep : level < depth) (before : List (String × Value)) (n : Nat)
    (rest : Bytes) :
    Ends (membersFrom fuel first before depth ⟨n, text ++ 0x7D :: rest⟩)
      (some (.object (before.reverse ++ members))) (0x7D :: rest) := by
  induction members generalizing first text fuel before n with
  | nil =>
    cases fuel with
    | zero => exact absurd enough (Nat.not_lt_zero _)
    | succ fuel =>
      obtain ⟨m, ended⟩ := memberName_end first rest n spelled
      rw [membersFrom, bind_of_ok ended, List.append_nil]
      exact ⟨m, rfl⟩
  | cons member members ih =>
    cases fuel with
    | zero => exact absurd enough (Nat.not_lt_zero _)
    | succ fuel =>
      obtain ⟨k, v⟩ := member
      obtain ⟨lead, a, b, own, further, leads, blankBefore, blankAfter, ownSpelled, others, rfl⟩ := spelled
      obtain ⟨m, follows⟩ := memberName_lead k
        (a ++ 0x3A :: (b ++ (own ++ (further ++ 0x7D :: rest)))) n leads
      obtain ⟨m₁, colon⟩ := colon_blank (b ++ (own ++ (further ++ 0x7D :: rest))) m blankBefore
      simp only [List.length_append, List.length_cons] at enough
      obtain ⟨m₂, one⟩ := h (k, v) (List.mem_cons_self ..) _ ownSpelled fuel depth m₁ b
        (further ++ 0x7D :: rest) (by omega) deep blankAfter
      have all := ih (fun w hw => h w (List.mem_cons_of_mem _ hw)) others
        (show further.length < fuel by omega) ((k, v) :: before) m₂
      rw [List.reverse_cons, List.append_assoc] at all
      rw [membersFrom]
      simp only [List.append_assoc, List.cons_append]
      rw [bind_of_ok follows]
      simp only []
      rw [bind_of_ok colon]
      rw [bind_of_ok one]
      exact all

theorem valueFrom_array {items : List Value} (fits : ∀ v ∈ items, v.Fits level)
    (h : ∀ v ∈ items, ReadsBack level v) : ReadsBack (level + 1) (.array items) := by
  rintro text ⟨inner, spelled, rfl⟩ fuel depth n blank rest enough deep isBlank
  cases fuel with
  | zero => exact absurd enough (Nat.not_le.2 (Nat.succ_pos _))
  | succ fuel =>
    simp only [List.length_append, List.length_cons, List.length_nil] at enough
    rw [valueFrom, List.cons_append, List.append_assoc, bind_of_ok (peekValue_cons n isBlank rfl)]
    refine bracketed _ (by omega) (fun m => ?_) fun m => endArray_blank rest m Blank.nil
    exact itemsFrom_items fits h spelled (by omega) (by omega) [] m rest

theorem valueFrom_object {members : List (String × Value)} (h : ∀ m ∈ members, ReadsBack level m.2) :
    ReadsBack (level + 1) (.object members) := by
  rintro text ⟨inner, spelled, rfl⟩ fuel depth n blank rest enough deep isBlank
  cases fuel with
  | zero => exact absurd enough (Nat.not_le.2 (Nat.succ_pos _))
  | succ fuel =>
    simp only [List.length_append, List.length_cons, List.length_nil] at enough
    rw [valueFrom, List.cons_append, List.append_assoc, bind_of_ok (peekValue_cons n isBlank rfl)]
    refine bracketed _ (by omega) (fun m => ?_) fun m => endObject_blank rest m Blank.nil
    exact membersFrom_members h spelled (by omega) (by omega) [] m rest

/-- A value without numbers is read back. -/
theorem readsBack_of_fits {v : Value} (h : v.Fits level) : ReadsBack level v := by
  -- on the value; arrays and objects are read one level deeper
  induction h with
  | null =>
    rintro text rfl fuel depth n blank rest enough deep isBlank
    cases fuel with
    | zero => exact absurd enough (by decide)
    | succ fuel =>
      rw [ofAscii_null]
      exact valueFrom_of_scalar fuel depth n isBlank rfl fun m => scalar_null m rest
  | bool b =>
    rintro text rfl fuel depth n blank rest enough deep isBlank
    cases fuel with
    | zero => exact absurd enough (by cases b <;> decide)
    | succ fuel =>
      cases b with
      | true =>
        rw [if_pos rfl, ofAscii_true]
        exact valueFrom_of_scalar fuel depth n isBlank rfl fun m => scalar_true m rest
      | false =>
        rw [if_neg Bool.false_ne_true, ofAscii_false]
        exact valueFrom_of_scalar fuel depth n isBlank rfl fun m => scalar_false m rest
  | string s =>
    rintro text rfl fuel depth n blank rest enough deep isBlank
    cases fuel with
    | zero => exact absurd enough (by simp [quote, Utf8.encodeChar])
    | succ fuel =>
      have written : encode (quote s.toList) = 0x22 :: (encode (s.toList.flatMap escape) ++ [0x22]) := by
        simpa using encode_quote_append s []
      rw [written]
      refine valueFrom_of_scalar fuel depth n isBlank rfl fun m => ?_
      rw [List.append_assoc]
      exact scalar_quote s m rest
  | array fits ih => exact valueFrom_array fits ih
  | object fits ih => exact valueFrom_object ih

theorem yields_value {v : Value} (h : v.Fits level) : Yields value level v (some v) := by
  constructor
  intro text spelled depth n blank rest deep isBlank
  unfold value
  rw [bind_of_ok (fuelFor_eq _)]
  refine readsBack_of_fits h text spelled _ depth n blank rest ?_ deep isBlank
  simp only [List.length_append]
  omega

end

end Decode

namespace Content

open Decode Reader

variable {κ : Type} {level : Nat} {tag : String} {kind : Decoder κ}

/-- Behind the member for the kind, the others are kept as they are. -/
theorem splitMembers_members {members : List (String × Value)} {k : κ} (others : ∀ m ∈ members, m.1 ≠ tag)
    (fits : ∀ m ∈ members, m.2.Fits level) {text : Bytes} (spelled : SpellsMembers false members text)
    {fuel depth : Nat} (enough : members.length < fuel) (deep : level < depth)
    (before : List (String × Value)) (n : Nat) (rest : Bytes) :
    Ends (splitMembers tag kind depth fuel false (some k) before ⟨n, text ++ 0x7D :: rest⟩)
      (some (k, .object (before.reverse ++ members))) (0x7D :: rest) := by
  -- on the members, whatever has been kept before them
  induction members generalizing text fuel before n with
  | nil =>
    cases fuel with
    | zero => exact absurd enough (Nat.not_lt_zero _)
    | succ fuel =>
      obtain ⟨m, ended⟩ := memberName_end false rest n spelled
      rw [splitMembers, bind_of_ok ended, List.append_nil]
      exact ⟨m, rfl⟩
  | cons member members ih =>
    cases fuel with
    | zero => exact absurd enough (Nat.not_lt_zero _)
    | succ fuel =>
      obtain ⟨name, v⟩ := member
      obtain ⟨lead, a, b, own, further, leads, blankBefore, blankAfter, ownSpelled, more, rfl⟩ := spelled
      obtain ⟨m, follows⟩ := memberName_lead name
        (a ++ 0x3A :: (b ++ (own ++ (further ++ 0x7D :: rest)))) n leads
      obtain ⟨m₁, colon⟩ := colon_blank (b ++ (own ++ (further ++ 0x7D :: rest))) m blankBefore
      obtain ⟨m₂, one⟩ := (yields_value (fits (name, v) (List.mem_cons_self ..))).ends _ ownSpelled depth m₁ b
        (further ++ 0x7D :: rest) deep blankAfter
      have all := ih (fun w hw => others w (List.mem_cons_of_mem _ hw))
        (fun w hw => fits w (List.mem_cons_of_mem _ hw)) more (Nat.lt_of_succ_lt_succ enough)
        ((name, v) :: before) m₂
      have other : (name == tag) = false := beq_false_of_ne (others (name, v) (List.mem_cons_self ..))
      rw [List.reverse_cons, List.append_assoc] at all
      rw [splitMembers]
      simp only [List.append_assoc, List.cons_append]
      rw [bind_of_ok follows]
      simp only [other, Bool.false_eq_true, if_false]
      rw [bind_of_ok colon]
      rw [bind_of_ok one]
      exact all

/-- A record is split into the kind, which its first member names, and its other members. -/
theorem yields_tagged {v : Value} {x : Option κ} {members : List (String × Value)} (expected : String)
    (named : Yields kind level v x) (others : ∀ m ∈ members, m.1 ≠ tag)
    (fits : ∀ m ∈ members, m.2.Fits level) :
    Yields (tagged expected tag kind) (level + 1) (.object ((tag, v) :: members))
      (x.map fun k => (k, .object members)) := by
  constructor
  rintro text ⟨inner, spelled, rfl⟩ depth n blank rest deep isBlank
  have enough := length_le_of_spellsMembers spelled
  obtain ⟨lead, a, b, own, further, leads, blankBefore, blankAfter, ownSpelled, more, rfl⟩ := spelled
  unfold tagged
  rw [List.cons_append, List.append_assoc, bind_of_ok (peekValue_cons n isBlank rfl)]
  refine bracketed _ (by omega) (fun m => ?_) fun m => endObject_blank rest m Blank.nil
  have room : members.length < 2 * (lead ++ (Utf8.encode (quote tag.toList) ++
      (a ++ 0x3A :: (b ++ (own ++ further)))) ++ 0x7D :: rest).length + 1 := by
    simp only [List.length_append, List.length_cons] at enough ⊢
    omega
  obtain ⟨m₁, follows⟩ := memberName_lead tag
    (a ++ 0x3A :: (b ++ (own ++ (further ++ 0x7D :: rest)))) m leads
  obtain ⟨m₂, colon⟩ := colon_blank (b ++ (own ++ (further ++ 0x7D :: rest))) m₁ blankBefore
  have one := named.ends _ ownSpelled (depth - 1) m₂ b (further ++ 0x7D :: rest) (by omega) blankAfter
  rw [bind_of_ok (fuelFor_eq _), splitMembers]
  simp only [List.append_assoc, List.cons_append, List.nil_append] at room ⊢
  rw [bind_of_ok follows]
  simp only [beq_self_eq_true, if_true, Option.isSome_none, Bool.false_eq_true, if_false]
  rw [bind_of_ok colon, Option.map_eq_bind]
  exact one.bind fun k m₃ _ => splitMembers_members others fits more room (by omega) [] m₃ rest

end Content

end CommitGate.Json
