import CommitGate.Json.Pretty
import CommitGate.Proofs.Json.Text

/-! # The spellings of a JSON value

One value has many texts: spaces may stand between its signs. `Json.Spells` holds of a value and the UTF-8
form of any of them, with strings written in the one way of `Json.quote`.

* `spells_chars`, `spells_prettyChars`: both writers spell the value;
* `exists_sign`: a spelling begins with the value and not with a space.

Scope limit: no other escapes than those that are written.
-/

namespace CommitGate.Json

open Reader (Blank isSpace)
open Utf8 (encode)

/-- What stands before an item or member: spaces, and a comma unless it is the first one. -/
def Leads (first : Bool) (text : Bytes) : Prop :=
  if first then Blank text else ∃ a b, Blank a ∧ Blank b ∧ text = a ++ 0x2C :: b

mutual

/-- A text is a spelling of a value, without spaces around it. -/
def Spells : Value → Bytes → Prop
  | .null, text => text = Bytes.ofAscii "null"
  | .bool b, text => text = Bytes.ofAscii (if b then "true" else "false")
  | .number n, text => text = encode n.text
  | .string s, text => text = encode (quote s.toList)
  | .array items, text => ∃ inner, SpellsItems true items inner ∧ text = 0x5B :: (inner ++ [0x5D])
  | .object members, text => ∃ inner, SpellsMembers true members inner ∧ text = 0x7B :: (inner ++ [0x7D])

/-- A text is a spelling of items, up to the bracket that closes the array. -/
def SpellsItems (first : Bool) : List Value → Bytes → Prop
  | [], text => Blank text
  | v :: items, text => ∃ lead own rest, Leads first lead ∧ Spells v own ∧ SpellsItems false items rest ∧
      text = lead ++ (own ++ rest)

/-- A text is a spelling of members, up to the brace that closes the object. -/
def SpellsMembers (first : Bool) : List (String × Value) → Bytes → Prop
  | [], text => Blank text
  | (k, v) :: members, text => ∃ lead a b own rest, Leads first lead ∧ Blank a ∧ Blank b ∧ Spells v own ∧
      SpellsMembers false members rest ∧
      text = lead ++ (encode (quote k.toList) ++ (a ++ 0x3A :: (b ++ (own ++ rest))))

end

/-! ## On one line -/

theorem leads_first {blank : Bytes} (h : Blank blank) : Leads true blank := h

theorem leads_comma {blank : Bytes} (h : Blank blank) : Leads false (0x2C :: blank) :=
  ⟨[], blank, Blank.nil, h, rfl⟩

/-- The items behind the first one, with a comma before each. -/
def Value.charsFurther (items : List Value) : List Char := items.flatMap fun v => ',' :: v.chars

/-- The members behind the first one, with a comma before each. -/
def Value.charsFurtherMembers (members : List (String × Value)) : List Char :=
  members.flatMap fun m => ',' :: (quote m.1.toList ++ ':' :: m.2.chars)

theorem charsItems_cons (v : Value) (items : List Value) :
    Value.charsItems (v :: items) = v.chars ++ Value.charsFurther items := by
  induction items generalizing v with
  | nil => simp [Value.charsItems, Value.charsFurther]
  | cons w items ih => simp [Value.charsItems, ih w, Value.charsFurther]

theorem charsMembers_cons (k : String) (v : Value) (members : List (String × Value)) :
    Value.charsMembers ((k, v) :: members) =
      quote k.toList ++ ':' :: (v.chars ++ Value.charsFurtherMembers members) := by
  induction members generalizing k v with
  | nil => simp [Value.charsMembers, Value.charsFurtherMembers]
  | cons m members ih =>
    obtain ⟨k', v'⟩ := m
    simp [Value.charsMembers, ih k' v', Value.charsFurtherMembers]

mutual

/-- A value on one line is spelled without spaces. -/
theorem spells_chars (v : Value) : Spells v (encode v.chars) := by
  match v with
  | .null => rfl
  | .bool true => rfl
  | .bool false => rfl
  | .number n => rfl
  | .string s => rfl
  | .array [] => exact ⟨[], Blank.nil, rfl⟩
  | .array (v :: items) =>
    refine ⟨_, ⟨[], _, _, leads_first Blank.nil, spells_chars v, spellsItems_chars items, rfl⟩, ?_⟩
    simp [Value.chars, charsItems_cons, Utf8.encodeChar]
  | .object [] => exact ⟨[], Blank.nil, rfl⟩
  | .object ((k, v) :: members) =>
    refine ⟨_, ⟨[], [], [], _, _, leads_first Blank.nil, Blank.nil, Blank.nil, spells_chars v,
      spellsMembers_chars members, rfl⟩, ?_⟩
    simp [Value.chars, charsMembers_cons, Utf8.encodeChar]

theorem spellsItems_chars (items : List Value) :
    SpellsItems false items (encode (Value.charsFurther items)) := by
  match items with
  | [] => exact Blank.nil
  | v :: items =>
    refine ⟨_, _, _, leads_comma Blank.nil, spells_chars v, spellsItems_chars items, ?_⟩
    simp [Value.charsFurther, Utf8.encodeChar]

theorem spellsMembers_chars (members : List (String × Value)) :
    SpellsMembers false members (encode (Value.charsFurtherMembers members)) := by
  match members with
  | [] => exact Blank.nil
  | (k, v) :: members =>
    refine ⟨_, [], [], _, _, leads_comma Blank.nil, Blank.nil, Blank.nil, spells_chars v,
      spellsMembers_chars members, ?_⟩
    simp [Value.charsFurtherMembers, Utf8.encodeChar]

end

/-! ## Over several lines -/

theorem blank_newLine (depth : Nat) : Blank (encode (Value.newLine depth)) := by
  intro b hb
  simp only [Value.newLine, Utf8.encode, List.flatMap_cons, List.mem_append, List.mem_flatMap,
    List.mem_replicate] at hb
  rcases hb with hb | ⟨c, ⟨-, rfl⟩, hb⟩
  · rw [List.mem_singleton.1 hb]
    rfl
  · rw [List.mem_singleton.1 hb]
    rfl

theorem blank_space : Blank [0x20] := by
  intro b hb
  rw [List.mem_singleton.1 hb]
  rfl

mutual

/-- So is one over several lines, with spaces. -/
theorem spells_prettyChars (depth : Nat) (v : Value) : Spells v (encode (Value.prettyChars depth v)) := by
  match v with
  | .null => rfl
  | .bool true => rfl
  | .bool false => rfl
  | .number n => rfl
  | .string s => rfl
  | .array [] => exact ⟨[], Blank.nil, rfl⟩
  | .array (v :: items) =>
    refine ⟨_, ⟨_, _, _, leads_first (blank_newLine (depth + 1)), spells_prettyChars (depth + 1) v,
      spellsItems_prettyItems depth items, rfl⟩, ?_⟩
    simp [Value.prettyChars, Utf8.encodeChar]
  | .object [] => exact ⟨[], Blank.nil, rfl⟩
  | .object ((k, v) :: members) =>
    refine ⟨_, ⟨_, [], [0x20], _, _, leads_first (blank_newLine (depth + 1)), Blank.nil,
      blank_space, spells_prettyChars (depth + 1) v, spellsMembers_prettyMembers depth members, rfl⟩, ?_⟩
    simp [Value.prettyChars, Utf8.encodeChar]

theorem spellsItems_prettyItems (depth : Nat) (items : List Value) :
    SpellsItems false items
      (encode (Value.prettyItems (depth + 1) items) ++ encode (Value.newLine depth)) := by
  match items with
  | [] => exact blank_newLine depth
  | v :: items =>
    refine ⟨_, _, _, leads_comma (blank_newLine (depth + 1)), spells_prettyChars (depth + 1) v,
      spellsItems_prettyItems depth items, ?_⟩
    simp [Value.prettyItems, Utf8.encodeChar]

theorem spellsMembers_prettyMembers (depth : Nat) (members : List (String × Value)) :
    SpellsMembers false members
      (encode (Value.prettyMembers (depth + 1) members) ++ encode (Value.newLine depth)) := by
  match members with
  | [] => exact blank_newLine depth
  | (k, v) :: members =>
    refine ⟨_, [], [0x20], _, _, leads_comma (blank_newLine (depth + 1)), Blank.nil, blank_space,
      spells_prettyChars (depth + 1) v, spellsMembers_prettyMembers depth members, ?_⟩
    simp [Value.prettyMembers, Utf8.encodeChar]

end

/-! ## Values without numbers -/

/-- A value without numbers, with arrays and objects within each other at most `level` deep. -/
inductive Value.Fits : Nat → Value → Prop
  | null {level : Nat} : Fits level .null
  | bool {level : Nat} (b : Bool) : Fits level (.bool b)
  | string {level : Nat} (s : String) : Fits level (.string s)
  | array {level : Nat} {items : List Value} (h : ∀ v ∈ items, Fits level v) :
    Fits (level + 1) (.array items)
  | object {level : Nat} {members : List (String × Value)} (h : ∀ m ∈ members, Fits level m.2) :
    Fits (level + 1) (.object members)

theorem printed_of_mem_hex {n : Nat} (h : n < 32) :
    ∀ d ∈ Hex.byte 'a' (UInt8.ofNat n), 0x20 ≤ d.toNat :=
  forall_mem_of_all ((by decide : ∀ n < 32, (Hex.byte 'a' (UInt8.ofNat n)).all (0x20 ≤ ·.toNat)) n h)

/-- An escaped character consists of printed ones. -/
theorem printed_of_mem_escape {c d : Char} (h : d ∈ escape c) : 0x20 ≤ d.toNat := by
  by_cases letter : c ∈ ['"', '\\', '\x08', '\x0C', '\n', '\r', '\t']
  · simp only [List.mem_cons, List.not_mem_nil, or_false] at letter
    rcases letter with rfl | rfl | rfl | rfl | rfl | rfl | rfl
    all_goals exact (forall_mem_of_all (by decide) : ∀ d ∈ escape _, 0x20 ≤ d.toNat) d h
  · simp only [List.mem_cons, List.not_mem_nil, or_false, not_or] at letter
    obtain ⟨h₁, h₂, h₃, h₄, h₅, h₆, h₇⟩ := letter
    simp only [escape, h₁, h₂, h₃, h₄, h₅, h₆, h₇, decide_false, Bool.or_self, Bool.false_eq_true,
      if_false] at h
    split at h
    · rename_i control
      simp only [List.mem_cons] at h
      rcases h with rfl | rfl | rfl | rfl | h
      · decide
      · decide
      · decide
      · decide
      · exact printed_of_mem_hex control d h
    · rename_i printed
      rw [List.mem_singleton.1 h]
      exact Nat.not_lt.1 printed

theorem printed_of_mem_quote {s : List Char} {c : Char} (h : c ∈ quote s) : 0x20 ≤ c.toNat := by
  simp only [quote, List.mem_cons, List.mem_append, List.mem_flatMap, List.not_mem_nil, or_false] at h
  rcases h with rfl | ⟨d, -, h⟩ | rfl
  · decide
  · exact printed_of_mem_escape h
  · decide

theorem printed_of_mem_array {items : List Value} (h : ∀ v ∈ items, ∀ c ∈ v.chars, 0x20 ≤ c.toNat)
    {c : Char} (hc : c ∈ (Value.array items).chars) : 0x20 ≤ c.toNat := by
  have within : c ∈ Value.charsItems items → 0x20 ≤ c.toNat := by
    cases items with
    | nil => exact fun none => absurd none List.not_mem_nil
    | cons v items =>
      simp only [charsItems_cons, Value.charsFurther, List.mem_append, List.mem_flatMap, List.mem_cons]
      rintro (own | ⟨w, further, rfl | own⟩)
      · exact h v (List.mem_cons_self ..) c own
      · decide
      · exact h w (List.mem_cons_of_mem _ further) c own
  simp only [Value.chars, List.mem_cons, List.mem_append, List.not_mem_nil, or_false] at hc
  rcases hc with rfl | hc | rfl
  · decide
  · exact within hc
  · decide

theorem printed_of_mem_object {members : List (String × Value)}
    (h : ∀ m ∈ members, ∀ c ∈ m.2.chars, 0x20 ≤ c.toNat) {c : Char}
    (hc : c ∈ (Value.object members).chars) : 0x20 ≤ c.toNat := by
  have within : c ∈ Value.charsMembers members → 0x20 ≤ c.toNat := by
    cases members with
    | nil => exact fun none => absurd none List.not_mem_nil
    | cons m members =>
      obtain ⟨k, v⟩ := m
      simp only [charsMembers_cons, Value.charsFurtherMembers, List.mem_append, List.mem_flatMap,
        List.mem_cons]
      rintro (name | rfl | own | ⟨m', further, rfl | name | rfl | own⟩)
      · exact printed_of_mem_quote name
      · decide
      · exact h (k, v) (List.mem_cons_self ..) c own
      · decide
      · exact printed_of_mem_quote name
      · decide
      · exact h m' (List.mem_cons_of_mem _ further) c own
  simp only [Value.chars, List.mem_cons, List.mem_append, List.not_mem_nil, or_false] at hc
  rcases hc with rfl | hc | rfl
  · decide
  · exact within hc
  · decide

/-- On one line there are printed characters only. -/
theorem printed_of_mem_chars {level : Nat} {v : Value} (h : v.Fits level) :
    ∀ c ∈ v.chars, 0x20 ≤ c.toNat := by
  induction h with
  | null => exact forall_mem_of_all (by decide)
  | bool b => cases b <;> exact forall_mem_of_all (by decide)
  | string s => exact fun c => printed_of_mem_quote
  | array h ih => exact fun c => printed_of_mem_array ih
  | object h ih => exact fun c => printed_of_mem_object ih

/-- A spelling begins with a sign that is neither a space nor the end of an array. -/
theorem exists_sign {level : Nat} {v : Value} {text : Bytes} (h : v.Fits level) (spelled : Spells v text) :
    ∃ b rest, text = b :: rest ∧ isSpace b = false ∧ b ≠ 0x5D := by
  cases h with
  | null => exact ⟨_, _, spelled, rfl, by decide⟩
  | bool b => cases b <;> exact ⟨_, _, spelled, rfl, by decide⟩
  | string s => exact ⟨_, _, spelled, rfl, by decide⟩
  | array h =>
    obtain ⟨inner, -, rfl⟩ := spelled
    exact ⟨_, _, rfl, rfl, by decide⟩
  | object h =>
    obtain ⟨inner, -, rfl⟩ := spelled
    exact ⟨_, _, rfl, rfl, by decide⟩

end CommitGate.Json
