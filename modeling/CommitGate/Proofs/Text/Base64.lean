import CommitGate.Proofs.Except
import CommitGate.Proofs.Text.Lines
import CommitGate.Proofs.Text.Utf8
import CommitGate.Text.Base64
import Mathlib.Data.List.TakeWhile

/-! # Base64, written and read

Reading accepts exactly what writing produces (`decode_eq_ok_iff`): every other spelling of some bytes, with
other padding or with bits that belong to no byte, is refused.

* `value?_eq_some_iff`: symbols and their values belong together one by one;
* `encode_join`: full groups are written one after the other, whatever follows;
* `decodeLast_eq_ok_iff`: a last group is accepted exactly if it is what is written for at most three bytes;
* `decode_encode_eq_ok_iff`: of all strings, only what is written is read.
-/

namespace CommitGate.Base64

/-! ## Symbols -/

theorem value?_symbol {n : Nat} (h : n < 64) : value? (symbol n) = some n :=
  (by decide : ∀ n < 64, value? (symbol n) = some n) n h

theorem symbol_ne_pad {n : Nat} (h : n < 64) : symbol n ≠ pad :=
  (by decide : ∀ n < 64, symbol n ≠ pad) n h

/-- Each byte is the symbol of its value, if it has one. -/
theorem value?_eq_some_iff {b : UInt8} {v : Nat} : value? b = some v ↔ v < 64 ∧ b = symbol v := by
  constructor
  · intro h
    have checked : ∀ n < 256, ∀ v, value? (UInt8.ofNat n) = some v →
        v < 64 ∧ UInt8.ofNat n = symbol v := by
      have bounded : ∀ n < 256, (value? (UInt8.ofNat n)).all
          (fun v => decide (v < 64 ∧ UInt8.ofNat n = symbol v)) = true := by
        decide +kernel
      intro n hn v hv
      have all := bounded n hn
      rw [hv, Option.all_some] at all
      exact of_decide_eq_true all
    have byte := checked b.toNat b.toNat_lt v
    rw [UInt8.ofNat_toNat] at byte
    exact byte h
  · rintro ⟨small, rfl⟩
    exact value?_symbol small

/-- Values are read from exactly their symbols. -/
theorem values_eq_ok_iff {offset : Nat} {bs : Bytes} {vs : List Nat} :
    values offset bs = .ok vs ↔ bs = vs.map symbol ∧ ∀ v ∈ vs, v < 64 := by
  -- on the bytes; a symbol has one value, so the values are determined
  induction bs generalizing offset vs with
  | nil =>
    rw [values, Except.ok.injEq]
    constructor
    · rintro rfl
      exact ⟨rfl, nofun⟩
    · rintro ⟨empty, -⟩
      exact (List.map_eq_nil_iff.1 empty.symm).symm
  | cons b bs ih =>
    rw [values]
    cases hb : value? b with
    | none =>
      constructor
      · intro h
        cases h
      · rintro ⟨cut, small⟩
        cases vs with
        | nil => cases cut
        | cons v vs =>
          cases cut
          rw [value?_symbol (small v List.mem_cons_self)] at hb
          cases hb
    | some v =>
      obtain ⟨small, rfl⟩ := value?_eq_some_iff.1 hb
      simp only [map_eq_ok_iff, ih]
      constructor
      · rintro ⟨ws, ⟨rfl, all⟩, rfl⟩
        exact ⟨rfl, List.forall_mem_cons.2 ⟨small, all⟩⟩
      · rintro ⟨cut, all⟩
        cases vs with
        | nil => cases cut
        | cons w ws =>
          obtain ⟨smallW, others⟩ := List.forall_mem_cons.1 all
          rw [List.map_cons, List.cons.injEq] at cut
          have same : v = w := by
            have values := congrArg value? cut.1
            rw [value?_symbol small, value?_symbol smallW] at values
            exact Option.some.inj values
          exact ⟨ws, ⟨cut.2, others⟩, by rw [same]⟩

/-! ## Full groups -/

/-- A full group is written as it was read. -/
theorem encode_group {a b c d : Nat} (ha : a < 64) (hb : b < 64) (hc : c < 64) (hd : d < 64)
    (rest : Bytes) :
    encode (UInt8.ofNat (a * 4 + b / 16) :: UInt8.ofNat (b % 16 * 16 + c / 4) ::
        UInt8.ofNat (c % 4 * 64 + d) :: rest) =
      symbol a :: symbol b :: symbol c :: symbol d :: encode rest := by
  have first : (a * 4 + b / 16) / 4 = a := by omega
  have second : (a * 4 + b / 16) % 4 * 16 + (b % 16 * 16 + c / 4) / 16 = b := by omega
  have third : (b % 16 * 16 + c / 4) % 16 * 4 + (c % 4 * 64 + d) / 64 = c := by omega
  have fourth : (c % 4 * 64 + d) % 64 = d := by omega
  rw [encode, Utf8.toNat_ofNat_of_lt (by omega), Utf8.toNat_ofNat_of_lt (by omega),
    Utf8.toNat_ofNat_of_lt (by omega), first, second, third, fourth]

/-- Three bytes come from a full group. -/
theorem exists_group (x y z : UInt8) :
    ∃ a b c d, (∀ v ∈ [a, b, c, d], v < 64) ∧
      ∀ rest, join (a :: b :: c :: d :: rest) = x :: y :: z :: join rest := by
  have hx := x.toNat_lt
  have hy := y.toNat_lt
  have hz := z.toNat_lt
  refine ⟨x.toNat / 4, x.toNat % 4 * 16 + y.toNat / 16, y.toNat % 16 * 4 + z.toNat / 64, z.toNat % 64,
    ?_, fun rest => ?_⟩
  · simp only [List.forall_mem_cons]
    exact ⟨by omega, by omega, by omega, by omega, nofun⟩
  · rw [join, Utf8.ofNat_eq_of_toNat (b := x) (by omega), Utf8.ofNat_eq_of_toNat (b := y) (by omega),
      Utf8.ofNat_eq_of_toNat (b := z) (by omega)]

/-- Full groups are written one after the other, whatever follows. -/
theorem encode_join {n : Nat} {vs : List Nat} (length : vs.length = 4 * n) (small : ∀ v ∈ vs, v < 64)
    (tail : Bytes) : encode (join vs ++ tail) = vs.map symbol ++ encode tail := by
  induction n generalizing vs with
  | zero =>
    obtain rfl := List.length_eq_zero_iff.1 length
    rfl
  | succ n ih =>
    obtain ⟨a, b, c, d, rest, rfl⟩ : ∃ a b c d rest, vs = a :: b :: c :: d :: rest := by
      match vs, length with
      | a :: b :: c :: d :: rest, _ => exact ⟨a, b, c, d, rest, rfl⟩
    simp only [List.forall_mem_cons] at small
    obtain ⟨ha, hb, hc, hd, others⟩ := small
    have shorter : rest.length = 4 * n := by
      simp only [List.length_cons] at length
      omega
    rw [join, List.cons_append, List.cons_append, List.cons_append, encode_group ha hb hc hd,
      ih shorter others]
    rfl

/-! ## The last group -/

/-- The values of a last group with two, three or four symbols, in which all bits belong to bytes. -/
structure IsLast (vs : List Nat) : Prop where
  two_le : 2 ≤ vs.length
  le_four : vs.length ≤ 4
  small : ∀ v ∈ vs, v < 64
  spare : spareBits vs = 0

/-- Such a group is written with as much padding as fills it. -/
theorem IsLast.encode_join {vs : List Nat} (h : IsLast vs) :
    encode (join vs) = vs.map symbol ++ List.replicate (4 - vs.length) pad := by
  obtain ⟨two_le, le_four, small, spare⟩ := h
  match vs with
  | [a, b] =>
    simp only [List.forall_mem_cons] at small
    have none : b % 16 = 0 := spare
    have first : (a * 4 + b / 16) / 4 = a := by omega
    have second : (a * 4 + b / 16) % 4 * 16 = b := by omega
    rw [join, encode, Utf8.toNat_ofNat_of_lt (by omega), first, second]
    rfl
  | [a, b, c] =>
    simp only [List.forall_mem_cons] at small
    have none : c % 4 = 0 := spare
    have first : (a * 4 + b / 16) / 4 = a := by omega
    have second : (a * 4 + b / 16) % 4 * 16 + (b % 16 * 16 + c / 4) / 16 = b := by omega
    have third : (b % 16 * 16 + c / 4) % 16 * 4 = c := by omega
    rw [join, encode, Utf8.toNat_ofNat_of_lt (by omega), Utf8.toNat_ofNat_of_lt (by omega), first, second,
      third]
    rfl
  | [a, b, c, d] =>
    simp only [List.forall_mem_cons] at small
    rw [join, encode_group small.1 small.2.1 small.2.2.1 small.2.2.2.1]
    rfl

theorem IsLast.length_join {vs : List Nat} (h : IsLast vs) :
    join vs ≠ [] ∧ (join vs).length ≤ 3 := by
  obtain ⟨two_le, le_four, -, -⟩ := h
  match vs with
  | [a, b] => simp [join]
  | [a, b, c] => simp [join]
  | [a, b, c, d] => simp [join]

/-- One to three bytes come from such a group. -/
theorem exists_isLast {bs : Bytes} (ne : bs ≠ []) (short : bs.length ≤ 3) :
    ∃ vs, IsLast vs ∧ join vs = bs := by
  match bs with
  | [x] =>
    have hx := x.toNat_lt
    refine ⟨[x.toNat / 4, x.toNat % 4 * 16], ⟨by simp, by simp, ?_, ?_⟩, ?_⟩
    · simp only [List.forall_mem_cons]
      exact ⟨by omega, by omega, nofun⟩
    · simp only [spareBits]
      omega
    · rw [join, Utf8.ofNat_eq_of_toNat (b := x) (by omega)]
  | [x, y] =>
    have hx := x.toNat_lt
    have hy := y.toNat_lt
    refine ⟨[x.toNat / 4, x.toNat % 4 * 16 + y.toNat / 16, y.toNat % 16 * 4], ⟨by simp, by simp, ?_, ?_⟩, ?_⟩
    · simp only [List.forall_mem_cons]
      exact ⟨by omega, by omega, by omega, nofun⟩
    · simp only [spareBits]
      omega
    · rw [join, Utf8.ofNat_eq_of_toNat (b := x) (by omega), Utf8.ofNat_eq_of_toNat (b := y) (by omega)]
  | [x, y, z] =>
    obtain ⟨a, b, c, d, small, joined⟩ := exists_group x y z
    exact ⟨[a, b, c, d], ⟨by simp, by simp, small, rfl⟩, joined []⟩

/-- Symbols end where padding begins. -/
theorem split_padded {vs : List Nat} (small : ∀ v ∈ vs, v < 64) (n : Nat) :
    (vs.map symbol ++ List.replicate n pad).takeWhile (· != pad) = vs.map symbol ∧
      (vs.map symbol ++ List.replicate n pad).dropWhile (· != pad) = List.replicate n pad := by
  have symbols : ∀ b ∈ vs.map symbol, (b != pad) = true := by
    intro b hb
    obtain ⟨v, hv, rfl⟩ := List.mem_map.1 hb
    exact bne_iff_ne.2 (symbol_ne_pad (small v hv))
  rw [List.takeWhile_append_of_pos symbols, List.dropWhile_append_of_pos symbols]
  cases n with
  | zero => simp
  | succ n => simp [List.replicate_succ]

/-- A check lets pass exactly if what it throws for does not hold. -/
theorem check_eq_ok_iff {α β : Type} {p : Prop} [Decidable p] {e : Error} {f : β → Except Error α}
    {rest : Except Error α} {a : α} :
    (if p then throw e >>= f else rest) = .ok a ↔ ¬p ∧ rest = .ok a := by
  by_cases h : p
  · simp [h, throw, throwThe, MonadExceptOf.throw, bind, Except.bind]
  · simp [h]

/-- In a group of four bytes, padding fills up what the symbols leave. -/
theorem dropWhile_eq_replicate {group : Bytes} (four : group.length = 4)
    (padding : ¬(group.dropWhile (· != pad)).any (· != pad) = true) :
    group.dropWhile (· != pad) = List.replicate (4 - (group.takeWhile (· != pad)).length) pad := by
  have count := congrArg List.length (List.takeWhile_append_dropWhile (p := (· != pad)) (l := group))
  rw [List.length_append, four] at count
  refine List.eq_replicate_iff.2 ⟨by omega, fun b hb => ?_⟩
  by_contra other
  exact padding (List.any_eq_true.2 ⟨b, hb, bne_iff_ne.2 other⟩)

/-- A last group is accepted exactly if it is what is written for at most three bytes. -/
theorem decodeLast_eq_ok_iff {offset : Nat} {group bs : Bytes} (le : group.length ≤ 4) :
    decodeLast offset group = .ok bs ↔ group = encode bs ∧ bs.length ≤ 3 := by
  simp only [decodeLast, bind_eq_ok_iff, values_eq_ok_iff, check_eq_ok_iff]
  constructor
  · rintro ⟨vs, ⟨symbols, small⟩, -, padding, enough, whole, spare, joined⟩
    cases joined
    by_cases empty : group = []
    · subst empty
      obtain rfl := List.map_eq_nil_iff.1 symbols.symm
      exact ⟨rfl, by simp [join]⟩
    · -- the group has four bytes, and what follows its symbols is padding
      have four : group.length = 4 := by
        have pos := List.length_pos_iff.2 empty
        omega
      have length := congrArg List.length symbols
      rw [List.length_map] at length
      have rest := dropWhile_eq_replicate four padding
      rw [length] at rest
      have last : IsLast vs := by
        refine ⟨?_, ?_, small, Nat.eq_zero_of_not_pos fun pos => spare (Nat.ne_of_gt pos)⟩
        · have nonempty : (!group.isEmpty) = true := by simpa using empty
          by_contra few
          exact enough (Bool.and_eq_true_iff.2 ⟨nonempty, decide_eq_true (by omega)⟩)
        · rw [← length, ← four]
          exact (List.takeWhile_sublist _).length_le
      refine ⟨?_, last.length_join.2⟩
      rw [last.encode_join, ← symbols, ← rest, List.takeWhile_append_dropWhile]
  · rintro ⟨rfl, short⟩
    by_cases empty : bs = []
    · subst empty
      exact ⟨[], ⟨rfl, nofun⟩, by simp [encode], by simp [encode], by simp [encode], by simp [encode],
        by simp [spareBits], rfl⟩
    · obtain ⟨vs, last, rfl⟩ := exists_isLast empty short
      obtain ⟨symbols, padding⟩ := split_padded last.small (4 - vs.length)
      rw [last.encode_join, symbols, padding]
      have two := last.two_le
      have four := last.le_four
      have enough : ∀ p : Bool, ¬(p && decide ((vs.map symbol).length < 2)) = true := by
        intro p h
        rw [Bool.and_eq_true, decide_eq_true_eq, List.length_map] at h
        omega
      refine ⟨vs, ⟨rfl, last.small⟩, enough _, ?_, enough _, ?_, ?_, rfl⟩
      · simp
      · simp
        omega
      · simp [last.spare]

/-! ## The whole text -/

/-- Bytes in groups of three, of which the last one, which may be short, is kept apart. -/
theorem exists_groups (bs : Bytes) :
    ∃ n vs tail, bs = join vs ++ tail ∧ vs.length = 4 * n ∧ (∀ v ∈ vs, v < 64) ∧ tail.length ≤ 3 ∧
      (tail = [] → vs = []) := by
  induction bs using encode.induct with
  | case1 => exact ⟨0, [], [], rfl, rfl, nofun, by simp, fun _ => rfl⟩
  | case2 x => exact ⟨0, [], [x], rfl, rfl, nofun, by simp, nofun⟩
  | case3 x y => exact ⟨0, [], [x, y], rfl, rfl, nofun, by simp, nofun⟩
  | case4 x y z rest ih =>
    by_cases empty : rest = []
    · subst empty
      exact ⟨0, [], [x, y, z], rfl, rfl, nofun, by simp, nofun⟩
    · obtain ⟨n, vs, tail, rfl, length, small, short, ends⟩ := ih
      obtain ⟨a, b, c, d, group, joined⟩ := exists_group x y z
      refine ⟨n + 1, a :: b :: c :: d :: vs, tail, ?_, ?_, ?_, short, fun none => ?_⟩
      · rw [joined]
        rfl
      · simp only [List.length_cons]
        omega
      · intro v hv
        rcases List.mem_append.1 (show v ∈ [a, b, c, d] ++ vs from hv) with hv | hv
        · exact group v hv
        · exact small v hv
      · -- what is left after three bytes has a last group
        rw [none, ends none] at empty
        exact absurd rfl empty

theorem lastGroup_bounds (n : Nat) :
    lastGroup n ≤ 4 ∧ lastGroup n ≤ n ∧ (n - lastGroup n) % 4 = 0 := by
  unfold lastGroup
  split <;> omega

/-- A last group that is written has four bytes, unless there is none. -/
theorem length_encode_tail {tail : Bytes} (short : tail.length ≤ 3) :
    (encode tail).length = if tail = [] then 0 else 4 := by
  match tail with
  | [] => rfl
  | [_] => rfl
  | [_, _] => rfl
  | [_, _, _] => rfl

/-- What is read is cut into full groups and the last one. -/
theorem decode_of_no_stray {text bs : Bytes} (no_stray : strayEnd? text = none) :
    decode text = .ok bs ↔ ∃ vs tail, text.take (text.length - lastGroup text.length) = vs.map symbol ∧
      (∀ v ∈ vs, v < 64) ∧ text.drop (text.length - lastGroup text.length) = encode tail ∧
      tail.length ≤ 3 ∧ join vs ++ tail = bs := by
  have short : (text.drop (text.length - lastGroup text.length)).length ≤ 4 := by
    have bounds := lastGroup_bounds text.length
    rw [List.length_drop]
    omega
  simp only [decode, no_stray, bind_eq_ok_iff, values_eq_ok_iff, decodeLast_eq_ok_iff short, pure,
    Except.pure, Except.ok.injEq, and_assoc, exists_and_left]

/-- Exactly what is written for some bytes is read, as these bytes. -/
theorem decode_eq_ok_iff {text bs : Bytes} : decode text = .ok bs ↔ text = encode bs := by
  constructor
  · intro h
    cases stray : strayEnd? text with
    | some b =>
      simp only [decode, stray] at h
      cases h
    | none =>
      obtain ⟨vs, tail, front, small, last, -, rfl⟩ := (decode_of_no_stray stray).1 h
      have length : vs.length = 4 * ((text.length - lastGroup text.length) / 4) := by
        have count := congrArg List.length front
        have bounds := lastGroup_bounds text.length
        rw [List.length_take, List.length_map] at count
        omega
      rw [encode_join length small, ← front, ← last, List.take_append_drop]
  · rintro rfl
    obtain ⟨n, vs, tail, rfl, length, small, short, ends⟩ := exists_groups bs
    rw [encode_join length small]
    have total : (vs.map symbol ++ encode tail).length = 4 * n + if tail = [] then 0 else 4 := by
      rw [List.length_append, List.length_map, length, length_encode_tail short]
    have last : lastGroup (vs.map symbol ++ encode tail).length = if tail = [] then 0 else 4 := by
      rw [total, lastGroup]
      by_cases none : tail = []
      · obtain rfl := ends none
        rw [List.length_nil] at length
        rw [if_pos none, ← length]
        rfl
      · rw [if_neg none, if_pos (by omega)]
        omega
    have stray : strayEnd? (vs.map symbol ++ encode tail) = none := by
      rw [strayEnd?, if_neg]
      rw [total]
      split <;> omega
    have cut : (vs.map symbol ++ encode tail).length - lastGroup (vs.map symbol ++ encode tail).length =
        (vs.map symbol).length := by
      rw [last, total, List.length_map, length, Nat.add_sub_cancel]
    refine (decode_of_no_stray stray).2 ⟨vs, tail, ?_, small, ?_, short, rfl⟩
    · rw [cut, List.take_left]
    · rw [cut, List.drop_left]

/-! ## Strings -/

/-- What holds of every symbol and of the padding holds of all that is written. -/
theorem forall_mem_encode {p : UInt8 → Prop} (symbols : ∀ n < 64, p (symbol n)) (padding : p pad)
    (bs : Bytes) : ∀ b ∈ encode bs, p b := by
  induction bs using encode.induct with
  | case1 => exact List.forall_mem_nil _
  | case2 x =>
    have hx := x.toNat_lt
    simp only [encode, List.forall_mem_cons]
    exact ⟨symbols _ (by omega), symbols _ (by omega), padding, padding, List.forall_mem_nil _⟩
  | case3 x y =>
    have hx := x.toNat_lt
    have hy := y.toNat_lt
    simp only [encode, List.forall_mem_cons]
    exact ⟨symbols _ (by omega), symbols _ (by omega), symbols _ (by omega), padding, List.forall_mem_nil _⟩
  | case4 x y z rest ih =>
    have hx := x.toNat_lt
    have hy := y.toNat_lt
    have hz := z.toNat_lt
    simp only [encode, List.forall_mem_cons]
    exact ⟨symbols _ (by omega), symbols _ (by omega), symbols _ (by omega), symbols _ (by omega), ih⟩

theorem lt_of_mem_encode {bs : Bytes} {b : UInt8} (h : b ∈ encode bs) : b.toNat < 0x80 :=
  forall_mem_encode (p := fun b => b.toNat < 0x80) (by decide) (by decide) bs b h

/-- The text has the bytes that are written. -/
theorem ofString_toText (bs : Bytes) : Utf8.ofString (toText bs) = encode bs := by
  have value : ∀ b ∈ encode bs, (Char.ofNat b.toNat).toNat = b.toNat := by
    intro b hb
    have small := lt_of_mem_encode hb
    exact Utf8.toNat_ofNat_of_valid (by omega)
  have ascii : ∀ c ∈ (encode bs).map fun b => Char.ofNat b.toNat, c.toNat < 0x80 := by
    intro c hc
    obtain ⟨b, hb, rfl⟩ := List.mem_map.1 hc
    rw [value b hb]
    exact lt_of_mem_encode hb
  rw [Utf8.ofString, toText, String.toList_ofList, Utf8.encode_of_ascii ascii, List.map_map]
  refine map_eq_self fun b hb => ?_
  rw [Function.comp_apply, value b hb, UInt8.ofNat_toNat]

/-- The bytes of a text are read exactly if it is what is written. -/
theorem decode_encode_eq_ok_iff {s : List Char} {bs : Bytes} :
    decode (Utf8.encode s) = .ok bs ↔ s = (toText bs).toList := by
  rw [decode_eq_ok_iff, ← ofString_toText, Utf8.ofString]
  constructor
  · intro same
    rw [← Utf8.decodeLossy_encode s, same, Utf8.decodeLossy_encode]
  · rintro rfl
    rfl

end CommitGate.Base64
