import CommitGate.Authority.Authorization
import CommitGate.Proofs.Json.Members

/-! # Which answers grant a key

An answer is read from the documents that say what an answer says, and from nothing else.

* `Authorization.ofDoc?` is the answer of a document, `Authorization.decode_eq_ok_iff`: exactly these are read;
* `Authorization.decode_grants`: an answer that grants says so, once, with the literal `true`; and an answer is read
  whatever else it says, unless it contradicts itself about what is asked.
-/

namespace CommitGate.Authorization

open Json
open Json.Doc (valuesOf HasNames once? Unfit)
open Json.Decode
open Json.Reader (Blank)
open Utf8 (encode)

/-! ## The answer of a document -/

/-- The key of a document. -/
def keyOf? (d : Doc) : Option CandidateKey :=
  if d.isRecord 2 then do
    let id ← once? Doc.text? "" (d.part "id" 0)
    let base64 ← once? Doc.text? "" (d.part "base64_key" 1)
    pure ⟨id, base64⟩
  else none

/-- The answer of a document. -/
def ofDoc? (d : Doc) : Option Authorization :=
  if d.isRecord 3 then do
    let authorized ← once? Doc.bool? false (d.part "authorized" 0)
    let message ← once? Doc.text? "" (d.part "message" 1)
    let key ← once? keyOf? ⟨"", ""⟩ (d.part "pgp_key" 2)
    pure ⟨authorized, message, key⟩
  else none

theorem keyOf?_eq_some_iff {d : Doc} {key : CandidateKey} : keyOf? d = some key ↔ d.isRecord 2 = true ∧
    once? Doc.text? "" (d.part "id" 0) = some key.id ∧
      once? Doc.text? "" (d.part "base64_key" 1) = some key.base64 := by
  unfold keyOf?
  split
  · rename_i isRecord
    simp only [isRecord, true_and, Option.bind_eq_bind, Option.pure_def, Option.bind_eq_some_iff]
    constructor
    · rintro ⟨id, hid, base64, hbase64, same⟩
      obtain rfl := Option.some.inj same
      exact ⟨hid, hbase64⟩
    · exact fun ⟨hid, hbase64⟩ => ⟨_, hid, _, hbase64, rfl⟩
  · rename_i isRecord
    simp [isRecord]

theorem ofDoc?_eq_some_iff {d : Doc} {a : Authorization} : ofDoc? d = some a ↔ d.isRecord 3 = true ∧
    once? Doc.bool? false (d.part "authorized" 0) = some a.authorized ∧
      once? Doc.text? "" (d.part "message" 1) = some a.message ∧
        once? keyOf? ⟨"", ""⟩ (d.part "pgp_key" 2) = some a.key := by
  unfold ofDoc?
  split
  · rename_i isRecord
    simp only [isRecord, true_and, Option.bind_eq_bind, Option.pure_def, Option.bind_eq_some_iff]
    constructor
    · rintro ⟨authorized, hauthorized, message, hmessage, key, hkey, same⟩
      obtain rfl := Option.some.inj same
      exact ⟨hauthorized, hmessage, hkey⟩
    · exact fun ⟨hauthorized, hmessage, hkey⟩ => ⟨_, hauthorized, _, hmessage, _, hkey, rfl⟩
  · rename_i isRecord
    simp [isRecord]

/-! ## What the decoders store -/

/-- The slots of a key. -/
def keySlots : List (Slot CandidateKey) :=
  [.optional "id" Doc.text? fun k s => { k with id := s },
   .optional "base64_key" Doc.text? fun k s => { k with base64 := s }]

/-- The slots of an answer. -/
def answerSlots : List (Slot Authorization) :=
  [.optional "authorized" Doc.bool? fun a b => { a with authorized := b },
   .optional "message" Doc.text? fun a s => { a with message := s },
   .optional "pgp_key" keyOf? fun a k => { a with key := k }]

theorem id_views : Slot.Views keySlots (.optional "id" Doc.text? fun k s => { k with id := s }) Doc.text?
    CandidateKey.id where
  find := rfl
  store := Slot.store_optional fun _ _ => rfl
  others := List.forall_mem_cons.2 ⟨fun other => (other rfl).elim, List.forall_mem_singleton.2 fun _ =>
    Slot.kept_optional fun _ _ => rfl⟩

theorem base64_views : Slot.Views keySlots (.optional "base64_key" Doc.text? fun k s => { k with base64 := s })
    Doc.text? CandidateKey.base64 where
  find := rfl
  store := Slot.store_optional fun _ _ => rfl
  others := List.forall_mem_cons.2 ⟨fun _ => Slot.kept_optional fun _ _ => rfl,
    List.forall_mem_singleton.2 fun other => (other rfl).elim⟩

theorem authorized_views : Slot.Views answerSlots
    (.optional "authorized" Doc.bool? fun a b => { a with authorized := b }) Doc.bool? authorized where
  find := rfl
  store := Slot.store_optional fun _ _ => rfl
  others := List.forall_mem_cons.2 ⟨fun other => (other rfl).elim, List.forall_mem_cons.2
    ⟨fun _ => Slot.kept_optional fun _ _ => rfl, List.forall_mem_singleton.2 fun _ =>
      Slot.kept_optional fun _ _ => rfl⟩⟩

theorem message_views : Slot.Views answerSlots (.optional "message" Doc.text? fun a s => { a with message := s })
    Doc.text? message where
  find := rfl
  store := Slot.store_optional fun _ _ => rfl
  others := List.forall_mem_cons.2 ⟨fun _ => Slot.kept_optional fun _ _ => rfl, List.forall_mem_cons.2
    ⟨fun other => (other rfl).elim, List.forall_mem_singleton.2 fun _ => Slot.kept_optional fun _ _ => rfl⟩⟩

theorem key_views : Slot.Views answerSlots (.optional "pgp_key" keyOf? fun a k => { a with key := k }) keyOf? key where
  find := rfl
  store := Slot.store_optional fun _ _ => rfl
  others := List.forall_mem_cons.2 ⟨fun _ => Slot.kept_optional fun _ _ => rfl, List.forall_mem_cons.2
    ⟨fun _ => Slot.kept_optional fun _ _ => rfl, List.forall_mem_singleton.2 fun other => (other rfl).elim⟩⟩

theorem of_storeMembers_keySlots {members : List (List Piece × Doc)} {key : CandidateKey}
    (stored : Slot.storeMembers keySlots [] members ⟨"", ""⟩ = some key) : keyOf? (.object members) = some key :=
  keyOf?_eq_some_iff.2 ⟨decide_eq_true (Slot.hasNames_of_storeMembers stored), id_views.storeMembers stored,
    base64_views.storeMembers stored⟩

theorem of_storeMembers_answerSlots {members : List (List Piece × Doc)} {a : Authorization}
    (stored : Slot.storeMembers answerSlots [] members blank = some a) : ofDoc? (.object members) = some a :=
  ofDoc?_eq_some_iff.2 ⟨decide_eq_true (Slot.hasNames_of_storeMembers stored), authorized_views.storeMembers stored,
    message_views.storeMembers stored, key_views.storeMembers stored⟩

theorem storeItems_keySlots (items : List Doc) : Slot.storeItems keySlots items ⟨"", ""⟩ = keyOf? (.array items) := by
  match items with
  | [] => rfl
  | [x] =>
    cases id : Doc.text? x <;>
      simp [keyOf?, keySlots, Slot.storeItems, Slot.optional, Doc.isRecord, Doc.part, once?, id]
  | [x, y] =>
    cases id : Doc.text? x <;> cases base64 : Doc.text? y <;>
      simp [keyOf?, keySlots, Slot.storeItems, Slot.optional, Doc.isRecord, Doc.part, once?, id, base64]
  | x :: y :: z :: items =>
    rw [storeItems_eq_none (by simp [keySlots]), keyOf?, if_neg (by simp [Doc.isRecord])]

theorem storeItems_answerSlots (items : List Doc) :
    Slot.storeItems answerSlots items blank = ofDoc? (.array items) := by
  match items with
  | [] => rfl
  | [x] =>
    cases authorized : Doc.bool? x <;>
      simp [ofDoc?, blank, answerSlots, Slot.storeItems, Slot.optional, Doc.isRecord, Doc.part, once?, authorized]
  | [x, y] =>
    cases authorized : Doc.bool? x <;> cases message : Doc.text? y <;>
      simp [ofDoc?, blank, answerSlots, Slot.storeItems, Slot.optional, Doc.isRecord, Doc.part, once?, authorized,
        message]
  | [x, y, z] =>
    cases authorized : Doc.bool? x <;> cases message : Doc.text? y <;> cases key : keyOf? z <;>
      simp [ofDoc?, blank, answerSlots, Slot.storeItems, Slot.optional, Doc.isRecord, Doc.part, once?, authorized,
        message, key]
  | x :: y :: z :: u :: items =>
    rw [storeItems_eq_none (by simp [answerSlots]), ofDoc?, if_neg (by simp [Doc.isRecord])]

/-- The slots of a key store the key of a document. -/
theorem record_keySlots (d : Doc) : Slot.record keySlots ⟨"", ""⟩ d = keyOf? d := by
  cases d with
  | object members =>
    refine Slot.storeMembers_eq (fun k => of_storeMembers_keySlots) fun k key => ?_
    obtain ⟨names, id, base64⟩ := keyOf?_eq_some_iff.1 key
    exact Slot.exists_storeMembers (of_decide_eq_true names)
      (List.forall_mem_cons.2 ⟨id_views.fits id, List.forall_mem_singleton.2 (base64_views.fits base64)⟩) _
  | array items => exact storeItems_keySlots items
  | null => rfl
  | bool b => rfl
  | number text => rfl
  | string ps => rfl

/-- The slots of an answer store the answer of a document. -/
theorem record_answerSlots (d : Doc) : Slot.record answerSlots blank d = ofDoc? d := by
  cases d with
  | object members =>
    refine Slot.storeMembers_eq (fun a => of_storeMembers_answerSlots) fun a answer => ?_
    obtain ⟨names, authorized, message, key⟩ := ofDoc?_eq_some_iff.1 answer
    exact Slot.exists_storeMembers (of_decide_eq_true names) (List.forall_mem_cons.2 ⟨authorized_views.fits authorized,
      List.forall_mem_cons.2 ⟨message_views.fits message, List.forall_mem_singleton.2 (key_views.fits key)⟩⟩) _
  | array items => exact storeItems_answerSlots items
  | null => rfl
  | bool b => rfl
  | number text => rfl
  | string ps => rfl

theorem reads_key : Reads keyDecoder 1 keyOf? :=
  (reads_record _ _ (.cons (Slot.optional_describes reads_text _ _)
    (.cons (Slot.optional_describes reads_text _ _) .nil))).of_eq record_keySlots

theorem reads_answer : Reads decoder 2 ofDoc? :=
  (reads_record _ _ (.cons (Slot.optional_describes (reads_bool.mono (Nat.zero_le 1)) _ _)
    (.cons (Slot.optional_describes (reads_text.mono (Nat.zero_le 1)) _ _)
      (.cons (Slot.optional_describes reads_key _ _) .nil)))).of_eq record_answerSlots

/-- An answer is read if it is the answer of a document that the text holds. -/
theorem decode_eq_ok_iff (text : List Char) (a : Authorization) :
    decode text = .ok a ↔ ∃ d : Doc, d.IsWritten text ∧ ofDoc? d = some a := by
  have deep : 2 < startDepth := by decide
  constructor
  · exact reads_answer.of_run deep
  · rintro ⟨d, written, answer⟩
    have read := reads_answer.run_written deep written
    rw [answer] at read
    unfold decode
    cases result : run decoder (encode text) with
    | ok a' =>
      rw [result] at read
      rw [Option.some.inj read]
    | error e =>
      rw [result] at read
      cases read

/-! ## What is granted -/

/-- Values of which there is none for a key without texts, or one that has the texts of the key. -/
def TellsKey (values : List Doc) (key : CandidateKey) : Prop :=
  (values = [] ∧ key = ⟨"", ""⟩) ∨ ∃ d, values = [d] ∧ d.isRecord 2 = true ∧
    once? Doc.text? "" (d.part "id" 0) = some key.id ∧ once? Doc.text? "" (d.part "base64_key" 1) = some key.base64

/-- A document that is no answer: what it says of a member is said twice, or is of another type. -/
def Misfit (d : Doc) : Prop :=
  d.isRecord 3 = false ∨ Unfit Doc.bool? (d.part "authorized" 0) ∨ Unfit Doc.text? (d.part "message" 1) ∨
    2 ≤ (d.part "pgp_key" 2).length ∨ ∃ key ∈ d.part "pgp_key" 2,
      key.isRecord 2 = false ∨ Unfit Doc.text? (key.part "id" 0) ∨ Unfit Doc.text? (key.part "base64_key" 1)

theorem TellsKey.once {values : List Doc} {key : CandidateKey} (h : TellsKey values key) :
    once? keyOf? ⟨"", ""⟩ values = some key := by
  rcases h with ⟨rfl, rfl⟩ | ⟨d, rfl, told⟩
  · rfl
  · exact keyOf?_eq_some_iff.2 told

theorem Misfit.no_answer {d : Doc} (h : Misfit d) : ofDoc? d = none := by
  rw [Option.eq_none_iff_forall_ne_some]
  intro a answer
  obtain ⟨isRecord, authorized, message, key⟩ := ofDoc?_eq_some_iff.1 answer
  have fit : ∀ {β : Type} {read : Doc → Option β} {absent b : β} {values : List Doc},
      once? read absent values = some b → ¬Unfit read values := by
    intro β read absent b values some unfit
    rw [Doc.once?_eq_none_iff.2 unfit] at some
    cases some
  rcases h with other | unfit | unfit | twice | ⟨k, found, other⟩
  · rw [other] at isRecord
    cases isRecord
  · exact fit authorized unfit
  · exact fit message unfit
  · exact fit key (.inl twice)
  · refine fit key (.inr ⟨k, found, ?_⟩)
    rw [Option.eq_none_iff_forall_ne_some]
    intro k' told
    obtain ⟨isRecord, id, base64⟩ := keyOf?_eq_some_iff.1 told
    rcases other with other | unfit | unfit
    · rw [other] at isRecord
      cases isRecord
    · exact fit id unfit
    · exact fit base64 unfit

theorem Misfit.decode_eq_error {d : Doc} {text : List Char} (h : Misfit d) (written : d.IsWritten text) :
    ∃ e, decode text = .error e := by
  cases read : decode text with
  | error e => exact ⟨e, rfl⟩
  | ok a =>
    have answer := reads_answer.run_written (by decide) written
    rw [h.no_answer] at answer
    rw [decode] at read
    rw [read] at answer
    cases answer

/-- What one literal says, and no other value, is that literal. -/
theorem of_once?_bool {values : List Doc} (h : once? Doc.bool? false values = some true) : values = [.bool true] := by
  cases values with
  | nil => cases h
  | cons d values =>
    cases values with
    | nil =>
      cases d with
      | bool b =>
        obtain rfl : b = true := Option.some.inj h
        rfl
      | null | number | string | array | object => cases h
    | cons d' values => cases h

/-- An answer that grants holds the literal `true` where the verdict stands. An object with one such verdict grants
the key that it tells, and without a verdict it refuses, whatever members it has besides; a document with a member
twice or of another type is no answer, and neither is one with more behind it. -/
theorem decode_grants (text : List Char) :
    (∀ a, decode text = .ok a → a.authorized = true → (∃ d : Doc, d.IsWritten text) ∧ ∀ d : Doc, d.IsWritten text →
      (∃ members, d = .object members ∧ valuesOf "authorized" members = [.bool true]) ∨
        ∃ items, d = .array (.bool true :: items)) ∧
    (∀ members message key, (Doc.object members).IsWritten text → HasNames members →
      once? Doc.text? "" (valuesOf "message" members) = some message → TellsKey (valuesOf "pgp_key" members) key →
        (valuesOf "authorized" members = [.bool true] → decode text = .ok (granted key.id key.base64 message)) ∧
        (valuesOf "authorized" members = [] → decode text = .ok ⟨false, message, key⟩)) ∧
    (∀ d : Doc, d.IsWritten text → Misfit d → ∃ e, decode text = .error e) ∧
    (∀ before own after (d : Doc), Blank before → d.IsSpelled own → encode text = before ++ (own ++ after) →
      ¬Blank after → ∃ e, decode text = .error e) := by
  have deep : 2 < startDepth := by decide
  refine ⟨fun a read grants => ?_, fun members message key written names hmessage hkey => ?_,
    fun d written misfit => misfit.decode_eq_error written, fun before own after d blank spelled parts trailing =>
      reads_answer.run_trailing deep blank spelled trailing parts⟩
  · obtain ⟨d, written, -⟩ := (decode_eq_ok_iff text a).1 read
    refine ⟨⟨d, written⟩, fun d written => ?_⟩
    -- any document that the text holds has the same answer, as it is what decoding gives
    have answer : ofDoc? d = some a := by
      rw [← reads_answer.run_written deep written]
      exact congrArg Except.toOption read
    obtain ⟨isRecord, authorized, -⟩ := ofDoc?_eq_some_iff.1 answer
    rw [grants] at authorized
    have told := of_once?_bool authorized
    cases d with
    | object members => exact .inl ⟨members, rfl, told⟩
    | array items =>
      cases items with
      | nil => cases told
      | cons item items =>
        obtain rfl := List.singleton_inj.1 told
        exact .inr ⟨items, rfl⟩
    | null => cases isRecord
    | bool b => cases isRecord
    | number text => cases isRecord
    | string ps => cases isRecord
  · have answer : ∀ verdict, once? Doc.bool? false (valuesOf "authorized" members) = some verdict →
        decode text = .ok ⟨verdict, message, key⟩ := fun verdict said =>
      (decode_eq_ok_iff text _).2 ⟨_, written, ofDoc?_eq_some_iff.2 ⟨decide_eq_true names, said, hmessage, hkey.once⟩⟩
    exact ⟨fun one => answer true (by rw [one]; rfl), fun none => answer false (by rw [none]; rfl)⟩

/-- A key may also be told by the places of an array, and a member of any name is refused if the name holds half of a
surrogate pair. -/
theorem decode_unusual :
    (∃ members items, (Doc.object members).IsWritten "\x7b\"authorized\":true,\"pgp_key\":[\"i\"]\x7d".toList ∧
      valuesOf "pgp_key" members = [.array items] ∧
      decode "\x7b\"authorized\":true,\"pgp_key\":[\"i\"]\x7d".toList = .ok (granted "i" "" "")) ∧
    (∃ members, (Doc.object members).IsWritten "\x7b\"authorized\":true,\"\\ud800\":1\x7d".toList ∧
      valuesOf "authorized" members = [.bool true] ∧ valuesOf "message" members = [] ∧ valuesOf "pgp_key" members = [] ∧
      ∃ e, decode "\x7b\"authorized\":true,\"\\ud800\":1\x7d".toList = .error e) := by
  have verdict : ∀ {rest : Bytes} {members : List (List Piece × Doc)} {text : List Char},
      Doc.MembersAreSpelled false members rest →
      encode text = encode "\x7b\"authorized\":true".toList ++ (rest ++ [0x7D]) →
      (Doc.object (("authorized".toList.map .plain, .bool true) :: members)).IsWritten text := by
    intro rest members text others parts
    refine ⟨[], _, [], Blank.nil, Blank.nil, ⟨_, ⟨[], [], [], _, rest, Blank.nil, by decide, Blank.nil, Blank.nil,
      rfl, others, rfl⟩, rfl⟩, ?_⟩
    rw [parts]
    simp [Utf8.encodeChar, Doc.quoted, Piece.chars, Bytes.ofAscii]
  have inArray : (Doc.object [("authorized".toList.map .plain, .bool true),
      ("pgp_key".toList.map .plain, .array [.string [.plain 'i']])]).IsWritten
        "\x7b\"authorized\":true,\"pgp_key\":[\"i\"]\x7d".toList :=
    verdict ⟨[0x2C], [], [], _, [], ⟨[], [], Blank.nil, Blank.nil, rfl⟩, by decide, Blank.nil, Blank.nil,
      ⟨_, ⟨[], _, [], Blank.nil, ⟨by decide, rfl⟩, Blank.nil, rfl⟩, rfl⟩, Blank.nil, rfl⟩ (by decide +kernel)
  have half : (Doc.object [("authorized".toList.map .plain, .bool true),
      ([.unit 'd' '8' '0' '0'], .number [0x31])]).IsWritten "\x7b\"authorized\":true,\"\\ud800\":1\x7d".toList :=
    verdict ⟨[0x2C], [], [], [0x31], [], ⟨[], [], Blank.nil, Blank.nil, rfl⟩, by decide, Blank.nil, Blank.nil,
      ⟨.inl ⟨[0x31], [], [], ⟨⟨by decide, List.forall_mem_singleton.2 rfl⟩, by decide⟩, .inl rfl, .inl rfl, rfl⟩, rfl⟩, Blank.nil, rfl⟩
      (by decide +kernel)
  refine ⟨⟨_, _, inArray, rfl, (decode_eq_ok_iff _ _).2 ⟨_, inArray, rfl⟩⟩, _, half, rfl, rfl, rfl, ?_⟩
  exact Misfit.decode_eq_error (.inl rfl) half

end CommitGate.Authorization
