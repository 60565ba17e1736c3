import CommitGate.Json.Content
import CommitGate.Outcome.Basic

/-! # Reading outcomes

* `Outcome.parse` reads an outcome from JSON, also from one with further members or blanks.
* `Signer.parse` reads a signer on its own.
-/

namespace CommitGate

open Json Json.Decode Json.Reader

/-! ## Parts -/

/-- The decoder of a moment. -/
def Timestamp.decoder : Decoder Timestamp :=
  textWith "an RFC 3339 formatted date and time string" fun s =>
    (Timestamp.parse s.toList).mapError Timestamp.ReadError.message

/-- The moment 0 in UTC. -/
def Timestamp.zero : Timestamp := ⟨0, 0, 0⟩

/-- The decoder of an author or committer. -/
def Person.decoder : Decoder Person :=
  record "struct Actor" ⟨"", "", .zero⟩
    [.needed "name" text fun p s => { p with name := s },
     .needed "email_address" text fun p s => { p with email := s },
     .needed "timestamp" Timestamp.decoder fun p t => { p with timestamp := t }]

/-- The decoder of a commit's published part. -/
def Snapshot.decoder : Decoder Snapshot :=
  let nobody : Person := ⟨"", "", .zero⟩
  record "struct CommitSnapshot" ⟨"", "", [], nobody, nobody, false⟩
    [.needed "commit_hash" text fun c s => { c with hash := s },
     .needed "tree_hash" text fun c s => { c with tree := s },
     .needed "parent_hashes" (list text) fun c hs => { c with parents := hs },
     .needed "author" Person.decoder fun c p => { c with author := p },
     .needed "committer" Person.decoder fun c p => { c with committer := p },
     .needed "signed" bool fun c b => { c with signed := b }]

/-- The text of a name that is not among the names expected. -/
def unknownName (found expected : String) : String :=
  s!"unknown variant \x60{found}\x60, expected {expected}"

/-- The decoder of a verdict's name. -/
def Verdict.nameDecoder : Decoder Verdict :=
  textWith "variant identifier" fun s =>
    if s = "PASS" then .ok .pass
    else if s = "FAIL" then .ok .fail
    else .error (unknownName s "\x60PASS\x60 or \x60FAIL\x60")

/-- Read `null`. -/
def nullDecoder : Decoder Unit := fun _ => do
  let b ← peekValue
  if b == 0x6E then
    skip
    word "ull".toList
  else located (unexpected b "unit")

/-- The decoder of a verdict: its name, or an object whose one member has that name and no value. -/
def Verdict.decoder : Decoder Verdict := fun depth => do
  match ← peekToken with
  | none => failNext .endOfValue
  | some b =>
    if b == 0x7B then
      let verdict ← descend depth fun depth => do
        let verdict ← nameDecoder depth
        colon
        nullDecoder depth
        pure verdict
      match ← peekToken with
      | none => failHere .endOfObject
      | some b =>
        if b == 0x7D then skip else failHere .expectedValue
        pure verdict
    else if b == 0x22 then nameDecoder depth
    else failNext .expectedValue

/-! ## Trust sources -/

/-- The kinds of trust sources. -/
inductive TrustSource.Kind where
  | emailAddress
  | thirdPartyKey
  | managedKey
deriving DecidableEq, Repr

/-- The decoder of a kind's name. -/
def TrustSource.Kind.decoder : Decoder TrustSource.Kind :=
  textWith "variant identifier" fun s =>
    if s = "EMAIL_ADDRESS" then .ok .emailAddress
    else if s = "THIRD_PARTY_KEY" then .ok .thirdPartyKey
    else if s = "BI_MANAGED_KEY" then .ok .managedKey
    else .error (unknownName s
      "one of \x60EMAIL_ADDRESS\x60, \x60THIRD_PARTY_KEY\x60, \x60BI_MANAGED_KEY\x60")

/-- The members of a signer. -/
def Signer.parts : List (Content.Part Signer) :=
  [.text "key_id" fun s x => { s with keyId := x },
   .text "fingerprint" fun s x => { s with fingerprint := x },
   .text "user_id" fun s x => { s with userId := x }]

/-- The trust source of a kind with the given members. -/
def TrustSource.ofContent (kind : TrustSource.Kind) (v : Value) : Except String TrustSource :=
  let variant (name : String) := "struct variant VerificationDetails::" ++ name
  match kind with
  | .emailAddress =>
    .emailAddress <$> Content.record (variant "EmailAddress") ""
      [.text "email_address" fun _ s => s] v
  | .thirdPartyKey =>
    let signer := Content.record "struct ThirdPartyKeyDetails" ⟨"", "", ""⟩ Signer.parts
    .thirdPartyKey <$> Content.record (variant "ThirdPartyKey") ⟨"", "", ""⟩
      [⟨"third_party_key", fun _ v => signer v⟩] v
  | .managedKey =>
    let key := Content.record "struct BiManagedKeyDetails" ("", "")
      [.text "key_id" fun k s => (s, k.2), .text "email_address" fun k s => (k.1, s)]
    (fun k => .managedKey k.1 k.2) <$> Content.record (variant "BiManagedKey") ("", "")
      [⟨"bi_managed_key", fun _ v => key v⟩] v

/-- The decoder of a trust source. -/
def TrustSource.decoder : Decoder TrustSource := fun depth => do
  let (kind, v) ←
    Content.tagged "internally tagged enum VerificationDetails" "verified_by" Kind.decoder depth
  match ofContent kind v with
  | .ok source => pure source
  | .error message => unfit message

/-! ## Outcomes -/

/-- The decoder of an error line. -/
def Outcome.errorDecoder : Decoder String :=
  record "struct OutcomeError" "" [.needed "desc" text fun _ s => s]

/-- The decoder of an outcome. -/
def Outcome.decoder : Decoder Outcome :=
  record "struct Outcome" ⟨"", "", none, .fail, "", none, []⟩
    [.needed "version" text fun o s => { o with version := s },
     .needed "repository" text fun o s => { o with repository := s },
     .optional "commit" (optional Snapshot.decoder) fun o c => { o with commit := c },
     .needed "result" Verdict.decoder fun o v => { o with verdict := v },
     .needed "desc" text fun o s => { o with description := s },
     .optional "verification_details" (optional TrustSource.decoder) fun o s =>
       { o with source := s },
     .optional "errors" (list errorDecoder) fun o es => { o with errors := es }]

/-- The outcome that a text holds. -/
def Outcome.parse (text : String) : Except String Outcome := run decoder (Utf8.ofString text)

/-- The decoder of a signer. -/
def Signer.decoder : Decoder Signer :=
  record "struct SignerIdentity" ⟨"", "", ""⟩
    [.needed "key_id" text fun s x => { s with keyId := x },
     .needed "fingerprint" text fun s x => { s with fingerprint := x },
     .needed "user_id" text fun s x => { s with userId := x }]

/-- The signer that a text holds. -/
def Signer.parse (text : String) : Except String Signer := run decoder (Utf8.ofString text)

end CommitGate
