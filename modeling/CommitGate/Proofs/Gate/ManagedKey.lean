import CommitGate.Proofs.Gate.Calls
import CommitGate.Proofs.Gate.Trust
import CommitGate.Proofs.OpenPgp.Detached
import CommitGate.Proofs.Text.Lines

/-! # The key that a granted run reports

A run that passes by a managed key reports the key id that the authority was asked about. It was read from
the signature, and which key of the answer made the signature was found out by other names in it:

* `Gate.runUntil_managedKey`: the answer's keyring has the maker of the signature, and the reported key id
  is the maker's if the text begins with its header line and the signature names one key only;
* `Gate.managedKey_ne_maker`: a signature with two names passes with the one that is nobody's.
-/

namespace CommitGate.Gate

open OpenPgp

/-- The authority grants the key id that the commit's signature names, and its answer has the keyring. -/
structure Granted (g : Gate) (commit : Commit) (keyId : String) (signature : Bytes) (k : Keyring) :
    Prop where
  signed : commit.signatureBytes = some signature
  named : ∃ envelope, Envelope.parse signature = .ok envelope ∧ envelope.issuerKeyId = keyId
  answered : ∃ polls answer,
    (g.authority keyId commit.committer.email).arrival? = some (polls, .ok answer) ∧
    answer.authorized = true ∧ Keyring.ofBase64 answer.key.base64 = .ok k

variable {g : Gate} {cancelled : Awaited Unit} {commit : Commit} {allowed : Applied}

/-- Only the last stage reports a managed key: the authority has been asked about it, and the key in the
answer verifies the signature. -/
theorem granted_of_managedKey {o : Outcome} {keyId email : String}
    (ends : (g.runUntil cancelled commit allowed).outcome = some o)
    (source : o.source = some (.managedKey keyId email)) :
    email = commit.committer.email ∧ (g.runUntil cancelled commit allowed).calls = [(keyId, email)] ∧
      ∃ signature k, Granted g commit keyId signature k ∧ k.Verifies g.now commit.payload signature := by
  obtain ⟨d, polls, hd, rfl⟩ := exists_decision ends
  have cause := cause_of_run hd
  cases d with
  | error fault => cases source
  | ok found =>
    obtain rfl : found = .managedKey keyId email := Option.some.inj source
    generalize hd' : (Except.ok (.managedKey keyId email) : Decision) = d at cause
    cases cause with
    | verified hu hr ht ha =>
      obtain ⟨signature, hs, hp⟩ := hr
      obtain ⟨named, k, signer, hk, hv⟩ := verifySignature_eq_ok_iff.1 hd'.symm
      cases named
      obtain ⟨steps, walk⟩ := walk_checkEmail g cancelled commit allowed
      have asks := asks_iff.2 ⟨hu, hs, hp, ht.2.not_isReady⟩
      have due : DueFromStart g cancelled commit allowed (g.runUntil cancelled commit allowed).calls :=
        calls_runUntil ▸ walk_due walk trivial
      rw [raw_of_parse hp] at hv
      exact ⟨rfl, due.asked _ _ asks, signature, k, ⟨hs, ⟨_, hp, rfl⟩, _, _, ht.1, ha, hk⟩, signer, hv⟩
    | _ => cases hd'

/-- A signature that names one key is by the key that its envelope names. -/
theorem maker_id_eq {signature payload : Bytes} {envelope : Envelope} {signatures : List Signature}
    {now : Nat} {c : Certificate} {s : Signature} {key : Key}
    (starts : Armor.signatureLine <+: signature) (hp : Envelope.parse signature = .ok envelope)
    (hr : Detached.read signature = .ok signatures) (hs : s ∈ signatures) (one : s.NamesOneKey)
    (maker : Detached.IsMaker now c payload s key) : Hex.upper key.id = envelope.issuerKeyId := by
  obtain ⟨s', rfl, named⟩ := Detached.read_of_parse starts hp hr
  obtain rfl := List.mem_singleton.1 hs
  obtain ⟨id, issuer, text⟩ := Option.bind_eq_some_iff.1 named
  have mem : id ∈ s.namedIds := List.mem_append_left _ (List.mem_of_mem_head? issuer)
  rw [one key.id maker.id_mem id mem]
  simp only [keyIdText?] at text
  split at text
  · exact Option.some.inj text
  · cases text

/-- A run that passes by a managed key has asked the authority about the reported key id and no other, for
the committer, and the granting answer has the key that made the signature. If the signature's text begins
with its header line, and all names in the signature are names of one key, then any key of the answer that
made the signature has the reported key id. -/
theorem runUntil_managedKey {g : Gate} {cancelled : Awaited Unit} {commit : Commit} {allowed : Applied}
    {o : Outcome} {keyId email : String}
    (ends : (g.runUntil cancelled commit allowed).outcome = some o)
    (source : o.source = some (.managedKey keyId email)) :
    email = commit.committer.email ∧ (g.runUntil cancelled commit allowed).calls = [(keyId, email)] ∧
      ∃ signature k signatures, Granted g commit keyId signature k ∧
        Detached.read signature = .ok signatures ∧
        (∃ s ∈ signatures, ∃ c ∈ k.certificates, ∃ key,
          Detached.IsMaker g.now c commit.payload s key) ∧
        (Armor.signatureLine <+: signature → ∀ s ∈ signatures, s.NamesOneKey →
          ∀ c ∈ k.certificates, ∀ key, Detached.IsMaker g.now c commit.payload s key →
            Hex.upper key.id = keyId) := by
  obtain ⟨committer, calls, signature, k, granted, verifies⟩ := granted_of_managedKey ends source
  obtain ⟨signatures, hr, maker⟩ := Keyring.verifies_iff.1 verifies
  refine ⟨committer, calls, signature, k, signatures, granted, hr, maker, ?_⟩
  intro starts s hs one c _ key by_
  obtain ⟨envelope, hp, rfl⟩ := granted.named
  exact maker_id_eq starts hp hr hs one by_

/-! ## A signature with two names

The commit below is signed by the key `FBF24CA3E1210CF2`, whose fingerprint stands where the signature
covers it. The issuer stands where it does not, and may be anybody.
-/

/-- The string of some lines of ASCII text. -/
def asciiText (lines : List String) : String :=
  String.ofList (Commit.asciiChars (Bytes.unlines (lines.map Bytes.ofAscii)))

theorem ofString_asciiText (lines : List String) :
    Utf8.ofString (asciiText lines) =
      Utf8.encode (Commit.asciiChars (Bytes.unlines (lines.map Bytes.ofAscii))) := by
  rw [Utf8.ofString, asciiText, String.toList_ofList]

/-- A key block with one key on the curve of 256 bits and one user id. -/
def devKey : String :=
  asciiText
    ["xlIEX14QABMIKoZIzj0DAQcCAwQsXJA/9h07m5g5XY7glYqViNaSL7o2TDKGR/6V",
      "oe/FH2wNVRBmgQxnvv94MNEmvdOdfG6mRLC9pDDEVVAyGOL6zQNkZXbCYQQTEwgA",
      "EwUCX14QAAkQ+/JMo+EhDPICGwMAAGF8AP9Y1aepS4mH54l7XiF4QMLsUYj85OFz",
      "FTBDruyJ5A5ESwD9HnD257PrsTmC84DYq5l1Tr7QS9zqLj21kkZJ66tstYE="]

/-- The lines of a signature by the key, with the symbols that stand for the issuer on a line of their
own. -/
def devLines (issuer : String) : List String :=
  ["-----BEGIN PGP SIGNATURE-----", "",
    "wnUEABMIAB0FAmVT8QAWIQQRAEGbZN1760ANpED78kyj4SEM8gAKCR", issuer,
    "ZwAPwMRT/S+G8A3awpsnJkXkFAIDl1YGIwkJQ+Qb/eXHJUPgD+J4JAV1L+Y+7uHh",
    "OPaE9KpKdtJkanvNmF2Jh8p7vLijA=",
    "-----END PGP SIGNATURE-----"]

def devSignature (issuer : String) : String := asciiText (devLines issuer)

/-- The headers of the commit that is signed. -/
def devHeaders : List String :=
  ["tree 4b825dc642cb6eb9a060e54bf8d69288fbee4904",
    "author Dev <dev@example.com> 1700000000 +0000",
    "committer Dev <dev@example.com> 1700000000 +0000"]

/-- The raw commit with such a signature. -/
def devRaw (issuer : String) : Bytes :=
  Bytes.unlines ((devHeaders ++ ["gpgsig -----BEGIN PGP SIGNATURE-----"] ++
    ((devLines issuer).tail ++ [""]).map (" " ++ ·) ++ ["", "Add"]).map Bytes.ofAscii)

/-- The commit that this is. -/
def devCommit (issuer : String) : Commit :=
  let dev : Person := ⟨"Dev", "dev@example.com", ⟨1700000000, 0, 0⟩⟩
  { hash := "abc123"
    tree := "4b825dc642cb6eb9a060e54bf8d69288fbee4904"
    parents := []
    author := dev
    committer := dev
    message := "Add\n"
    signature := some (devSignature issuer)
    payload := Bytes.unlines ((devHeaders ++ ["", "Add"]).map Bytes.ofAscii) }

/-- A gate whose authority grants every key id, and answers with the key. -/
def devGate : Gate :=
  ⟨"example/library", fun keyId _ => .ready (.ok (.granted keyId devKey "")), 1790000000⟩

/-- Two issuers, as symbols and as key ids: nobody and the key itself. -/
def devIssuers : List (String × String) :=
  [("ABI0VniavN72", "0123456789ABCDEF"), ("D78kyj4SEM8m", "FBF24CA3E1210CF2")]

/-- The raw commit is read as the commit, with nobody as the issuer. -/
theorem ofRaw_devRaw :
    Commit.ofRaw "abc123" (devRaw "ABI0VniavN72") = .ok (devCommit "ABI0VniavN72") := by
  have computed : (Commit.ofRaw "abc123" (devRaw "ABI0VniavN72")).toOption.any
      (· == devCommit "ABI0VniavN72") = true := by
    decide +kernel
  obtain ⟨c, hc, same⟩ := any_toOption_iff.1 computed
  rw [hc, beq_iff_eq.1 same]

/-- The key block has one key, which verifies the signature whatever the issuer is. -/
theorem devKey_verifies :
    ∃ k, Keyring.ofBase64 devKey = .ok k ∧
      (∀ c ∈ k.certificates, ∀ key ∈ c.keys, Hex.upper key.id = "FBF24CA3E1210CF2") ∧
      ∀ issuer ∈ devIssuers, k.Verifies devGate.now (devCommit issuer.1).payload
        (Utf8.ofString (devSignature issuer.1)) := by
  have computed : (Keyring.ofBase64 devKey).toOption.any (fun k =>
      (k.certificates.all fun c => c.keys.all fun key => Hex.upper key.id == "FBF24CA3E1210CF2") &&
        devIssuers.all fun issuer => (k.verify devGate.now (devCommit issuer.1).payload
          (Utf8.ofString (devSignature issuer.1))).toOption.any fun _ => true) = true := by
    simp only [Keyring.ofBase64, devKey, devSignature, ofString_asciiText]
    decide +kernel
  obtain ⟨k, hk, computed⟩ := any_toOption_iff.1 computed
  rw [Bool.and_eq_true] at computed
  simp only [List.all_eq_true, beq_iff_eq] at computed
  refine ⟨k, hk, computed.1, fun issuer hi => ?_⟩
  obtain ⟨signer, hv, -⟩ := any_toOption_iff.1 (computed.2 issuer hi)
  exact ⟨signer, hv⟩

/-- The envelope has the issuer's key id. -/
theorem devSignature_parse {issuer : String × String} (h : issuer ∈ devIssuers) :
    ∃ envelope, Envelope.parse (Utf8.ofString (devSignature issuer.1)) = .ok envelope ∧
      envelope.issuerKeyId = issuer.2 := by
  have computed : devIssuers.all (fun issuer =>
      (Envelope.parse (Utf8.ofString (devSignature issuer.1))).toOption.any fun envelope =>
        envelope.issuerKeyId == issuer.2) = true := by
    simp only [devSignature, ofString_asciiText]
    decide +kernel
  obtain ⟨envelope, hp, named⟩ := any_toOption_iff.1 (List.all_eq_true.1 computed issuer h)
  exact ⟨envelope, hp, beq_iff_eq.1 named⟩

instance (s : Signature) : Decidable s.NamesOneKey :=
  inferInstanceAs (Decidable (∀ id ∈ s.namedIds, ∀ other ∈ s.namedIds, id = other))

/-- With the key itself as its issuer, the signature names one key, and its text begins with its header
line. -/
theorem devSignature_namesOneKey :
    Armor.signatureLine <+: Utf8.ofString (devSignature "D78kyj4SEM8m") ∧
      ∀ signatures, Detached.read (Utf8.ofString (devSignature "D78kyj4SEM8m")) = .ok signatures →
        ∀ s ∈ signatures, s.NamesOneKey := by
  have computed : (Armor.signatureLine.isPrefixOf (Utf8.ofString (devSignature "D78kyj4SEM8m")) &&
      (Detached.read (Utf8.ofString (devSignature "D78kyj4SEM8m"))).toOption.all fun signatures =>
        signatures.all fun s => decide s.NamesOneKey) = true := by
    simp only [devSignature, ofString_asciiText]
    decide +kernel
  rw [Bool.and_eq_true, List.isPrefixOf_iff_prefix] at computed
  refine ⟨computed.1, fun signatures hr s hs => ?_⟩
  have one := computed.2
  rw [hr, Except.toOption, Option.all_some, List.all_eq_true] at one
  exact of_decide_eq_true (one s hs)

/-- The run with such a commit passes by the key id of the issuer. -/
theorem exists_outcome_dev {issuer : String × String} (h : issuer ∈ devIssuers) :
    ∃ o, (devGate.run (devCommit issuer.1) (Allowlist.empty.resolve devGate.repository)).outcome =
        some o ∧ o.passed = true ∧ o.source = some (.managedKey issuer.2 "dev@example.com") := by
  obtain ⟨k, hk, -, verifies⟩ := devKey_verifies
  obtain ⟨signer, hv⟩ := verifies issuer h
  obtain ⟨envelope, hp, named⟩ := devSignature_parse h
  have grants : devGate.authority.Grants devGate.now (devCommit issuer.1) issuer.2 :=
    ⟨_, envelope, 0, .granted issuer.2 devKey "", k, signer, rfl, hp, named, rfl, rfl, hk, hv⟩
  have answers : devGate.authority.AnswersFor (devCommit issuer.1) := fun _ _ _ _ => ⟨0, _, rfl⟩
  obtain ⟨d, ho, cause⟩ := exists_cause answers (Allowlist.empty.resolve devGate.repository)
  have trusted : TrustedBy devGate .empty (devCommit issuer.1)
      (.managedKey issuer.2 "dev@example.com") :=
    .authority (fun ⟨_, he, _⟩ => nomatch he) (fun ⟨_, he, _⟩ => nomatch he) grants
  rw [cause.eq_ok_iff.2 trusted] at ho
  exact ⟨_, ho, rfl, rfl⟩

/-- With the key itself as the issuer, the reported key is the one that made the signature. -/
theorem runUntil_managedKey_own :
    ∃ o, (devGate.run (devCommit "D78kyj4SEM8m") (Allowlist.empty.resolve devGate.repository)).outcome =
        some o ∧ o.source = some (.managedKey "FBF24CA3E1210CF2" "dev@example.com") ∧
      ∃ k, Granted devGate (devCommit "D78kyj4SEM8m") "FBF24CA3E1210CF2"
          (Utf8.ofString (devSignature "D78kyj4SEM8m")) k ∧
        ∃ c ∈ k.certificates, ∃ s key,
          Detached.IsMaker devGate.now c (devCommit "D78kyj4SEM8m").payload s key ∧
          Hex.upper key.id = "FBF24CA3E1210CF2" := by
  obtain ⟨o, ends, -, source⟩ := exists_outcome_dev (List.mem_cons_of_mem _ (List.mem_singleton_self _))
  obtain ⟨-, -, signature, k, signatures, granted, hr, ⟨s, hs, c, hc, key, maker⟩, same⟩ :=
    runUntil_managedKey ends source
  obtain rfl : Utf8.ofString (devSignature "D78kyj4SEM8m") = signature := Option.some.inj granted.signed
  obtain ⟨starts, one⟩ := devSignature_namesOneKey
  exact ⟨o, ends, source, k, granted, c, hc, s, key, maker,
    same starts s hs (one signatures hr s hs) c hc key maker⟩

/-- With nobody as the issuer, the run passes all the same: by the signature of a key of the answer, but by
a key id that no key of the answer has. -/
theorem managedKey_ne_maker :
    ∃ commit o k signatures, Commit.ofRaw "abc123" (devRaw "ABI0VniavN72") = .ok commit ∧
      (devGate.run commit (Allowlist.empty.resolve devGate.repository)).outcome = some o ∧
      o.passed = true ∧ o.source = some (.managedKey "0123456789ABCDEF" "dev@example.com") ∧
      Granted devGate commit "0123456789ABCDEF" (Utf8.ofString (devSignature "ABI0VniavN72")) k ∧
      Detached.read (Utf8.ofString (devSignature "ABI0VniavN72")) = .ok signatures ∧
      (∃ s ∈ signatures, ∃ c ∈ k.certificates, ∃ key,
        Detached.IsMaker devGate.now c commit.payload s key ∧ Hex.upper key.id = "FBF24CA3E1210CF2") ∧
      ∀ c ∈ k.certificates, ∀ key ∈ c.keys, Hex.upper key.id ≠ "0123456789ABCDEF" := by
  have issuer : ("ABI0VniavN72", "0123456789ABCDEF") ∈ devIssuers := List.mem_cons_self ..
  obtain ⟨o, ends, passed, source⟩ := exists_outcome_dev issuer
  obtain ⟨k, hk, ids, verifies⟩ := devKey_verifies
  obtain ⟨signatures, hr, s, hs, c, hc, key, maker⟩ := Keyring.verifies_iff.1 (verifies _ issuer)
  have named := devSignature_parse issuer
  have granted : Granted devGate (devCommit "ABI0VniavN72") "0123456789ABCDEF"
      (Utf8.ofString (devSignature "ABI0VniavN72")) k :=
    ⟨rfl, named, 0, _, rfl, rfl, hk⟩
  refine ⟨_, o, k, signatures, ofRaw_devRaw, ends, passed, source, granted, hr,
    ⟨s, hs, c, hc, key, maker, ids c hc key maker.mem_keys⟩, ?_⟩
  intro c hc key hm
  simp [ids c hc key hm]

end CommitGate.Gate
