/-! # Faults

What ends a verification with a FAIL, or is reported beside its result.

* `SignatureFault` holds the reasons for refusing a signature's envelope.
* `Fault` holds all causes; `Fault.isFatal` tells apart the one kind that never decides a result.
-/

namespace CommitGate

/-- Why a text is not a detached signature. -/
inductive SignatureFault where
  /-- The armor cannot be decoded. -/
  | armor (detail : String)
  /-- The first packet cannot be read. -/
  | packet (detail : String)
  /-- The only packet is something else than a signature. -/
  | notASignature
  /-- Something follows the first packet. -/
  | unexpectedPackets
  /-- The signature does not name the key that made it. -/
  | missingIssuer
deriving DecidableEq, Repr

/-- The text of a signature's fault. -/
def SignatureFault.message : SignatureFault → String
  | .armor detail => "failed to decode armored signature: " ++ detail
  | .packet detail => "failed to read signature packet: " ++ detail
  | .notASignature => "packet is not a signature"
  | .unexpectedPackets => "signature contains unexpected packets"
  | .missingIssuer => "signature missing issuer key id subpacket"

/-- The causes for which a commit is not trusted, or a list entry is left out. -/
inductive Fault where
  /-- A setting is missing or cannot be used. -/
  | settings (detail : String)
  /-- The commit cannot be read. -/
  | commitAccess (detail : String)
  /-- The allowlist cannot be read. -/
  | allowlist (detail : String)
  /-- One entry of the allowlist cannot be used. -/
  | allowlistEntry (detail : String)
  /-- The commit carries no signature. -/
  | unsigned
  /-- The commit's signature cannot be read. -/
  | signature (fault : SignatureFault)
  /-- The authority gave no usable answer. -/
  | transport (detail : String)
  /-- The authority refused the key. -/
  | denied (reason : String)
  /-- The signature is not one by the authorized key. -/
  | mismatch (reason : String)
deriving DecidableEq, Repr

namespace Fault

/-- The text of a fault. -/
def message : Fault → String
  | .settings detail => "invalid configuration: " ++ detail
  | .commitAccess detail => "failed to get commit: " ++ detail
  | .allowlist detail => "failed to get allowlist: " ++ detail
  | .allowlistEntry detail => "invalid allowlist entry: " ++ detail
  | .unsigned => "commit is not signed"
  | .signature fault => "failed to parse signature: " ++ fault.message
  | .transport detail => "failed to get authorization: " ++ detail
  | .denied reason => "authorization denied: " ++ reason
  | .mismatch reason => "signature verification failed: " ++ reason

/-- Whether the fault ends the verification. -/
def isFatal : Fault → Bool
  | .allowlistEntry _ => false
  | _ => true

/-- The short name of the fault's kind. -/
def kind : Fault → String
  | .settings _ => "config"
  | .commitAccess _ => "commit_access"
  | .allowlist _ => "allowlist_load"
  | .allowlistEntry _ => "allowlist_entry"
  | .unsigned => "unsigned_commit"
  | .signature _ => "signature_parse"
  | .transport _ => "transport"
  | .denied _ => "authority_denied"
  | .mismatch _ => "signature_mismatch"

/-- The exit code of a program that stops at the fault. -/
def exitCode : Fault → Nat
  | .settings _ => 2
  | _ => 1

end Fault

end CommitGate
