import CommitGate.Json.Decode
import CommitGate.Text.Whole

/-! # Settings of the authority's client

* `Authority.Config.ofEnvironment` takes settings from variables, `Authority.Config.parse` from JSON.

What is missing or unusable there takes its value from `Authority.Config.standard`.
-/

namespace CommitGate

/-- The variables of an environment with their values. -/
abbrev Environment := List (String × String)

/-- The value of a variable. -/
def Environment.get? (env : Environment) (name : String) : Option String :=
  (env.find? fun v => v.1 == name).map Prod.snd

namespace Authority

/-- Where the authority is, the token that identifies the caller, and how long to wait for an
answer in seconds. -/
structure Config where
  baseUrl : String
  token : Option String
  timeout : Nat
deriving DecidableEq, Repr

namespace Config

open Json.Decode

/-- The settings that hold unless others are given. -/
def standard : Config := ⟨"https://api.byndid.com/key-mgmt", none, 30⟩

/-- A variable's value unless it is empty. -/
def nonEmpty? (env : Environment) (name : String) : Option String :=
  (env.get? name).filter fun v => !v.isEmpty

/-- The settings that an environment gives. -/
def ofEnvironment (env : Environment) : Config where
  baseUrl := (nonEmpty? env "API_BASE_URL").getD standard.baseUrl
  token := nonEmpty? env "API_TOKEN"
  timeout := ((env.get? "API_TIMEOUT_SECS").bind fun v => (Whole.read v.toList).toOption).getD
    standard.timeout

/-- The decoder of settings. -/
def decoder : Decoder Config :=
  record "struct AuthorityConfig" standard
    [.optional "base_url" text fun c s => { c with baseUrl := s },
     .optional "token" (Json.Decode.optional text) fun c t => { c with token := t },
     .optional "timeout_secs" natural fun c n => { c with timeout := n }]

/-- The settings that a text holds. -/
def parse (text : String) : Except String Config := run decoder (Utf8.ofString text)

end Config

end Authority

end CommitGate
