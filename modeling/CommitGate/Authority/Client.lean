import CommitGate.Authority.Authorization
import CommitGate.Authority.Config
import CommitGate.Awaited
import CommitGate.Fault
import CommitGate.Http.Exchange
import CommitGate.Log
import CommitGate.Text.Form

/-! # The authority's client

The authority is asked over the network whether a key may sign for a committer.

* `Client.ofConfig` makes a client from settings.
* `Client.requestUrl` is the URL for one question.
* `Client.fetch` asks, given what the network does and by which policy answers are followed.

Only a complete answer with status 200 that holds an authorization counts; all else is a fault.
-/

namespace CommitGate.Authority

/-- Why there is no client or no authorization. -/
inductive Fault where
  | settings (detail : String)
  /-- The authority does not accept the token. -/
  | unauthorized (status : Nat) (excerpt : String)
  | network (detail : String)
  /-- The authority does not answer the question. -/
  | badResponse (status : Nat) (excerpt : String)
  /-- The answer cannot be read. -/
  | badAnswer (detail : String)
deriving DecidableEq, Repr

namespace Fault

/-- The text of a fault. -/
def message : Fault → String
  | settings detail => "configuration error: " ++ detail
  | unauthorized status excerpt => s!"unauthorized: HTTP {status}: {excerpt}"
  | network detail => "network error: " ++ detail
  | badResponse status excerpt => s!"bad response: HTTP {status}: {excerpt}"
  | badAnswer detail => "invalid response: " ++ detail

/-- The short name of the fault's kind. -/
def kind : Fault → String
  | settings _ => "config"
  | unauthorized _ _ => "unauthorized"
  | network _ => "network"
  | badResponse _ _ => "bad_response"
  | badAnswer _ => "invalid_response"

/-- The fault that ends a verification when the authority gives no authorization. -/
def whenAsked (f : Fault) : CommitGate.Fault := .transport f.message

/-- The fault that ends a verification when there is no client. -/
def whenMade : Fault → CommitGate.Fault
  | settings detail => .settings detail
  | f => f.whenAsked

end Fault

/-- A client: where the authority is, and the token that identifies the caller. -/
structure Client where
  baseUrl : Url
  token : String
deriving DecidableEq, Repr

namespace Client

/-- The client for some settings. -/
def ofConfig (c : Config) : Except Fault Client := do
  let token ← match c.token with
    | some token => if token.isEmpty then throw (.settings "missing API token") else pure token
    | none => throw (.settings "missing API token")
  let refused := "invalid base URL '" ++ c.baseUrl ++ "'"
  match Url.read c.baseUrl.toList with
  | .ok (.web baseUrl) => pure { baseUrl, token }
  | .ok .other => throw (.settings refused)
  | .error fault => throw (.settings (refused ++ ": " ++ fault.message))

/-! ## Questions -/

/-- Where below the base URL questions are answered. -/
def endpoint : List (List Char) :=
  ["v0", "pgp", "key", "authorization", "git-commit-signing"].map String.toList

/-- A path without the empty segment that a slash at its end makes. -/
def dropSlash (path : List (List Char)) : List (List Char) :=
  if path.length > 1 && path.getLast? = some [] then path.dropLast else path

/-- The path below another. Below the root the root's empty segment does not count. -/
def below (path segments : List (List Char)) : List (List Char) :=
  if dropSlash path = [[]] then segments else dropSlash path ++ segments

/-- The URL that asks whether a key may sign for a committer. -/
def requestUrl (c : Client) (keyId email : String) : Url :=
  { c.baseUrl with
    path := below c.baseUrl.path endpoint
    query := some (Form.encode [("pgp_key_id", keyId), ("committer_email", email)]) }

/-- The user's name and password in the form that a request carries them in. -/
def basicCredentials (u : Url) : List String :=
  if u.username.isEmpty && u.password.isNone then []
  else
    let decoded (s : List Char) : Bytes := Percent.decode (Utf8.encode s)
    ["Basic " ++ Base64.toText
      (decoded u.username ++ Utf8.encode [':'] ++ (u.password.elim [] decoded))]

/-- What tells the authority who asks. -/
def credentials (c : Client) : List String := basicCredentials c.baseUrl ++ ["Bearer " ++ c.token]

/-- The request that asks whether a key may sign for a committer. -/
def request (c : Client) (keyId email : String) : Http.Request where
  url := (c.requestUrl keyId email).withoutUser
  before := []
  given := c.credentials
  credentials := c.credentials

/-- Whether a character can be sent in a header. -/
def isHeaderCharacter (c : Char) : Bool := c = '\t' || (0x20 ≤ c.toNat && c.toNat ≠ 0x7F)

/-- Whether a request for a URL can be written. Not all that a host may hold can be. -/
def isRequestable (u : Url) : Bool :=
  u.text.length ≤ Http.maxUrlLength && !u.host.text.any ("\"\x60\x7b\x7d".toList.contains ·)

/-! ## Answers -/

/-- The longest part of an answer that is reported, in characters. -/
def maxExcerpt : Nat := 512

/-- The beginning of an answer without blanks around it. -/
def excerpt (body : List Char) : String :=
  let trimmed := Blank.trim body
  String.ofList <|
    if trimmed.length ≤ maxExcerpt then trimmed else trimmed.take maxExcerpt ++ "...".toList

/-- What an answer comes to. -/
def judge (r : Http.Response) : Except Fault Authorization :=
  let body := Utf8.decodeLossy r.body
  if !r.isComplete then .error (.network "failed to read response body: error decoding response body")
  else if r.status = 200 then
    (Authorization.decode body).mapError fun e =>
      .badAnswer ("failed to parse authorization response: " ++ e)
  else if r.status = 401 || r.status = 403 then .error (.unauthorized r.status (excerpt body))
  else .error (.badResponse r.status (excerpt body))

/-- Ask whether a key may sign for a committer. The second part lists the requests that were sent. -/
def fetch (c : Client) (keyId email : String) (replies : List Http.Reply) (policy : Http.Policy := .plain) :
    Except Fault Authorization × List Http.Request :=
  let q := c.request keyId email
  if !c.token.toList.all isHeaderCharacter then (.error (.network "builder error"), [])
  else if !isRequestable q.url then
    (.error (.network ("builder error for url (" ++ q.url.render ++ ")")), [])
  else
    let (result, sent) := Http.Exchange.run policy q replies
    (match result with
      | .ok r => judge r
      | .error fault => .error (.network fault.message), sent)

/-- The authority as it answers through the network, after some polls that find nothing. -/
def authority (c : Client) (latency : Nat) (replies : List Http.Reply) (policy : Http.Policy := .plain) :
    String → String → Awaited (Except CommitGate.Fault Authorization) :=
  fun keyId email => .after ((c.fetch keyId email replies policy).1.mapError Fault.whenAsked) latency

/-- The record of a question. -/
def record (c : Client) (keyId email : String) : Log.Record :=
  ⟨.debug, "requesting key authorization", [("url", .text (c.requestUrl keyId email).render)]⟩

end Client

end CommitGate.Authority
