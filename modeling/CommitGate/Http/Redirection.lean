import CommitGate.Text.Hex
import CommitGate.Text.Split
import CommitGate.Url.Reader

/-! # Redirection

An answer may send its request elsewhere. Where to, and whether the credentials go along, is up to the library
that speaks to the network, so both are a parameter here.

* `Policy` is such a library's part in an exchange.
* `Response.moved?` is the address that an answer names, where all readers of addresses take it for the same one.
* `Policy.plain` follows these addresses only, and looks at the last address for the credentials.
-/

namespace CommitGate

namespace Http

/-- The longest URL that can be requested. -/
def maxUrlLength : Nat := 65534

/-- The answer of a server. -/
structure Response where
  status : Nat
  headers : List (String × Bytes)
  body : Bytes
  /-- Whether the whole body has arrived. -/
  isComplete : Bool
deriving DecidableEq, Repr

/-- Whether a status sends a request elsewhere. -/
def isRedirect (status : Nat) : Bool := [301, 302, 303, 307, 308].contains status

/-- The value of a header, whose name is written in any case. -/
def Response.header? (r : Response) (name : String) : Option Bytes :=
  (r.headers.find? fun h => h.1.toLower == name).map Prod.snd

/-! ## Policies -/

/-- What an answer makes of its exchange. -/
inductive Target where
  /-- The answer is the last one. -/
  | last
  /-- The request goes to another URL. -/
  | onward (url : Url)
  /-- The answer names an address that no request can be sent to, which is a fault with a text. -/
  | refused (message : String)
deriving DecidableEq, Repr

/-- How answers are followed. -/
structure Policy where
  /-- What an answer to a request for a URL makes of the exchange. -/
  target : Response → Url → Target
  /-- Whether a request to the second argument carries the credentials, given the URLs before it, the last of
  them first. -/
  keeps : List Url → Url → Bool

/-! ## Addresses without doubt -/

/-- Whether a character is one that no reader of paths takes for anything else. -/
def isPlain (c : Char) : Bool := c.isAlphanum || c = '-' || c = '_'

/-- Whether a text has only characters that a path with a query may have, and encoded ones. -/
def isStrict : List Char → Bool
  | [] => true
  | '%' :: a :: b :: rest => (Hex.value? a).isSome && (Hex.value? b).isSome && isStrict rest
  | c :: rest => (c.isAlphanum || "-._~!$&'()*+,;=:@/?".toList.contains c) && isStrict rest

end Http

namespace Url

/-- Whether the URL can be written without any leniency of its reader: it is not too long, has neither user nor
fragment, and all its characters are ones that its parts may have. -/
def isStrict (u : Url) : Bool :=
  u.text.length ≤ Http.maxUrlLength && u.userText.isEmpty && u.fragment.isNone
    && u.host.text.all (fun c => c.isAlphanum || "-.:[]".toList.contains c) && Http.isStrict u.targetText

/-- What a text stands for at a URL, if it is a path of plain segments on the same server or a whole URL in its
normal form. -/
def plain? (base : Url) : List Char → Option Url
  | '/' :: path =>
    let segments := Split.on '/' path
    -- readers differ about empty segments and about those of dots, so there is neither
    if segments.all fun s => !s.isEmpty && s.all Http.isPlain then
      some { base with path := segments, query := none, fragment := none }
    else none
  | s =>
    -- an address that reading changes is one that another reader may take differently
    match read s with
    | .ok (.web u) => if u.text = s then some u else none
    | _ => none

end Url

namespace Http

/-- The URL that an answer sends a request for a URL to, if its address is beyond doubt. -/
def Response.moved? (r : Response) (url : Url) : Option Url := do
  if isRedirect r.status && url.isStrict then
    let text ← (Utf8.decode (← r.header? "location")).toOption
    (url.plain? text).filter Url.isStrict
  else none

/-- The policy that follows an address if it is beyond doubt, and keeps the credentials as long as a request goes
to the host and port of the one before it. -/
def Policy.plain : Policy where
  target r url := (r.moved? url).elim .last .onward
  keeps
    | [], _ => true
    | url :: _, next => next.origin = url.origin

theorem Policy.target_plain (r : Response) (url : Url) :
    Policy.plain.target r url = (r.moved? url).elim .last .onward := rfl

end Http

end CommitGate
