import CommitGate.Http.Redirection

/-! # Exchanges with a server

A request is sent, and what the network does is given as a list of replies: one for each request, in order.
A reply may send the request elsewhere, which is decided by a policy.

* `Exchange.run` goes on until a reply is final and says which requests have been sent.
* `Request.redirected` starts from what the caller has given, and leaves out the credentials unless the policy
  keeps them.

Scope limit: time does not pass, and nothing is sent but requests without a body.
-/

namespace CommitGate.Http

/-- What a request says that it comes from. -/
def userAgent : String := "commit-trust/0.4.0"

/-- A request for a resource. -/
structure Request where
  url : Url
  /-- The URLs of the requests before it in the exchange, the last of them first. -/
  before : List Url
  /-- The credentials that the caller has given for the exchange. -/
  given : List String
  /-- The credentials that the request carries. -/
  credentials : List String
deriving DecidableEq, Repr

/-- The headers of a request, in the order of their names. -/
def Request.headers (q : Request) : List (String × String) :=
  [("accept", "application/json")] ++ q.credentials.map (fun v => ("authorization", v))
    ++ [("host", String.ofList q.url.hostText), ("user-agent", userAgent)]

/-- What the network does with a request. -/
inductive Reply where
  /-- No server is reached, and the request is not sent. -/
  | unreachable
  /-- The connection is closed before an answer. -/
  | closed
  | answer (r : Response)
deriving DecidableEq, Repr

/-- Why there is no final answer. -/
inductive Fault where
  /-- No answer came for the URL. -/
  | send (url : Url)
  /-- The answer for the URL leads too far. -/
  | redirect (url : Url)
  /-- An answer names an address that no request can be sent to. -/
  | refused (message : String)
deriving DecidableEq, Repr

/-- The text of a fault. -/
def Fault.message : Fault → String
  | .send url => "error sending request for url (" ++ url.render ++ ")"
  | .redirect url => "error following redirect for url (" ++ url.render ++ ")"
  | .refused message => message

/-- The request that is sent to `url` instead. -/
def Request.redirected (q : Request) (policy : Policy) (url : Url) : Request where
  url := url
  before := q.url :: q.before
  given := q.given
  credentials := if policy.keeps (q.url :: q.before) url then q.given else []

/-- How many times a request may be sent elsewhere. -/
def maxRedirects : Nat := 10

namespace Exchange

/-- Send a request, and send it elsewhere at most `left` times. -/
def go (policy : Policy) (left : Nat) (q : Request) : List Reply → Except Fault Response × List Request
  | [] | .unreachable :: _ => (.error (.send q.url), [])
  | .closed :: _ => (.error (.send q.url), [q])
  | .answer r :: rest =>
    match policy.target r q.url with
    | .last => (.ok r, [q])
    | .refused message => (.error (.refused message), [q])
    | .onward url =>
      match left with
      | 0 => (.error (.redirect q.url), [q])
      | left + 1 =>
        let (result, sent) := go policy left (q.redirected policy url) rest
        (result, q :: sent)

/-- The final answer to a request, and the requests that have been sent. -/
def run (policy : Policy) (q : Request) (replies : List Reply) : Except Fault Response × List Request :=
  go policy maxRedirects q replies

end Exchange

end CommitGate.Http
