import CommitGate.Url.Address

/-! # URLs

The address of a resource on the web.

* `Url` has the parts of a URL; `Url.render` writes it.
* `Url.origin` is what a server is known by: the host and the port.

Scope limit: URLs of other schemes than `http` and `https` are not represented.
-/

namespace CommitGate

/-- How a resource is reached. -/
inductive Scheme where
  | http
  | https
deriving DecidableEq, Repr

namespace Scheme

/-- The name of a scheme. -/
def name : Scheme → List Char
  | http => "http".toList
  | https => "https".toList

/-- The port that is meant when none is given. -/
def defaultPort : Scheme → Nat
  | http => 80
  | https => 443

end Scheme

/-- The name or the address of a machine. -/
inductive Host where
  /-- A name in ASCII form. -/
  | domain (name : List Char)
  /-- An address of 32 bits. -/
  | ipv4 (address : Nat)
  /-- An address of eight groups of 16 bits. -/
  | ipv6 (groups : List Nat)
deriving DecidableEq, Repr

/-- A host as it stands in a URL. -/
def Host.text : Host → List Char
  | domain name => name
  | ipv4 address => Ipv4.text address
  | ipv6 groups => '[' :: Ipv6.text groups ++ [']']

/-- A URL. All texts are in the encoded form that `render` writes, and the port is not the default port
of the scheme. The path has at least one segment, which may be empty. -/
structure Url where
  scheme : Scheme
  username : List Char
  password : Option (List Char)
  host : Host
  port : Option Nat
  path : List (List Char)
  query : Option (List Char)
  fragment : Option (List Char)
deriving DecidableEq, Repr

namespace Url

/-- The name and the password of the user, with the sign that ends them. -/
def userText (u : Url) : List Char :=
  if u.username.isEmpty && u.password.isNone then []
  else u.username ++ (u.password.elim [] fun p => ':' :: p) ++ ['@']

/-- The path with its slashes. -/
def pathText (u : Url) : List Char := '/' :: List.intercalate ['/'] u.path

/-- The path and the query: what is asked of the server. -/
def targetText (u : Url) : List Char := u.pathText ++ u.query.elim [] fun q => '?' :: q

/-- The host with the port, unless that is the default port. -/
def hostText (u : Url) : List Char := u.host.text ++ u.port.elim [] fun n => ':' :: Decimal.digits n

/-- A URL as text. -/
def text (u : Url) : List Char :=
  u.scheme.name ++ "://".toList ++ u.userText ++ u.hostText ++ u.targetText
    ++ u.fragment.elim [] fun f => '#' :: f

/-- A URL as a string. -/
def render (u : Url) : String := String.ofList u.text

/-- The port, given or not. -/
def portNumber (u : Url) : Nat := u.port.getD u.scheme.defaultPort

/-- The host and the port. -/
def origin (u : Url) : Host × Nat := (u.host, u.portNumber)

/-- The URL without a user. -/
def withoutUser (u : Url) : Url := { u with username := [], password := none }

/-- The URL without a fragment. -/
def withoutFragment (u : Url) : Url := { u with fragment := none }

end Url

end CommitGate
