import CommitGate.Text.Percent
import CommitGate.Url.Basic
import CommitGate.Url.Domain
import CommitGate.Url.Fault

/-! # Reading URLs

Reading is tolerant as browsers are: blanks around a URL do not count, tabs and line ends in it do not
either, a backslash is a slash, dots in the path are resolved, and what cannot stand for itself is encoded.

* `Url.read` reads a URL that stands alone; of a URL of another scheme it says only that it is one.
-/

namespace CommitGate

namespace Url

/-! ## Characters -/

/-- Whether a character may stand for itself outside all parts: it is ASCII and can be seen. -/
def isVisible (c : Char) : Bool := 0x20 ≤ c.toNat && c.toNat < 0x7F

/-- Whether a character stands for itself in a fragment. -/
def inFragment (c : Char) : Bool := isVisible c && !" \"<>\x60".toList.contains c

/-- Whether a character stands for itself in a path. -/
def inPath (c : Char) : Bool := inFragment c && !"#?\x7b\x7d".toList.contains c

/-- Whether a character stands for itself in the name or password of a user. -/
def inUser (c : Char) : Bool := inPath c && !"/:;=@[\\]^|".toList.contains c

/-- Whether a character stands for itself in a query. -/
def inQuery (c : Char) : Bool := isVisible c && !" \"#<>'".toList.contains c

/-- A text without blanks and controls around it, and without tabs and line ends. -/
def clean (s : List Char) : List Char :=
  let trimmed := ((s.dropWhile (·.toNat ≤ 0x20)).reverse.dropWhile (·.toNat ≤ 0x20)).reverse
  trimmed.filter fun c => !(c = '\t' || c = '\n' || c = '\r')

/-! ## Schemes -/

/-- What is known of a scheme. -/
inductive Kind where
  /-- One of the schemes of the web. -/
  | web (scheme : Scheme)
  /-- A scheme whose URLs have the same form. -/
  | webLike
  /-- The scheme of files. -/
  | file
  /-- Any other scheme. -/
  | foreign
deriving DecidableEq, Repr

/-- The kind of a scheme by its name in lower case. -/
def Kind.ofName (name : String) : Kind :=
  if name = "http" then .web .http
  else if name = "https" then .web .https
  else if name = "ws" || name = "wss" || name = "ftp" then .webLike
  else if name = "file" then .file
  else .foreign

/-- Whether a character can be part of a scheme. -/
def inScheme (c : Char) : Bool := c.isAlphanum || c = '+' || c = '-' || c = '.'

/-- The scheme at the front of a text, and what follows its colon. -/
def splitScheme (s : List Char) : Option (Kind × List Char) :=
  let name := s.takeWhile inScheme
  match name, s.drop name.length with
  | first :: _, ':' :: rest =>
    if first.isAlpha then some (.ofName (String.ofList (name.map Char.toLower)), rest) else none
  | _, _ => none

/-! ## Hosts -/

/-- Whether a character is a slash of either kind. -/
def isSlash (c : Char) : Bool := c = '/' || c = '\\'

/-- The text between brackets, if there are any. -/
def bracketed? (s : List Char) : Except Fault (Option (List Char)) :=
  match s with
  | '[' :: rest => if rest.getLast? = some ']' then .ok (some rest.dropLast) else .error .badIpv6
  | _ => .ok none

/-- The address of 128 bits in some brackets. -/
def readIpv6 (s : List Char) : Except Fault Host :=
  match Ipv6.read? s with
  | some groups => .ok (.ipv6 groups)
  | none => .error .badIpv6

/-- The host in a URL of the web. -/
def readHost (s : List Char) : Except Fault Host := do
  if s.isEmpty then throw .emptyHost
  match ← bracketed? s with
  | some inner => readIpv6 inner
  | none =>
    match Domain.toAscii? (Percent.decode (Utf8.encode s)) with
    | none => throw .badDomain
    | some [] => throw .emptyHost
    | some name =>
      if Ipv4.looksLike name then
        match Ipv4.read? name with
        | some address => pure (.ipv4 address)
        | none => throw .badIpv4
      else pure (.domain name)

/-- Check the host in a URL of a foreign scheme, whose names mean nothing here. -/
def checkForeignHost (s : List Char) : Except Fault Unit := do
  match ← bracketed? s with
  | some inner => discard (readIpv6 inner)
  | none => if s.any ("\x00 #/:<>?@[\\]^|".toList.contains ·) then throw .badHostCharacter

/-- The port, unless it is left out or the default one. -/
def readPort (default : Nat) (s : List Char) : Except Fault (Option Nat) :=
  if s.isEmpty then .ok none
  else
    match Decimal.value? s with
    | some n => if n < 65536 then .ok (if n = default then none else some n) else .error .badPort
    | none => .error .badPort

/-! ## Authorities -/

/-- The user, the host and the port as they are written. -/
structure AuthorityText where
  user : Option (List Char)
  host : List Char
  port : Option (List Char)

/-- Cut a text at the first colon that is not in brackets. -/
def splitPort (inBrackets : Bool) : List Char → List Char × Option (List Char)
  | [] => ([], none)
  | c :: rest =>
    if c = ':' && !inBrackets then ([], some rest)
    else
      let (host, port) := splitPort (c = '[' || (inBrackets && c != ']')) rest
      (c :: host, port)

/-- The parts of an authority. The last `@` ends the user. -/
def splitAuthority (s : List Char) : AuthorityText :=
  let afterAt := (s.reverse.takeWhile (· != '@')).reverse
  let user := if s.contains '@' then some (s.take (s.length - afterAt.length - 1)) else none
  let (host, port) := splitPort false afterAt
  ⟨user, host, port⟩

/-- The name of a user and the password, which follows the first colon unless it is empty. -/
def readUser (s : List Char) : List Char × Option (List Char) :=
  let name := s.takeWhile (· != ':')
  let password := s.drop (name.length + 1)
  (Percent.encode inUser name,
    if password.isEmpty then none else some (Percent.encode inUser password))

/-- The user, the host and the port in an authority of the web. -/
def readAuthority (scheme : Scheme) (s : List Char) :
    Except Fault ((List Char × Option (List Char)) × Host × Option Nat) := do
  let a := splitAuthority s
  let host ← readHost a.host
  let port ← readPort scheme.defaultPort (a.port.getD [])
  pure (readUser (a.user.getD []), host, port)

/-- Check an authority of a foreign scheme. Whether anything follows it makes a difference to a user
without a name. -/
def checkForeignAuthority (s : List Char) (followed : Bool) : Except Fault Unit := do
  let a := splitAuthority s
  let (name, password) := readUser (a.user.getD [])
  if a.user = some [] && a.host.isEmpty && a.port.isNone && followed then throw .emptyHost
  checkForeignHost a.host
  if a.host.isEmpty && a.port.isSome then throw .emptyHost
  discard (readPort 0 ((a.port.getD []).takeWhile (· != '\\')))
  if a.host.isEmpty && (!name.isEmpty || password.isSome) then throw .emptyHost

/-! ## Paths -/

/-- The text of a segment in lower case, with encoded dots as dots. -/
def plainDots : List Char → List Char
  | '%' :: '2' :: 'e' :: rest | '%' :: '2' :: 'E' :: rest => '.' :: plainDots rest
  | c :: rest => c :: plainDots rest
  | [] => []

/-- Whether a segment stands for its place. -/
def isHere (segment : List Char) : Bool := plainDots segment == ['.']

/-- Whether a segment stands for the place above. -/
def isAbove (segment : List Char) : Bool := plainDots segment == ['.', '.']

/-- Go along segments from a place. A path that ends at a place has an empty segment there. -/
def walk (place : List (List Char)) : List (List Char) → List (List Char)
  | [] => place
  | [s] =>
    if isAbove s then place.dropLast ++ [[]]
    else if isHere s then place ++ [[]]
    else place ++ [s]
  | s :: rest =>
    walk (if isAbove s then place.dropLast else if isHere s then place else place ++ [s]) rest

/-- The path that a text without a leading slash leads to from a place. -/
def readPath (place : List (List Char)) (s : List Char) : List (List Char) :=
  walk place ((Split.on '/' (s.map fun c => if c = '\\' then '/' else c)).map (Percent.encode inPath))

/-- The three parts of a text after the authority: the path, the query and the fragment. -/
def splitTail (s : List Char) : List Char × Option (List Char) × Option (List Char) :=
  let beforeFragment := s.takeWhile (· != '#')
  let fragment := s.drop beforeFragment.length
  let path := beforeFragment.takeWhile (· != '?')
  let query := beforeFragment.drop path.length
  (path, if query.isEmpty then none else some (Percent.encode inQuery (query.drop 1)),
    if fragment.isEmpty then none else some (Percent.encode inFragment (fragment.drop 1)))

/-! ## URLs -/

/-- What reading comes to. -/
inductive Reading where
  | web (url : Url)
  /-- A URL of another scheme. -/
  | other
deriving DecidableEq, Repr

/-- Whether a character ends the authority in a URL of the web. -/
def endsAuthority (c : Char) : Bool := isSlash c || c = '?' || c = '#'

/-- A URL of the web, from the authority on. -/
def readFromAuthority (scheme : Scheme) (s : List Char) : Except Fault Url := do
  let authority := s.takeWhile fun c => !endsAuthority c
  let ((username, password), host, port) ← readAuthority scheme authority
  let (path, query, fragment) := splitTail (s.drop authority.length)
  pure { scheme, username, password, host, port, query, fragment, path := readPath [] (path.drop 1) }

/-- Check a URL of the files' scheme, from the colon on. -/
def checkFile (s : List Char) : Except Fault Unit :=
  match s with
  | a :: b :: rest =>
    let host := rest.takeWhile fun c => !endsAuthority c
    let isDrive := match host with
      | [letter, mark] => letter.isAlpha && (mark = ':' || mark = '|')
      | _ => false
    if isSlash a && isSlash b && !host.isEmpty && !isDrive then discard (readHost host) else .ok ()
  | _ => .ok ()

/-- Check a URL of a foreign scheme, from the colon on. -/
def checkForeign (s : List Char) : Except Fault Unit :=
  match s with
  | '/' :: '/' :: rest =>
    let authority := rest.takeWhile fun c => !(c = '/' || c = '?' || c = '#')
    checkForeignAuthority authority (rest.length > authority.length)
  | _ => .ok ()

/-- A URL with a scheme of some kind, from the colon on. -/
def readFromScheme (kind : Kind) (s : List Char) : Except Fault Reading :=
  match kind with
  | .web scheme => (readFromAuthority scheme (s.dropWhile isSlash)).map .web
  | .webLike => (readFromAuthority .http (s.dropWhile isSlash)).map fun _ => .other
  | .file => (checkFile s).map fun _ => .other
  | .foreign => (checkForeign s).map fun _ => .other

/-- Read a URL that stands alone. -/
def read (s : List Char) : Except Fault Reading :=
  match splitScheme (clean s) with
  | some (kind, rest) => readFromScheme kind rest
  | none => .error .relative

end Url

end CommitGate
