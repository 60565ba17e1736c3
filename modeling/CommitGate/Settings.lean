import CommitGate.Authority.Config
import CommitGate.CommandLine.Basic
import CommitGate.Fault
import CommitGate.Text.Blank

/-! # Settings of a verification

* `Settings.ofArguments` takes settings from the command line, without the blanks around them.
* `Settings.faults` lists all that is wrong with settings.
* `Settings.authority` is what the authority's client needs of them.
-/

namespace CommitGate

/-- What a verification needs to know. -/
structure Settings where
  /-- Where the clone is. -/
  path : String
  /-- What names the commit. -/
  reference : String
  repository : String
  token : String
  baseUrl : String
  /-- The file with the allowlist, if there is one. -/
  allowlist : Option String
  /-- How long to wait for the authority, in seconds. -/
  timeout : Nat
deriving DecidableEq, Repr

namespace Settings

/-- A text without the blanks around it. -/
def trim (s : String) : String := String.ofList (Blank.trim s.toList)

/-- The settings that a command line gives. Paths keep their blanks. -/
def ofArguments (a : CommandLine.Arguments) : Settings where
  path := a.path
  reference := trim a.reference
  repository := trim (a.repository.getD "")
  token := trim (a.token.getD "")
  baseUrl := trim a.baseUrl
  allowlist := a.allowlist.filter fun p => !p.isEmpty
  timeout := a.timeout

/-- The fault of an empty setting. -/
def absent (name value : String) : List Fault :=
  if value.isEmpty then [.settings ("missing config field: " ++ name)] else []

/-- The fault of a timeout that leaves no time. -/
def noTime (timeout : Nat) : List Fault :=
  if timeout = 0 then [.settings "timeout must be at least one second"] else []

/-- All that is wrong with settings, in a fixed order. -/
def faults (s : Settings) : List Fault :=
  absent "path" s.path ++ absent "ref" s.reference ++ absent "api token" s.token
    ++ absent "api base url" s.baseUrl ++ absent "repository" s.repository ++ noTime s.timeout

/-- The settings of the authority's client. -/
def authority (s : Settings) : Authority.Config where
  baseUrl := s.baseUrl
  token := some s.token
  timeout := s.timeout

end Settings

end CommitGate
