import CommitGate.Text.Terminal
import CommitGate.Text.Whole

/-! # The command line

What can be said on the command line.

* `Setting` and `Switch` are the options with and without a value; `Setting.variableName` is the variable of
  the environment that stands in for an absent option.
* `Arguments` is what a command line comes to, with all values in place.
* `Stop` is what ends the program before it begins, `Fault` a command line that makes no sense.
-/

namespace CommitGate.CommandLine

/-! ## Options -/

/-- The options that take a value, in the order in which they are listed. -/
inductive Setting where
  | path
  | reference
  | repository
  | token
  | baseUrl
  | allowlist
  | timeout
deriving DecidableEq, Repr

/-- The options without a value. -/
inductive Switch where
  | pretty
  | help
  | version
deriving DecidableEq, Repr

namespace Setting

/-- All settings in order. -/
def all : List Setting := [path, reference, repository, token, baseUrl, allowlist, timeout]

/-- The name that follows two hyphens. -/
def name : Setting → String
  | path => "path"
  | reference => "ref"
  | repository => "repository"
  | token => "api-token"
  | baseUrl => "api-base-url"
  | allowlist => "allowlist"
  | timeout => "timeout-secs"

/-- What a value is called. -/
def placeholder : Setting → String
  | path => "PATH"
  | reference => "COMMIT_REF"
  | repository => "REPOSITORY"
  | token => "API_TOKEN"
  | baseUrl => "API_BASE_URL"
  | allowlist => "ALLOWLIST"
  | timeout => "TIMEOUT_SECS"

/-- The variable that gives the value when the command line does not. -/
def variableName : Setting → String
  | path => "REPO_PATH"
  | reference => "COMMIT_REF"
  | repository => "REPOSITORY"
  | token => "API_TOKEN"
  | baseUrl => "API_BASE_URL"
  | allowlist => "ALLOWLIST_CONFIG_FILE_PATH"
  | timeout => "API_TIMEOUT_SECS"

/-- The value that holds unless another is given. -/
def standard? : Setting → Option String
  | path => some "."
  | reference => some "HEAD"
  | baseUrl => some "https://api.byndid.com/key-mgmt"
  | timeout => some "30"
  | repository | token | allowlist => none

/-- The setting with its value's placeholder. -/
def form (s : Setting) : String := "--" ++ s.name ++ " <" ++ s.placeholder ++ ">"

/-- The setting of a name. -/
def ofName? (name : String) : Option Setting := all.find? fun s => s.name == name

end Setting

namespace Switch

/-- All switches in order. -/
def all : List Switch := [pretty, help, version]

/-- The name that follows two hyphens. -/
def name : Switch → String
  | pretty => "pretty"
  | help => "help"
  | version => "version"

/-- The letter that follows one hyphen. -/
def letter? : Switch → Option Char
  | pretty => none
  | help => some 'h'
  | version => some 'V'

/-- The switch as it is written. -/
def form (s : Switch) : String := "--" ++ s.name

/-- The switch of a name. -/
def ofName? (name : String) : Option Switch := all.find? fun s => s.name == name

/-- The switch of a letter. -/
def ofLetter? (c : Char) : Option Switch := all.find? fun s => s.letter? == some c

end Switch

/-! ## Faults -/

/-- Why a command line makes no sense. -/
inductive Fault where
  /-- An argument is no option, and nothing else is expected. -/
  | unexpected (argument : String)
  /-- A switch has a value. -/
  | surplusValue (switch : Switch) (value : String)
  /-- A setting has no value, or an empty one where that cannot be. -/
  | missingValue (setting : Setting)
  | repeatedSetting (setting : Setting)
  | repeatedSwitch (switch : Switch)
  /-- The value of a setting is no number. -/
  | badNumber (setting : Setting) (value : String) (fault : Whole.Fault)
deriving DecidableEq, Repr

/-- A fault in words, which cite the command line. -/
def Fault.describe : Fault → String
  | .unexpected argument => "error: unexpected argument '" ++ argument ++ "' found"
  | .surplusValue switch value =>
    "error: unexpected value '" ++ value ++ "' for '" ++ switch.form ++ "' found; no more were expected"
  | .missingValue setting =>
    "error: a value is required for '" ++ setting.form ++ "' but none was supplied"
  | .repeatedSetting setting =>
    "error: the argument '" ++ setting.form ++ "' cannot be used multiple times"
  | .repeatedSwitch switch =>
    "error: the argument '" ++ switch.form ++ "' cannot be used multiple times"
  | .badNumber setting value fault =>
    "error: invalid value '" ++ value ++ "' for '" ++ setting.form ++ "': " ++ fault.message

/-- The text of a fault, fit to be shown. -/
def Fault.message (f : Fault) : String := Terminal.plain f.describe

/-- What ends the program before it begins. -/
inductive Stop where
  | help
  | version
  | fault (f : Fault)
deriving DecidableEq, Repr

/-- The exit code of a program that ends so. -/
def Stop.exitCode : Stop → Nat
  | .help | .version => 0
  | .fault _ => 2

/-! ## Arguments -/

/-- What a command line comes to. -/
structure Arguments where
  /-- Where the clone is. -/
  path : String
  /-- What names the commit. -/
  reference : String
  repository : Option String
  token : Option String
  baseUrl : String
  /-- The file with the allowlist. -/
  allowlist : Option String
  /-- How long to wait for the authority, in seconds. -/
  timeout : Nat
  /-- Whether the outcome is printed over several lines. -/
  pretty : Bool
deriving DecidableEq, Repr

end CommitGate.CommandLine
