import CommitGate.Authority.Config
import CommitGate.CommandLine.Basic

/-! # Help

The texts that the program prints when asked about itself.

* `CommandLine.help` lists the options, with the values that the environment gives them now. The value of
  the token is not shown.
* `CommandLine.version` names the program.
-/

namespace CommitGate.CommandLine

/-- What the program does. -/
def purpose : String :=
  "Decide whether a git commit is trusted: allowlisted committer, allowlisted third-party key, "
    ++ "or a key authorized by the key management API"

/-- The name of the program and its version. -/
def version : String := "commit-trust 0.4.0"

/-- What a setting is for. -/
def Setting.purpose : Setting → String
  | .path => "Path to a clone of the repository"
  | .reference => "Commit to verify (e.g. HEAD or a full hash)"
  | .repository => "Repository name, matched against allowlist scopes"
  | .token => "Bearer token for the key management API"
  | .baseUrl => "Base URL of the key management API"
  | .allowlist => "Allowlist configuration file (YAML)"
  | .timeout => "Timeout for the authorization request, in seconds"

/-- What a switch is for. -/
def Switch.purpose : Switch → String
  | .pretty => "Pretty-print the outcome on stdout"
  | .help => "Print help"
  | .version => "Print version"

/-- The variable of a setting and its value. -/
def Setting.variableText (env : Environment) (s : Setting) : String :=
  match s with
  | .token => "[env: " ++ s.variableName ++ "]"
  | s => "[env: " ++ s.variableName ++ "=" ++ (env.get? s.variableName).getD "" ++ "]"

/-- The value that a setting has unless another is given. -/
def Setting.standardText (s : Setting) : String :=
  s.standard?.elim "" fun v => " [default: " ++ v ++ "]"

/-- The options with what is said about each. -/
def entries (env : Environment) : List (String × String) :=
  Setting.all.map (fun s =>
      ("      " ++ s.form, s.purpose ++ " " ++ s.variableText env ++ s.standardText))
    ++ Switch.all.map fun s =>
      ((s.letter?.elim "      " fun c => String.ofList [' ', ' ', '-', c, ',', ' ']) ++ s.form,
        s.purpose)

/-- The column in which what is said about an option begins. -/
def column : Nat := (Setting.all.map fun s => s.form.length).foldl max 0 + 8

/-- Spaces. -/
def spaces (n : Nat) : String := String.ofList (List.replicate n ' ')

/-- An option's part of the help. Further lines begin in the same column. -/
def entryText (e : String × String) : String :=
  e.1 ++ spaces (column - e.1.length) ++ e.2.replace "\n" ("\n" ++ spaces column)

/-- All that is said when help is asked for. -/
def help (env : Environment) : String :=
  Terminal.plain <| String.intercalate "\n"
    ([purpose, "", "Usage: commit-trust [OPTIONS]", "", "Options:"] ++ (entries env).map entryText)

end CommitGate.CommandLine
