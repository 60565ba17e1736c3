import CommitGate.CommandLine.Help
import CommitGate.CommandLine.Reader
import CommitGate.Export
import CommitGate.Json.Pretty
import CommitGate.Verification

/-! # The program

The program reads its command line, verifies a commit, prints the outcome and exports it.

* `Program.closing` is what is left to do after the command line is read and the commit verified.
* `Closing.finish` is the exit code, which depends on whether the export succeeds.

Scope limit: what is printed for people on the second output is no part of a closing.
-/

namespace CommitGate

/-- What is left to do. -/
structure Closing where
  /-- What is printed. -/
  printed : String
  /-- The file that the outcome is exported to, and the value that is exported. -/
  exported : Option (String × String)
  /-- The exit code, unless the export fails. -/
  exitCode : Nat
deriving DecidableEq, Repr

/-- The exit code, given whether the export succeeds. -/
def Closing.finish (c : Closing) (succeeds : Bool) : Nat :=
  if c.exported.isSome && !succeeds then 2 else c.exitCode

namespace Program

/-- The variable that names the file for exports. -/
def exportVariable : String := "GITHUB_OUTPUT"

/-- The file for exports. An empty name is none. -/
def exportPath? (env : Environment) : Option String :=
  (env.get? exportVariable).filter fun p => !p.isEmpty

/-- An outcome as it is printed, with the date that the calendar gives every moment. -/
def printed (pretty : Bool) (o : Outcome) : String :=
  (if pretty then o.toJson.pretty else o.render) ++ "\n"

/-- What is printed of an outcome. -/
def printed? (pretty : Bool) (o : Outcome) : Option String :=
  if o.isWritable then some (printed pretty o) else none

/-- The exit code of a program that breaks off because its outcome cannot be written. -/
def brokenOff : Nat := 101

/-- What is left to do when the program ends before it begins. -/
def stopped (env : Environment) (s : CommandLine.Stop) : Closing where
  printed :=
    match s with
    | .help => CommandLine.help env ++ "\n"
    | .version => CommandLine.version ++ "\n"
    | .fault _ => ""
  exported := none
  exitCode := s.exitCode

/-- What is left to do after a verification. An outcome that cannot be written is neither printed nor exported. -/
def reported (env : Environment) (pretty : Bool) (r : Report) : Closing where
  printed := (printed? pretty r.outcome).getD ""
  exported := (exportPath? env).bind fun path => r.outcome.written?.map fun value => (path, value)
  exitCode := if r.outcome.isWritable then r.exitCode else brokenOff

/-- What is left to do, given the report of a verification. There is nothing to do for a verification
without end. -/
def closing (arguments : List String) (env : Environment) (verify : Settings → Option Report) :
    Option Closing :=
  match CommandLine.read arguments env with
  | .error stop => some (stopped env stop)
  | .ok a => (verify (Settings.ofArguments a)).map (reported env a.pretty)

end Program

end CommitGate
