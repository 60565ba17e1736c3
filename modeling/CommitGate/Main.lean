import CommitGate.Program
import CommitGate.Repository.Files
import Std.Time.DateTime.Timestamp

/-! # The command line program

The program reads what its command line names, lets the library decide, and prints and exports the outcome.

Scope limit: the program reaches no server, so that no key is authorized by the authority, and it reads no
packed objects.
-/

namespace CommitGate

/-! ## Files -/

/-- The fault that a failed input stands for. -/
def FileFault.ofError : IO.Error → FileFault
  | .noFileOrDirectory _ _ _ => .notFound
  | .inappropriateType _ code details =>
    if code = 21 then .isDirectory else .other s!"{details} (os error {code})"
  | .permissionDenied _ code details => .other s!"{details} (os error {code})"
  | e => .other e.toString

/-- What the file of a path holds. -/
def readFile (path : String) : IO (Except FileFault ByteArray) := do
  match ← (IO.FS.readBinFile path).toBaseIO with
  | .ok data => return .ok data
  | .error e => return .error (.ofError e)

/-- The bytes of a file, if it can be read. -/
def readBytes? (path : String) : IO (Option Bytes) := do
  return (← readFile path).toOption.map ByteArray.toList

/-- Whether there is a directory at a path. -/
def isDirectory (path : String) : IO Bool := do
  match ← readFile (path ++ "/") with
  | .error .isDirectory => return true
  | _ => return false

/-! ## Clones -/

/-- How far up a repository is looked for. -/
def maxLevels : Nat := 64

/-- The directory in which a repository is kept, at a path or above it. -/
def findRepository (path : String) : IO (Option String) := do
  let mut place := path
  for _ in List.range maxLevels do
    for directory in [place ++ "/.git", place] do
      if (← readBytes? (directory ++ "/HEAD")).isSome && (← isDirectory (directory ++ "/objects")) then
        return some directory
    place := place ++ "/.."
  return none

/-- How many references may lead from one to the next. -/
def maxLinks : Nat := 5

/-- The object that a reference stands for. -/
def readReference (directory : String) (packed : List (String × Repository.ObjectId)) (name : String) :
    IO (Option Repository.ObjectId) := do
  let mut name := name
  for _ in List.range maxLinks do
    match (← readBytes? (directory ++ "/" ++ name)).bind Repository.Files.head? with
    | some (.reference next) => name := next
    | some (.detached id) => return some id
    | none => return packed.lookup name
  return none

/-- Read the commit of a reference from a repository. Objects are read as the search looks for them. -/
def readRepository (directory path reference : String) (head : Repository.Head) : IO Reading := do
  let packed := ((← readBytes? (directory ++ "/packed-refs")).map Repository.Files.packed).getD []
  let target := match head with
    | .reference name => [name]
    | .detached _ => []
  let mut references := []
  for name in target ++ Repository.Files.names reference do
    if let some id ← readReference directory packed name then
      references := (name, id) :: references
  let mut repository : Repository := ⟨[], references, head⟩
  let mut tried : List Repository.ObjectId := []
  let mut reading := (Clone.repository repository).read path reference
  repeat
    let wanted := reading.sought.filter fun id => !tried.contains id
    if wanted.isEmpty then break
    for id in wanted.eraseDups do
      tried := id :: tried
      if let .ok data ← readFile (directory ++ "/" ++ Repository.Files.objectPath id) then
        if let some o := Repository.Files.object? data then
          repository := { repository with objects := (id, o) :: repository.objects }
    reading := (Clone.repository repository).read path reference
  return reading

/-- Read the commit of a reference from the clone at a path. -/
def readClone (path reference : String) : IO Reading := do
  match ← readFile (path ++ "/") with
  | .error .notFound => return Clone.missing.read path reference
  | .error .isDirectory =>
    if let some directory ← findRepository path then
      if let some head := (← readBytes? (directory ++ "/HEAD")).bind Repository.Files.head? then
        return ← readRepository directory path reference head
    return Clone.noRepository.read path reference
  | _ => return Clone.noDirectory.read path reference

/-! ## The program -/

/-- A record as a line of text. -/
def Log.Record.line (r : Record) : String :=
  let value : Log.Value → String := fun
    | .flag b => toString b
    | .number n => toString n
    | .text s => s
  let level := match r.level with
    | .debug => "DEBUG"
    | .info => "INFO"
    | .warn => "WARN"
  level ++ " " ++ r.message ++ String.join (r.fields.map fun (k, v) => " " ++ k ++ "=" ++ value v)

/-- The variables that the program looks at. -/
def readEnvironment : IO Environment := do
  let names := Program.exportVariable :: CommandLine.Setting.all.map CommandLine.Setting.variableName
  names.filterMapM fun name => do return (← IO.getEnv name).map (name, ·)

/-- Verify a commit with what is found outside. All records but the finest are printed on the way. -/
def verify (s : Settings) : IO (Option Report) := do
  let allowlist ← match s.allowlist with
    | some path => readFile path
    | none => pure (.error .notFound)
  let reading ← readClone s.path s.reference
  let now := (← Std.Time.Timestamp.now).toSecondsSinceUnixEpoch.val.toNat
  let account := Verification.run
    { commitAt := fun _ => reading.commit
      contentOf := fun _ => allowlist.map ByteArray.toList
      authority := fun client => client.authority 0 []
      cancelled := .never
      now := now } s
  for act in account.acts do
    for record in act.records (Mark.records fun _ _ => []) do
      if record.level ≠ .debug then IO.eprintln record.line
  return account.report

/-- Export an outcome. The result says whether that succeeds. -/
def exportTo (path value : String) : IO Bool := do
  let append : IO Unit := do
    let file ← IO.FS.Handle.mk path .append
    file.putStr (Export.line value)
    file.flush
  match ← append.toBaseIO with
  | .ok () => return true
  | .error _ =>
    IO.eprintln (Export.openFault path)
    return false

/-- Run the program. The result is its exit code. -/
def Program.execute (arguments : List String) : IO UInt32 := do
  let env ← readEnvironment
  let report ← match CommandLine.read arguments env with
    | .ok a => verify (.ofArguments a)
    | .error (.fault f) =>
      IO.eprintln f.message
      pure none
    | .error _ => pure none
  match Program.closing arguments env fun _ => report with
  | none => return UInt32.ofNat Report.refusal
  | some c =>
    IO.print c.printed
    let succeeds ← match c.exported with
      | some (path, value) => exportTo path value
      | none => pure true
    return UInt32.ofNat (c.finish succeeds)

end CommitGate

def main (arguments : List String) : IO UInt32 := CommitGate.Program.execute arguments
