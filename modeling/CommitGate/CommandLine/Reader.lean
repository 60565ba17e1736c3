import CommitGate.Authority.Config
import CommitGate.CommandLine.Basic

/-! # Reading the command line

* `CommandLine.read` reads a command line with an environment.

A setting's value follows its name, after `=` in the same argument or as the next one. A value that begins
with a hyphen can only be given the first way. Of two things that end the program the one that is seen first
counts, and a setting is looked at when its value is complete and another option, or the end, comes.
-/

namespace CommitGate.CommandLine

/-! ## Words -/

/-- An argument by its form. -/
inductive Word where
  /-- Two hyphens: no options follow. -/
  | separator
  /-- A name after two hyphens, with what follows `=` if there is one. -/
  | long (name : String) (value : Option String)
  /-- The first letter after one hyphen. -/
  | short (letter : Char)
  | plain (text : String)
deriving DecidableEq, Repr

/-- What follows the first `=`. -/
def attached? (s : List Char) : Option String :=
  match s.dropWhile (· ≠ '=') with
  | [] => none
  | _ :: value => some (String.ofList value)

/-- The form of an argument. -/
def Word.ofArgument (argument : String) : Word :=
  match argument.toList with
  | ['-', '-'] => .separator
  | '-' :: '-' :: s => .long (String.ofList (s.takeWhile (· ≠ '='))) (attached? s)
  | '-' :: c :: _ => .short c
  | _ => .plain argument

/-! ## Values -/

/-- How far a command line has been read: the values that settings were given, whether the outcome is to be
pretty, and the setting that was named last if its value is not yet looked at. -/
structure Reading where
  given : List (Setting × String)
  pretty : Bool
  pending : Option (Setting × Option String)
deriving DecidableEq, Repr

namespace Reading

/-- Nothing has been read. -/
def empty : Reading := ⟨[], false, none⟩

/-- The value that a setting was given. -/
def value? (r : Reading) (s : Setting) : Option String :=
  (r.given.find? fun g => g.1 == s).map Prod.snd

/-- A value must suit its setting: paths are not empty, and the timeout is a number. -/
def check (s : Setting) (value : String) : Except Fault Unit :=
  match s with
  | .path | .allowlist => if value.isEmpty then .error (.missingValue s) else .ok ()
  | .timeout =>
    match Whole.read value.toList with
    | .ok _ => .ok ()
    | .error fault => .error (.badNumber s value fault)
  | .reference | .repository | .token | .baseUrl => .ok ()

/-- Put down a setting's value. -/
def store (r : Reading) (s : Setting) (value : String) : Except Fault Reading := do
  if (r.value? s).isSome then throw (.repeatedSetting s)
  check s value
  pure { r with given := r.given ++ [(s, value)], pending := none }

/-- Look at the setting that was named last. -/
def settle (r : Reading) : Except Fault Reading :=
  match r.pending with
  | none => .ok r
  | some (s, none) => .error (.missingValue s)
  | some (s, some value) => r.store s value

/-! ## Options -/

/-- A fault ends the program. -/
def stopping {α : Type} (x : Except Fault α) : Except Stop α := x.mapError .fault

/-- Turn a switch on. -/
def turn (r : Reading) (s : Switch) : Except Stop Reading := do
  let r ← stopping r.settle
  match s with
  | .help => throw .help
  | .version => throw .version
  | .pretty => if r.pretty then throw (.fault (.repeatedSwitch s)) else pure { r with pretty := true }

/-- Take an option with a long name. -/
def takeLong (r : Reading) (name : String) (value : Option String) : Except Stop Reading :=
  match Setting.ofName? name, Switch.ofName? name, value with
  | some s, _, some value => do (← stopping r.settle).store s value |> stopping
  | some s, _, none => do return { (← stopping r.settle) with pending := some (s, none) }
  | none, some s, some value => .error (.fault (.surplusValue s value))
  | none, some s, none => r.turn s
  | none, none, _ => .error (.fault (.unexpected ("--" ++ name)))

/-- Take the next word. A plain one can only be the value of the setting named before it. -/
def take (r : Reading) : Word → Except Stop Reading
  | .long name value => r.takeLong name value
  | .short c =>
    match Switch.ofLetter? c with
    | some s => r.turn s
    | none => .error (.fault (.unexpected (String.ofList ['-', c])))
  | .plain text =>
    match r.pending with
    | some (s, none) => .ok { r with pending := some (s, some text) }
    | _ => .error (.fault (.unexpected text))
  | .separator => .ok r

/-- Take all arguments. After the separator there can be none. -/
def takeAll (r : Reading) : List String → Except Stop Reading
  | [] => stopping r.settle
  | argument :: rest =>
    match Word.ofArgument argument, rest with
    | .separator, [] => stopping r.settle
    | .separator, next :: _ => .error (.fault (.unexpected next))
    | word, rest => do (← r.take word).takeAll rest

/-! ## The environment -/

/-- Take a setting's value from the environment, if it was not given. -/
def fill (env : Environment) (r : Reading) (s : Setting) : Except Fault Reading :=
  match r.value? s, env.get? s.variableName with
  | none, some value => r.store s value
  | _, _ => .ok r

/-- The value of a setting, or the one that holds unless another is given. -/
def valueOrStandard (r : Reading) (s : Setting) : String :=
  ((r.value? s).or s.standard?).getD ""

/-- The arguments that a reading comes to. -/
def arguments (r : Reading) : Arguments where
  path := r.valueOrStandard .path
  reference := r.valueOrStandard .reference
  repository := r.value? .repository
  token := r.value? .token
  baseUrl := r.valueOrStandard .baseUrl
  allowlist := r.value? .allowlist
  timeout := (Whole.read (r.valueOrStandard .timeout).toList).toOption.getD 0
  pretty := r.pretty

end Reading

/-- Read a command line. The environment gives what it does not. -/
def read (arguments : List String) (env : Environment) : Except Stop Arguments := do
  let r ← Reading.empty.takeAll arguments
  let r ← Reading.stopping (Setting.all.foldlM (Reading.fill env) r)
  pure r.arguments

end CommitGate.CommandLine
