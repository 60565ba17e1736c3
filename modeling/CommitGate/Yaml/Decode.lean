import CommitGate.Yaml.Resolve

/-! # Decoding YAML documents

* `Decode` is the monad of decoding: it knows the document and counts how often an alias was followed.
* `Decode.value` reads any node as a value; `Decode.items` reads a sequence, `Decode.members` a mapping.
* `Decode.run` decodes a document that must be the only one of its text.

A misfit carries the place where it was found: the innermost node whose decoding noticed it.
-/

namespace CommitGate.Yaml

/-- Why a document cannot be decoded. -/
inductive Misfit where
  /-- The text is not YAML. -/
  | document (fault : Fault)
  /-- A node is not what is expected. Its place is a mark and a path. -/
  | node (problem : String) (place : Option (Mark × String))
  /-- Collections are nested too deep. -/
  | tooDeep (mark : Mark)
  /-- Aliases are followed too often. -/
  | tooManyAliases
  /-- The text holds another document. -/
  | secondDocument
deriving DecidableEq, Repr

namespace Misfit

/-- A mark at the end of a message. -/
def atMark (m : Mark) : String := if m.isStart then "" else " at " ++ m.text

/-- The text of a misfit. -/
def message : Misfit → String
  | .document (.notYaml fault) => fault.message
  | .document (.unknownAnchor mark) => "unknown anchor" ++ atMark mark
  | .node problem none => problem
  | .node problem (some (mark, path)) =>
    (if path = "." then "" else path ++ ": ") ++ problem ++ atMark mark
  | .tooDeep mark => "recursion limit exceeded" ++ atMark mark
  | .tooManyAliases => "repetition limit exceeded"
  | .secondDocument =>
    "deserializing from YAML containing more than one document is not supported"

/-- A misfit with a place, unless it has one. -/
def place (mark : Mark) (path : String) : Misfit → Misfit
  | .node problem none => .node problem (some (mark, path))
  | m => m

end Misfit

/-- A decoded value. -/
inductive Value where
  | scalar (m : Meaning)
  | sequence (items : List Value)
  | mapping (members : List (Value × Value))
deriving Repr

/-- A step of decoding. -/
abbrev Decode (α : Type) := ReaderT Document (StateT Nat (Except Misfit)) α

namespace Decode

/-- How deep collections may be nested. -/
def maxDepth : Nat := 128

/-- How often aliases may be followed for each event of the document. -/
def aliasesPerEvent : Nat := 100

/-! ## Places and paths -/

/-- Fail with a problem whose place is still to be found. -/
def misfit {α : Type} (problem : String) : Decode α := throw (.node problem none)

/-- Give misfits without a place one. -/
def placed {α : Type} (mark : Mark) (path : String) (d : Decode α) : Decode α := fun doc aliases =>
  (d doc aliases).mapError (.place mark path)

/-- The path of an item. -/
def itemPath (path : String) (index : Nat) : String := path ++ "[" ++ toString index ++ "]"

/-- The path of the value of a key. -/
def memberPath (path : String) (key : Node) : String :=
  let start := if path = "." then "" else path ++ "."
  match key with
  | .scalar _ _ s => start ++ String.ofList s.text
  | _ => start ++ "?"

/-! ## Nodes -/

/-- Fail because the text stops being YAML. -/
def cutOff {α : Type} : Decode α := do
  match (← read).fault with
  | some fault => throw (.document fault)
  | none => misfit "EOF while parsing a value"

/-- The node that an alias points to, or else the node itself. -/
def follow (n : Node) : Decode Node := do
  match n with
  | .alias _ anchor =>
    let count := (← get) + 1
    set count
    let doc ← read
    if doc.size * aliasesPerEvent < count then throw .tooManyAliases
    match doc.target? anchor with
    | some n => pure n
    | none => cutOff
  | n => pure n

mutual

/-- Whether the text is YAML to the end of a node. -/
def isWhole : Node → Bool
  | .scalar _ _ _ | .alias _ _ => true
  | .sequence _ _ items | .mapping _ _ items => areWhole items
  | .cut => false

/-- Whether the text is YAML to the end of all nodes. -/
def areWhole : List Node → Bool
  | [] => true
  | n :: ns => isWhole n && areWhole ns

end

/-- Pass over a node. -/
def ignore (n : Node) : Decode Unit := do if !isWhole n then cutOff

/-- What a node is called in a message, or why it cannot be called anything. -/
def describe : Node → Except String String
  | .scalar _ tag s => (s.resolve tag).map Meaning.describe
  | .sequence _ _ _ => .ok "sequence"
  | .mapping _ _ _ => .ok "map"
  | .alias _ _ | .cut => .ok "alias"

/-- Fail because a node is something else than expected. -/
def unexpected {α : Type} (n : Node) (expected : String) : Decode α :=
  match describe n with
  | .ok what => misfit ("invalid type: " ++ what ++ ", expected " ++ expected)
  | .error problem => misfit problem

/-- Whether a node is an empty scalar without quotes, which stands for any empty collection. -/
def isBlankScalar : Node → Bool
  | .scalar _ _ s => s.isPlain && s.text.isEmpty
  | _ => false

/-- Read the items of a sequence, each with its path. -/
def items {α : Type} (path : String) (read : String → Node → Decode α) (index : Nat) :
    List Node → Decode (List α)
  | [] => pure []
  | .cut :: _ => cutOff
  | n :: ns => do
    let a ← read (itemPath path index) n
    let as ← items path read (index + 1) ns
    pure (a :: as)

/-- Let the members of a mapping act on a state in order. -/
def members {σ : Type} (act : σ → Node → Node → Decode σ) (s : σ) : List Node → Decode σ
  | [] => pure s
  | .cut :: _ => cutOff
  | key :: value :: rest => do
    let s ← act s key value
    members act s rest
  | [_] => cutOff

/-! ## Values -/

/-- What is said of nodes with tags of one's own. -/
def ownTagProblem : String := "untagged and internally tagged enums do not support enum input"

/-- Read a scalar as a value. -/
def scalarValue (tag : Option Bytes) (s : Scalar) : Decode Value := do
  if (ownTag? tag).isSome then misfit ownTagProblem
  match s.resolve tag with
  | .error problem => misfit problem
  | .ok (.large i) =>
    misfit ("invalid type: " ++ (Meaning.large i).describe ++ ", expected any value")
  | .ok m => pure (.scalar m)

/-- Read a member of a mapping as two values and put it in front of others. -/
def memberValues (inner : String → Node → Decode Value) (path : String)
    (members : List (Value × Value)) (key value : Node) : Decode (List (Value × Value)) := do
  let k ← inner path key
  match value with
  | .cut => cutOff
  | _ =>
    let v ← inner (memberPath path key) value
    pure ((k, v) :: members)

/-- Read any node as a value. What it holds is read by `inner`, without which it may hold nothing. -/
def nodeValue (inner : Option (String → Node → Decode Value)) (path : String) (n : Node) :
    Decode Value := do
  let n ← follow n
  let nested (mark : Mark) (tag : Option Bytes)
      (read : (String → Node → Decode Value) → Decode Value) : Decode Value := placed mark path do
    if (ownTag? tag).isSome then misfit ownTagProblem
    match inner with
    | none => throw (.tooDeep mark)
    | some inner => read inner
  match n with
  | .scalar mark tag s => placed mark path (scalarValue tag s)
  | .sequence mark tag ns => nested mark tag fun inner => .sequence <$> items path inner 0 ns
  | .mapping mark tag ns => nested mark tag fun inner =>
    (fun ms => .mapping ms.reverse) <$> members (memberValues inner path) [] ns
  | .alias _ _ | .cut => cutOff

/-- Read any node as a value, with `depth` levels left for collections. -/
def value : (depth : Nat) → String → Node → Decode Value
  | 0 => nodeValue none
  | depth + 1 => nodeValue (some (value depth))

/-! ## Documents -/

/-- Decode the root of a text's document, which must be the only one. Without a document the root is
`none`. -/
def run {α : Type} (doc : Document) (d : Option Node → Decode α) : Except Misfit α := do
  let (a, _) ← d doc.root doc 0
  match doc.fault with
  | some fault => throw (Misfit.document fault)
  | none => if doc.isOnly then pure a else throw Misfit.secondDocument

end Decode

end CommitGate.Yaml
