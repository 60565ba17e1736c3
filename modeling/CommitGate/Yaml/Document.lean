import CommitGate.Yaml.Event

/-! # YAML documents

A document is a tree of nodes. An alias in it points to a node with an anchor, which may be one that
the alias stands in, so aliases are looked up and not replaced.

* `Document.ofText` reads the first document of a text.

Where a text is not YAML the tree is cut off: what comes before can still be decoded, and decoding fails
only when it gets to the cut. So of two faults the first in the text is reported.
-/

namespace CommitGate.Yaml

/-- Why a text holds no single document. -/
inductive Fault where
  | notYaml (fault : SyntaxFault)
  /-- An alias names no anchor before it. -/
  | unknownAnchor (mark : Mark)
deriving DecidableEq, Repr

/-- A node of a document. -/
inductive Node where
  | scalar (mark : Mark) (tag : Option Bytes) (s : Scalar)
  | sequence (mark : Mark) (tag : Option Bytes) (items : List Node)
  /-- Keys and values take turns. -/
  | mapping (mark : Mark) (tag : Option Bytes) (items : List Node)
  /-- The node with the anchor of a number. -/
  | alias (mark : Mark) (anchor : Nat)
  /-- The text stops being YAML here. -/
  | cut
deriving Repr

/-- A document. -/
structure Document where
  /-- The root, if the text holds a document at all. -/
  root : Option Node
  /-- The nodes with anchors, by their numbers. -/
  anchored : List (Nat × Node)
  /-- Why the tree is cut off, if it is. -/
  fault : Option Fault
  /-- How many events the tree is made from. -/
  size : Nat
  /-- Whether the text holds no other document. -/
  isOnly : Bool
deriving Repr

/-! ## Building the tree -/

/-- A collection that is not yet complete. -/
structure Frame where
  /-- The number of events before it. -/
  place : Nat
  mark : Mark
  tag : Option Bytes
  isMapping : Bool
  /-- The items so far, the last one first. -/
  items : List Node
deriving Repr

/-- The node of a complete collection. -/
def Frame.node (f : Frame) : Node :=
  if f.isMapping then .mapping f.mark f.tag f.items.reverse
  else .sequence f.mark f.tag f.items.reverse

/-- A tree that is not yet complete. -/
structure Builder where
  /-- The open collections, innermost first. -/
  stack : List Frame
  root : Option Node
  /-- The number of each anchor's name. -/
  names : List (List Char × Nat)
  /-- Where the node with the anchor of a number stands, the newest first. -/
  places : List (Nat × Nat)
  /-- The complete nodes by the place where they stand. -/
  nodes : List (Nat × Node)
  size : Nat
deriving Repr

namespace Builder

/-- Nothing. -/
def empty : Builder := ⟨[], none, [], [], [], 0⟩

/-- Add a complete node, which stands at a place. -/
def add (b : Builder) (place : Nat) (n : Node) : Builder :=
  let b := { b with nodes := (place, n) :: b.nodes }
  match b.stack with
  | [] => { b with root := some n }
  | f :: stack => { b with stack := { f with items := n :: f.items } :: stack }

/-- Give the next node an anchor. A name that is used again gets a new number. -/
def name (b : Builder) : Option (List Char) → Builder
  | none => b
  | some a =>
    let number := b.names.length
    { b with
      names := (a, number) :: b.names.filter (·.1 ≠ a)
      places := (number, b.size) :: b.places }

/-- Open a collection. -/
def openFrame (b : Builder) (mark : Mark) (p : Properties) (isMapping : Bool) : Builder :=
  let b := b.name p.anchor
  { b with stack := ⟨b.size, mark, p.tag, isMapping, []⟩ :: b.stack }

/-- Close the innermost collection. -/
def closeFrame (b : Builder) : Builder :=
  match b.stack with
  | [] => b
  | f :: stack => { b with stack }.add f.place f.node

/-- What an event does to the tree. -/
def step (b : Builder) (e : Event) : Except Fault Builder := do
  let b ← match e.kind with
    | .alias name =>
      match b.names.find? (·.1 = name) with
      | some (_, number) => pure (b.add b.size (.alias e.mark number))
      | none => throw (.unknownAnchor e.mark)
    | .scalar p s => pure ((b.name p.anchor).add b.size (.scalar e.mark p.tag s))
    | .sequenceStart p => pure (b.openFrame e.mark p false)
    | .mappingStart p => pure (b.openFrame e.mark p true)
    | .sequenceEnd | .mappingEnd => pure b.closeFrame
  pure { b with size := b.size + 1 }

/-- What events do to the tree, up to one that cannot be. -/
def steps (b : Builder) : List Event → Builder × Option Fault
  | [] => (b, none)
  | e :: es =>
    match b.step e with
    | .ok b => b.steps es
    | .error fault => (b, some fault)

/-- Close all open collections with a cut. A tree that is complete stays as it is. -/
def close (b : Builder) : Builder :=
  if b.stack.isEmpty && b.root.isSome then b
  else
    let cut := b.add b.size .cut
    cut.stack.foldl (fun b _ => b.closeFrame) cut

/-- The nodes with anchors. -/
def anchored (b : Builder) : List (Nat × Node) :=
  b.places.filterMap fun (number, place) =>
    (b.nodes.find? (·.1 = place)).map fun (_, n) => (number, n)

end Builder

/-! ## Reading -/

namespace Document

/-- The document of some events. -/
def ofEvents (es : Events) : Document :=
  let (b, fault) := Builder.empty.steps es.events
  let fault := fault.or (es.fault.map .notYaml)
  let whole := if fault.isSome then b.close else b
  { root := whole.root, anchored := whole.anchored, fault, size := b.size, isOnly := es.isOnly }

/-- The first document of a text. -/
def ofText (text : String) : Document :=
  ofEvents (Events.ofTokens (Tokens.ofText text.toList))

/-- The node with the anchor of a number. -/
def target? (d : Document) (anchor : Nat) : Option Node :=
  (d.anchored.find? (·.1 = anchor)).map (·.2)

end Document

end CommitGate.Yaml
