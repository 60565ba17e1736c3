import CommitGate.Yaml.Lexer

/-! # YAML events

Events tell how a document is built: collections start and end, and scalars and aliases stand in them.

* `Events.ofTokens` is the list of events of the first document.

The grammar is a machine whose state says what may come next, with a stack of what comes after that.
Where a value is missing, an empty scalar stands for it.
-/

namespace CommitGate.Yaml

/-- What may be said about a node in front of it. -/
structure Properties where
  anchor : Option (List Char)
  tag : Option Bytes
deriving DecidableEq, Repr

/-- What an event tells. -/
inductive EventKind where
  | alias (name : List Char)
  | scalar (properties : Properties) (s : Scalar)
  | sequenceStart (properties : Properties)
  | sequenceEnd
  | mappingStart (properties : Properties)
  | mappingEnd
deriving DecidableEq, Repr

/-- An event with the mark where it starts. -/
structure Event where
  kind : EventKind
  mark : Mark
deriving DecidableEq, Repr

/-- What may come next. -/
inductive Expect where
  /-- The first item of a block sequence, or a later one. -/
  | blockItem (first : Bool)
  /-- An item of a block sequence that is not indented. -/
  | looseItem
  /-- The first key of a block mapping, or a later one. -/
  | blockKey (first : Bool)
  | blockValue
  /-- The first item of a flow sequence, or a later one. -/
  | flowItem (first : Bool)
  /-- The key of a mapping with one member within a flow sequence; its value; its end. -/
  | pairKey
  | pairValue
  | pairEnd
  /-- The first key of a flow mapping, or a later one. -/
  | flowKey (first : Bool)
  | flowValue
  /-- The value of a key without a colon. -/
  | flowNoValue
deriving DecidableEq, Repr

/-- The state of the grammar. -/
structure Grammar where
  tokens : List Token
  /-- What comes after the node that is being read, innermost first. -/
  stack : List Expect
  /-- Where the open collections start, innermost first. -/
  marks : List Mark
  /-- What the handles of tags stand for. -/
  handles : List (Bytes × Bytes)
deriving DecidableEq, Repr

/-- A step of the grammar. It fails with a fault, or with none where the tokens end. -/
abbrev Parse (α : Type) := StateT Grammar (Except (Option SyntaxFault)) α

namespace Parse

/-- The next token. -/
def peek : Parse Token := do
  match (← get).tokens with
  | t :: _ => pure t
  | [] => throw none

/-- Pass over the next token. -/
def skip : Parse Unit := modify fun g => { g with tokens := g.tokens.drop 1 }

/-- What comes after the node that is read next. -/
def push (e : Expect) : Parse Unit := modify fun g => { g with stack := e :: g.stack }

/-- Note where a collection starts. -/
def pushMark (m : Mark) : Parse Unit := modify fun g => { g with marks := m :: g.marks }

/-- Forget where the innermost collection starts. -/
def popMark : Parse Unit := modify fun g => { g with marks := g.marks.drop 1 }

/-- Fail with a fault. -/
def fail {α : Type} (fault : SyntaxFault) : Parse α := throw (some fault)

/-- Fail at the next token, within the innermost collection. -/
def failWithin {α : Type} (context problem : String) : Parse α := do
  let t ← peek
  fail (.within context ((← get).marks.headD .start) problem t.start)

/-- The empty scalar, which stands for a missing value. -/
def empty (mark : Mark) : Event := ⟨.scalar ⟨none, none⟩ ⟨[], true⟩, mark⟩

/-! ## Nodes -/

/-- The tag that a handle and a suffix make. -/
def resolveTag (origin mark : Mark) (handle suffix : Bytes) : Parse Bytes := do
  if handle.isEmpty then pure suffix
  else
    match (← get).handles.find? (·.1 == handle) with
    | some (_, start) => pure (start ++ suffix)
    | none => fail (.within "while parsing a node" origin "found undefined tag handle" mark)

/-- An anchor, if one comes next. -/
def anchor? : Parse (Option (List Char)) := do
  match (← peek).kind with
  | .anchor name =>
    skip
    pure (some name)
  | _ => pure none

/-- A tag, if one comes next, with its mark. -/
def tag? : Parse (Option (Bytes × Bytes × Mark)) := do
  let t ← peek
  match t.kind with
  | .tag handle suffix =>
    skip
    pure (some (handle, suffix, t.start))
  | _ => pure none

/-- What is said about the node that comes next. -/
def properties (origin : Mark) : Parse Properties := do
  let early ← anchor?
  let tag ← tag?
  let late ← if early.isNone && tag.isSome then anchor? else pure none
  let tag ← tag.mapM fun (handle, suffix, mark) => resolveTag origin mark handle suffix
  pure ⟨early.or late, tag⟩

/-- A node: an alias, a scalar or the start of a collection. With `block` it may be a block, with
`loose` a block sequence that is not indented. -/
def node (block loose : Bool) : Parse Event := do
  let first ← peek
  match first.kind with
  | .alias name =>
    skip
    pure ⟨.alias name, first.start⟩
  | _ =>
    let origin := first.start
    let p ← properties origin
    let t ← peek
    let start (kind : EventKind) (next : Expect) : Parse Event := do
      push next
      pure ⟨kind, origin⟩
    match t.kind with
    | .blockEntry =>
      if loose then start (.sequenceStart p) .looseItem else missing p origin
    | .scalar s =>
      skip
      let tag := if p.tag = some [0x21] then none else p.tag
      let isPlain := s.isPlain
      pure ⟨.scalar { p with tag } ⟨s.text, isPlain⟩, origin⟩
    | .flowSequenceStart => start (.sequenceStart p) (.flowItem true)
    | .flowMappingStart => start (.mappingStart p) (.flowKey true)
    | .blockSequenceStart =>
      if block then start (.sequenceStart p) (.blockItem true) else missing p origin
    | .blockMappingStart =>
      if block then start (.mappingStart p) (.blockKey true) else missing p origin
    | _ => missing p origin
where
  /-- A node without content, which must be said something about. -/
  missing (p : Properties) (origin : Mark) : Parse Event := do
    if p.anchor.isSome || p.tag.isSome then pure ⟨.scalar p ⟨[], true⟩, origin⟩
    else
      let context := if block then "while parsing a block node" else "while parsing a flow node"
      fail (.within context origin "did not find expected node content" (← peek).start)

/-! ## Collections -/

/-- A node unless one of `kinds` comes next; then an empty scalar at `mark`. -/
def nodeUnless (kinds : List TokenKind) (mark : Mark) (block loose : Bool) : Parse Event := do
  if (← peek).kind ∈ kinds then pure (empty mark) else node block loose

/-- The next item of a block sequence, or its end. -/
def blockItem (first : Bool) : Parse Event := do
  if first then
    pushMark (← peek).start
    skip
  let t ← peek
  match t.kind with
  | .blockEntry =>
    skip
    push (.blockItem false)
    nodeUnless [.blockEntry, .blockEnd] t.stop true false
  | .blockEnd =>
    skip
    popMark
    pure ⟨.sequenceEnd, t.start⟩
  | _ => failWithin "while parsing a block collection" "did not find expected '-' indicator"

/-- The next item of a block sequence that is not indented, or its end. -/
def looseItem : Parse Event := do
  let t ← peek
  match t.kind with
  | .blockEntry =>
    skip
    push .looseItem
    nodeUnless [.blockEntry, .key, .value, .blockEnd] t.stop true false
  | _ => pure ⟨.sequenceEnd, t.start⟩

/-- The next key of a block mapping, or its end. -/
def blockKey (first : Bool) : Parse Event := do
  if first then
    pushMark (← peek).start
    skip
  let t ← peek
  match t.kind with
  | .key =>
    skip
    push .blockValue
    nodeUnless [.key, .value, .blockEnd] t.stop true true
  | .blockEnd =>
    skip
    popMark
    pure ⟨.mappingEnd, t.start⟩
  | _ => failWithin "while parsing a block mapping" "did not find expected key"

/-- The value of a key in a block mapping. -/
def blockValue : Parse Event := do
  let t ← peek
  push (.blockKey false)
  match t.kind with
  | .value =>
    skip
    nodeUnless [.key, .value, .blockEnd] t.stop true true
  | _ => pure (empty t.start)

/-- Pass over what separates a later item of a flow collection from the one before. -/
def separator (first : Bool) (stop : TokenKind) (context problem : String) : Parse Unit := do
  if first then
    pushMark (← peek).start
    skip
  else if (← peek).kind ≠ stop then
    if (← peek).kind = .flowEntry then skip else failWithin context problem

/-- The end of a flow collection. -/
def flowEnd (kind : EventKind) : Parse Event := do
  let t ← peek
  skip
  popMark
  pure ⟨kind, t.start⟩

/-- The next item of a flow sequence, or its end. -/
def flowItem (first : Bool) : Parse Event := do
  separator first .flowSequenceEnd "while parsing a flow sequence" "did not find expected ',' or ']'"
  let t ← peek
  match t.kind with
  | .key =>
    skip
    push (.flowItem false)
    push .pairKey
    pure ⟨.mappingStart ⟨none, none⟩, t.start⟩
  | .flowSequenceEnd => flowEnd .sequenceEnd
  | _ =>
    push (.flowItem false)
    node false false

/-- The key of a mapping with one member within a flow sequence. -/
def pairKey : Parse Event := do
  let t ← peek
  push .pairValue
  if t.kind ∈ [.value, .flowEntry, .flowSequenceEnd] then
    skip
    pure (empty t.stop)
  else node false false

/-- The value of a mapping with one member within a flow sequence. -/
def pairValue : Parse Event := do
  let t ← peek
  push .pairEnd
  match t.kind with
  | .value =>
    skip
    nodeUnless [.flowEntry, .flowSequenceEnd] (← peek).start false false
  | _ => pure (empty t.start)

/-- The next key of a flow mapping, or its end. -/
def flowKey (first : Bool) : Parse Event := do
  separator first .flowMappingEnd "while parsing a flow mapping" "did not find expected ',' or '\x7d'"
  let t ← peek
  match t.kind with
  | .key =>
    skip
    push .flowValue
    nodeUnless [.value, .flowEntry, .flowMappingEnd] (← peek).start false false
  | .flowMappingEnd => flowEnd .mappingEnd
  | _ =>
    push .flowNoValue
    node false false

/-- The value of a key in a flow mapping. -/
def flowValue : Parse Event := do
  let t ← peek
  push (.flowKey false)
  match t.kind with
  | .value =>
    skip
    nodeUnless [.flowEntry, .flowMappingEnd] (← peek).start false false
  | _ => pure (empty t.start)

/-- The next event, or none at the end of the document. -/
def step : Parse (Option Event) := do
  let g ← get
  match g.stack with
  | [] => pure none
  | e :: stack =>
    set { g with stack }
    match e with
    | .blockItem first => some <$> blockItem first
    | .looseItem => some <$> looseItem
    | .blockKey first => some <$> blockKey first
    | .blockValue => some <$> blockValue
    | .flowItem first => some <$> flowItem first
    | .pairKey => some <$> pairKey
    | .pairValue => some <$> pairValue
    | .pairEnd => return some ⟨.mappingEnd, (← peek).start⟩
    | .flowKey first => some <$> flowKey first
    | .flowValue => some <$> flowValue
    | .flowNoValue =>
      push (.flowKey false)
      return some (empty (← peek).start)

/-! ## Documents -/

/-- The handles that every document knows. -/
def standardHandles : List (Bytes × Bytes) :=
  [([0x21], [0x21]), ([0x21, 0x21], Bytes.ofAscii "tag:yaml.org,2002:")]

/-- Read directives. -/
def directives : (fuel : Nat) → (hasVersion : Bool) → Parse Unit
  | 0, _ => pure ()
  | fuel + 1, hasVersion => do
    let t ← peek
    match t.kind with
    | .version major minor =>
      if hasVersion then fail (.plain "found duplicate %YAML directive" t.start)
      if major ≠ 1 || (minor ≠ 1 && minor ≠ 2) then
        fail (.plain "found incompatible YAML document" t.start)
      skip
      directives fuel true
    | .tagDirective handle start =>
      if (← get).handles.any (·.1 == handle) then
        fail (.plain "found duplicate %TAG directive" t.start)
      modify fun g => { g with handles := g.handles ++ [(handle, start)] }
      skip
      directives fuel hasVersion
    | _ => pure ()

/-- The start of the first document and its root, or none if the text holds no document. -/
def root : Parse (Option Event) := do
  skip
  let t ← peek
  match t.kind with
  | .streamEnd => pure none
  | .version _ _ | .tagDirective _ _ | .documentStart =>
    directives (← get).tokens.length false
    modify fun g => { g with
      handles := g.handles
        ++ standardHandles.filter fun h => !g.handles.any (·.1 == h.1) }
    let t ← peek
    if t.kind ≠ .documentStart then fail (.plain "did not find expected <document start>" t.start)
    skip
    let t ← peek
    match t.kind with
    | .version _ _ | .tagDirective _ _ | .documentStart | .documentEnd | .streamEnd =>
      return some (empty t.start)
    | _ => some <$> node true false
  | _ =>
    modify fun g => { g with handles := standardHandles }
    some <$> node true false

/-- Whether nothing but ends of documents comes next. -/
def isLast (tokens : List Token) : Bool :=
  (tokens.dropWhile (·.kind = .documentEnd)).head?.any (·.kind = .streamEnd)

end Parse

/-- The events of the first document. -/
structure Events where
  events : List Event
  /-- What ends the events before the document does. -/
  fault : Option SyntaxFault
  /-- Whether the text holds no other document. -/
  isOnly : Bool
deriving DecidableEq, Repr

namespace Events

/-- Put an event in front. -/
def cons (e : Event) (es : Events) : Events := { es with events := e :: es.events }

/-- Read the events after the root. Where tokens end, `fault` says why. -/
def run (fault : Option SyntaxFault) : (fuel : Nat) → Grammar → Events
  | 0, _ => ⟨[], fault, false⟩
  | fuel + 1, g =>
    match Parse.step g with
    | .error own => ⟨[], own.or fault, false⟩
    | .ok (some e, g) => cons e (run fault fuel g)
    | .ok (none, g) =>
      -- the end of a document is certain once the token after it is
      if g.tokens.isEmpty then ⟨[], fault, false⟩ else ⟨[], none, Parse.isLast g.tokens⟩

/-- The events of the first document. -/
def ofTokens (ts : Tokens) : Events :=
  match Parse.root ⟨ts.tokens, [], [], []⟩ with
  | .error own => ⟨[], own.or ts.fault, false⟩
  | .ok (none, _) => ⟨[], none, true⟩
  | .ok (some e, g) => cons e (run ts.fault (4 * ts.tokens.length + 4) g)

end Events

end CommitGate.Yaml
