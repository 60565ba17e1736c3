import CommitGate.Repository.Revision

/-! # Searching a repository

* `Repository` is what a repository holds: objects, references, and what its head is.
* `Repository.locate` finds the object of a revision.
* `Trail` is what a search leaves behind whether it succeeds or not: complaints, and the ids of the objects
  that it has looked at.

Scope limit: a repository keeps no logs of its references and does not know where branches come from.
-/

namespace CommitGate

namespace Repository

/-- What the head of a repository is: a reference, or an object. -/
inductive Head where
  | reference (name : String)
  | detached (id : ObjectId)
deriving DecidableEq, Repr

/-! ## Complaints -/

/-- What a search has to say about objects and names. -/
inductive Complaint where
  | bogusCommit (id : ObjectId)
  | badTree (id : ObjectId)
  | badParents (id : ObjectId)
  /-- The tree of a commit is known to be no tree. -/
  | wrongTree (tree id : ObjectId)
  /-- A parent of a commit is known to be no commit. -/
  | wrongParent (parent id : ObjectId)
  /-- An object is of another kind than what has been found before says. -/
  | wrongKind (id : ObjectId) (is wanted : Kind)
  | unreadable (id : ObjectId)
  | noCommit (id : ObjectId)
  /-- Unwrapping ends with an object of another kind. -/
  | deadEnd (text : List Char) (wanted is : Kind)
  /-- A name stands for several things. -/
  | ambiguous (name : List Char)
  | noLog (reference : String)
deriving DecidableEq, Repr

/-- The text of a complaint. -/
def Complaint.message : Complaint → String
  | bogusCommit id => "error: bogus commit object " ++ id
  | badTree id => "error: bad tree pointer in commit " ++ id
  | badParents id => "error: bad parents in commit " ++ id
  | wrongTree tree id => "error: bad tree pointer " ++ tree ++ " in commit " ++ id
  | wrongParent parent id => "error: bad parent " ++ parent ++ " in commit " ++ id
  | wrongKind id is wanted => s!"error: object {id} is a {is.name}, not a {wanted.name}"
  | unreadable id => "error: Could not read " ++ id
  | noCommit id => s!"error: Object {id} not a commit"
  | deadEnd text wanted is =>
    "error: " ++ String.ofList text ++ ": expected " ++ wanted.name
      ++ " type, but the object dereferences to " ++ is.name ++ " type"
  | ambiguous name => "warning: refname '" ++ String.ofList name ++ "' is ambiguous."
  | noLog reference => s!"fatal: log for {reference} is empty"

/-! ## Trails -/

/-- What a search leaves behind. -/
structure Trail where
  complaints : List Complaint
  /-- The objects that were looked at, whether they are there or not. -/
  sought : List ObjectId
  /-- The kinds that objects have, or that others say they have. -/
  kinds : List (ObjectId × Kind)
  /-- Whether the search was given up rather than ended. -/
  givenUp : Bool
deriving DecidableEq, Repr

/-- The trail of a search that has not begun. -/
def Trail.empty : Trail := ⟨[], [], [], false⟩

/-- A search, which may fail and leaves a trail. -/
abbrev Search := OptionT (StateM Trail)

namespace Search

/-- Note a complaint. -/
def complain (c : Complaint) : Search Unit :=
  modify fun t => { t with complaints := t.complaints ++ [c] }

/-- Note a complaint and fail. -/
def refuse {α : Type} (c : Complaint) : Search α := do
  complain c
  failure

/-- Give the search up, with a complaint unless it is to be quiet. -/
def giveUp {α : Type} (quiet : Bool) (c : Complaint) : Search α := do
  if !quiet then complain c
  modify fun t => { t with givenUp := true }
  failure

/-- Whether an object can be of a kind by what has been found so far. If it can, that is noted. -/
def takeAs (id : ObjectId) (kind : Kind) : Search Bool := do
  let t ← get
  match t.kinds.find? fun k => k.1 == id with
  | some (_, known) =>
    if known = kind then pure true
    else
      complain (.wrongKind id known kind)
      pure false
  | none =>
    set { t with kinds := (id, kind) :: t.kinds }
    pure true

end Search

end Repository

/-- What a repository holds. -/
structure Repository where
  /-- Objects by their ids. -/
  objects : List (Repository.ObjectId × Repository.StoredObject)
  /-- The ids that references stand for, by the full names of the references. -/
  references : List (String × Repository.ObjectId)
  head : Repository.Head
deriving DecidableEq, Repr

namespace Repository

/-! ## Objects -/

/-- The object of an id. -/
def object? (r : Repository) (id : ObjectId) : Option StoredObject :=
  if id = StoredObject.emptyTree.id then some .emptyTree
  else (r.objects.find? fun o => o.1 == id).map Prod.snd

/-- Look for an object. -/
def look (r : Repository) (id : ObjectId) : Search (Option StoredObject) := do
  modify fun t => { t with sought := id :: t.sought }
  pure (r.object? id)

/-- Note what a commit says about the kinds of others, up to where it can be read. -/
def noteKinds (id : ObjectId) (p : Pedigree) : Search Unit := do
  if !(← Search.takeAs p.tree .tree) then Search.refuse (.wrongTree p.tree id)
  p.parents.forM fun parent => do
    if !(← Search.takeAs parent .commit) then Search.refuse (.wrongParent parent id)
  if !p.isComplete then Search.refuse (.badParents id)

/-- Read the beginning of a commit. -/
def pedigree (id : ObjectId) (content : Bytes) : Search Pedigree := do
  match Pedigree.read content with
  | .error .noTree => Search.refuse (.bogusCommit id)
  | .error .badTree => Search.refuse (.badTree id)
  | .ok p =>
    noteKinds id p
    pure p

/-- An object that has been read. -/
inductive Read where
  | commit (p : Pedigree)
  | tree
  | blob
  | tag (target : ObjectId)
deriving DecidableEq, Repr

/-- The kind of an object that has been read. -/
def Read.kind : Read → Kind
  | commit _ => .commit
  | tree => .tree
  | blob => .blob
  | tag _ => .tag

/-- Read the object of an id. -/
def parse (r : Repository) (id : ObjectId) : Search Read := do
  match ← r.look id with
  | none => failure
  | some o =>
    if !(← Search.takeAs id o.kind) then failure
    match o.kind with
    | .commit => return .commit (← pedigree id o.content)
    | .tree => return .tree
    | .blob => return .blob
    | .tag =>
      match tagTarget? o.content with
      | some target => return .tag target
      | none => failure

/-- The longest chain of tags that is followed. -/
def maxTags : Nat := 64

/-- Follow tags to what is no tag. -/
def untag (r : Repository) : Nat → ObjectId → Search (ObjectId × Read)
  | 0, _ => failure
  | n + 1, id => do
    match ← r.parse id with
    | .tag target => r.untag n target
    | o => return (id, o)

/-- The commit that an object is or a tag points to. -/
def commitOf (r : Repository) (id : ObjectId) : Search (ObjectId × Pedigree) := do
  match ← r.untag maxTags id with
  | (id, .commit p) => return (id, p)
  | (id, o) => Search.refuse (.wrongKind id o.kind .commit)

/-! ## Names -/

/-- What a short id is expected to be, which decides between several objects. -/
inductive Hint where
  | anything
  | commit
  | tree
deriving DecidableEq, Repr

/-- Whether an object may be what is expected. -/
def suits (r : Repository) (hint : Hint) (id : ObjectId) : Bool :=
  match hint, (r.object? id).map StoredObject.kind with
  | .anything, _ => true
  | .commit, k => k == some .commit || k == some .tag
  | .tree, k => k == some .commit || k == some .tag || k == some .tree

/-- The fewest digits of a short id. -/
def minShort : Nat := 4

/-- The object whose id begins with some digits, if there is only one that may be meant. -/
def shortId? (r : Repository) (hint : Hint) (s : List Char) : Option ObjectId :=
  if s.length < minShort || idLength < s.length || !s.all fun c => (Hex.value? c).isSome then none
  else
    let digits := s.map Char.toLower
    let found := ((r.objects.map Prod.fst).filter fun id => digits.isPrefixOf id.toList).eraseDups
    match found with
    | [id] => some id
    | found =>
      match hint, found.filter (r.suits hint) with
      | .anything, _ => none
      | _, [id] => some id
      | _, _ => none

/-- The object that a full reference name stands for. -/
def reference? (r : Repository) (name : String) : Option ObjectId :=
  let named (n : String) : Option ObjectId := (r.references.find? fun x => x.1 == n).map Prod.snd
  if name = "HEAD" then
    match r.head with
    | .reference n => named n
    | .detached id => some id
  else named name

/-- The full names that a name may be short for, in the order in which they are tried. -/
def fullNames (name : String) : List String :=
  [name, "refs/" ++ name, "refs/tags/" ++ name, "refs/heads/" ++ name, "refs/remotes/" ++ name,
    "refs/remotes/" ++ name ++ "/HEAD"]

/-- The objects of the references that a name may be short for. A lone `@` is the head. -/
def referred (r : Repository) (name : List Char) : List ObjectId :=
  let name := if name = ['@'] then "HEAD" else String.ofList name
  (fullNames name).filterMap r.reference?

/-- The number of the log's entry that a text names: digits after `@` in braces. -/
def logEntry? : List Char → Option Nat
  | '@' :: '\x7b' :: s =>
    if s.getLast? = some '\x7d' then Decimal.value? s.dropLast else none
  | _ => none

/-- The name of the reference that the head is. -/
def headName (r : Repository) : String :=
  match r.head with
  | .reference n => n
  | .detached _ => "HEAD"

/-- The head as its log knows it. Without a log only the newest entry is known. -/
def logged (r : Repository) (quiet : Bool) (entry : Nat) : Search ObjectId :=
  match r.reference? "HEAD" with
  | none => failure
  | some id => if entry = 0 then pure id else Search.giveUp quiet (.noLog r.headName)

/-- What follows the last `-g` that is not at the beginning, if only digits of an id are behind it. -/
def described? (s : List Char) : Option (List Char) :=
  let backwards := s.reverse
  match backwards.dropWhile fun c => (Hex.value? c).isSome with
  | 'g' :: '-' :: _ :: _ => some (backwards.takeWhile fun c => (Hex.value? c).isSome).reverse
  | _ => none

/-- The object that a name stands for: an id, a reference, a description or the beginning of an id. -/
def named (r : Repository) (quiet : Bool) (hint : Hint) (name : List Char) : Search ObjectId := do
  match idOfText? name, logEntry? name, r.referred name with
  | some id, _, _ => pure id
  | none, some entry, _ => r.logged quiet entry
  | none, none, id :: others =>
    if !quiet && (!others.isEmpty || (r.shortId? .anything name).isSome) then
      Search.complain (.ambiguous name)
    pure id
  | none, none, [] =>
    match ((described? name).bind (r.shortId? .commit)).or (r.shortId? hint name) with
    | some id => pure id
    | none => failure

/-! ## Steps -/

/-- Go up the line of first parents. The commit itself has been read. -/
def climb (r : Repository) : Nat → ObjectId → Pedigree → Search ObjectId
  | 0, id, _ => pure id
  | n + 1, _, p =>
    match p.parents with
    | [] => failure
    | parent :: _ =>
      if n = 0 then pure parent
      else do
        match ← r.look parent with
        | none => Search.refuse (.unreadable parent)
        | some ⟨.commit, content⟩ => r.climb n parent (← pedigree parent content)
        | some _ => Search.refuse (.noCommit parent)

/-- Unwrap an object that has been read. A commit holds its tree. -/
def unwrapTo (r : Repository) (wanted : Kind) (text : List Char) : Nat → ObjectId → Read → Search ObjectId
  | 0, _, _ => failure
  | n + 1, id, o => do
    if o.kind = wanted then return id
    match o with
    | .commit p => r.unwrapTo wanted text n p.tree (← r.parse p.tree)
    | .tag target => r.unwrapTo wanted text n target (← r.parse target)
    | .tree | .blob => Search.refuse (.deadEnd text wanted o.kind)

/-- Unwrap an object. -/
def unwrap (r : Repository) (target : Target) (text : List Char) (id : ObjectId) : Search ObjectId := do
  let o ← r.parse id
  match target with
  | .anything => pure id
  | .untagged => return (← r.untag maxTags id).1
  | .kind wanted => r.unwrapTo wanted text (maxTags + 2) id o

/-- What is expected of an object that is unwrapped. -/
def Target.hint : Target → Hint
  | .kind .commit => .commit
  | .kind .tree => .tree
  | _ => .anything

/-- Find the object of a revision. What a step starts from is not searched for quietly. -/
def locate (r : Repository) (quiet : Bool) (hint : Hint) : Revision → Search ObjectId
  | .named name => r.named quiet hint name
  | .parent of number => do
    let (id, p) ← r.commitOf (← r.locate false .commit of)
    if number = 0 then pure id
    else
      match p.parents[number - 1]? with
      | some parent => pure parent
      | none => failure
  | .ancestor of generations => do
    let (id, p) ← r.commitOf (← r.locate false .commit of)
    r.climb generations id p
  | .unwrapped of target text => do
    let id ← r.locate quiet target.hint of
    r.unwrap target text id

end Repository

end CommitGate
