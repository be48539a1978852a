import DartBlock.Yaml.Graph
import DartBlock.Yaml.Token

/-!
# The grammar of YAML

How tokens make up a document. Outside flow collections blocks may be nested, and a node that is
left out stands for nothing. An alias stands for the node with its anchor, which may be one that
is still under way.
-/

namespace DartBlock.Yaml

/-- What is left of the tokens, the nodes so far, those that have an anchor, and the handles of
tags. -/
structure Supply where
  tokens : List Token
  graph : Graph := {}
  anchors : List (String × Ref) := []
  handles : List (String × String) := []

abbrev Parse := StateT Supply (Except Trouble)

namespace Parse

/-- The next token. A break of the rules shows when its place is reached. -/
def peek : Parse Token := do
  match (← get).tokens with
  | .broken t :: _ => throw t
  | t :: _ => return t
  | [] => return .finish

def drop : Parse Unit := modify fun s => { s with tokens := s.tokens.tail }

def accept (t : Token) : Parse Bool := do
  if (← peek) = t then drop; return true else return false

/-- Takes the next token, which has to be the given one. -/
def expect (t : Token) : Parse Unit := do
  unless ← accept t do throw .invalid

def atAny (ts : List Token) : Parse Bool := return ts.contains (← peek)

def tag? : Parse (Option (Option String × String)) := do
  match ← peek with
  | .tag h s => drop; return some (h, s)
  | _ => return none

def anchor? : Parse (Option String) := do
  match ← peek with
  | .anchor name => drop; return some name
  | _ => return none

/-- The name of a tag. -/
def tagName (tag : Option String × String) : Parse String :=
  match tag.1 with
  | none => return tag.2
  | some h => do
    match (← get).handles.lookup h with
    | some stem => return stem ++ tag.2
    | none => throw .invalid

/-- The anchor and the name of the tag of a node, in either order. -/
def labels : Parse (Option String × Option String) := do
  let (anchor, tag) ← match ← anchor? with
    | some a => pure (some a, ← tag?)
    | none => do
      let tag ← tag?
      let anchor ← if tag.isSome then anchor? else pure none
      pure (anchor, tag)
  return (anchor, ← tag.mapM tagName)

def checkFree (anchor : Option String) : Parse Unit := do
  let anchors := (← get).anchors
  if anchor.any fun a => (anchors.lookup a).isSome then throw .invalid

def add (anchor : Option String) (n : Node) : Parse Ref := do
  let s ← get
  let r := s.graph.size
  let anchors := match anchor with
    | some a => (a, r) :: s.anchors
    | none => s.anchors
  set { s with graph := s.graph.add n, anchors }
  return r

def addEmpty : Parse Ref := add none .empty

def fill (r : Ref) (c : Content) : Parse Ref := do
  modify fun s => { s with graph := s.graph.update r fun n => { n with content := c } }
  return r

def collectionTag (tag : Option String) (default : Tag) : Tag :=
  match tag with
  | none | some "!" => default
  | some name => .ofName name

def scalarTag (tag : Option String) (plain : Bool) (text : List Char) : Tag :=
  match tag with
  | none => if plain then .ofText text else .text
  | some "!" => .ofText text
  | some name => .ofName name

/-- Where a node stands: which kinds of collections can begin there. -/
inductive Place
  | flow
  | block
  /-- A key or value of a block, where the entries of a sequence need no indentation. -/
  | member
  deriving DecidableEq

mutual

def node (place : Place) : (fuel : Nat) → Parse Ref
  | 0 => throw .invalid
  | fuel + 1 => do
    if let .alias name ← peek then
      drop
      match (← get).anchors.lookup name with
      | some r => return r
      | none => throw .invalid
    let (anchor, tag) ← labels
    content place anchor tag fuel

def content (place : Place) (anchor tag : Option String) : (fuel : Nat) → Parse Ref
  | 0 => throw .invalid
  | fuel + 1 => do
    let t ← peek
    checkFree anchor
    let sequence : Parse Ref := add anchor ⟨collectionTag tag .sequence, .sequence []⟩
    let mapping : Parse Ref := add anchor ⟨collectionTag tag .mapping, .mapping []⟩
    match t with
    | .scalar text plain =>
      drop
      add anchor ⟨scalarTag tag plain text, .scalar text⟩
    | .flowSequence =>
      drop
      let r ← sequence
      fill r (.sequence (← flowItems true fuel))
    | .flowMapping =>
      drop
      let r ← mapping
      fill r (.mapping (← flowMembers true fuel))
    | t =>
      if t = .entry ∧ place = .member then
        let r ← sequence
        fill r (.sequence (← entries [.entry, .key, .value, .blockEnd] fuel))
      else if t = .blockSequence ∧ place ≠ .flow then
        drop
        let r ← sequence
        let items ← entries [.entry, .blockEnd] fuel
        expect .blockEnd
        fill r (.sequence items)
      else if t = .blockMapping ∧ place ≠ .flow then
        drop
        let r ← mapping
        let members ← members fuel
        expect .blockEnd
        fill r (.mapping members)
      else if anchor.isSome ∨ tag.isSome then
        add anchor ⟨scalarTag tag true [], .scalar []⟩
      else throw .invalid

/-- A node, or the empty one where one of some tokens comes next. -/
def nodeUnless (ends : List Token) (place : Place) : (fuel : Nat) → Parse Ref
  | 0 => throw .invalid
  | fuel + 1 => do
    if ← atAny ends then addEmpty else node place fuel

def entries (ends : List Token) : (fuel : Nat) → Parse (List Ref)
  | 0 => throw .invalid
  | fuel + 1 => do
    unless ← accept .entry do return []
    let r ← nodeUnless ends .block fuel
    return r :: (← entries ends fuel)

def members : (fuel : Nat) → Parse (List (Ref × Ref))
  | 0 => throw .invalid
  | fuel + 1 => do
    unless ← accept .key do return []
    let ends := [.key, .value, .blockEnd]
    let k ← nodeUnless ends .member fuel
    let v ← if ← accept .value then nodeUnless ends .member fuel else addEmpty
    return (k, v) :: (← members fuel)

/-- A key after its mark, and its value, in a flow collection with an end. -/
def flowMember (close : Token) : (fuel : Nat) → Parse (Ref × Ref)
  | 0 => throw .invalid
  | fuel + 1 => do
    let k ← nodeUnless [.value, .comma, close] .flow fuel
    let v ← if ← accept .value then nodeUnless [.comma, close] .flow fuel else addEmpty
    return (k, v)

/-- The items of a flow sequence up to its end. A key with its value is a mapping. -/
def flowItems (first : Bool) : (fuel : Nat) → Parse (List Ref)
  | 0 => throw .invalid
  | fuel + 1 => do
    if ← accept .flowSequenceEnd then return []
    unless first do expect .comma
    if (← peek) = .key then
      let r ← add none ⟨.mapping, .mapping []⟩
      drop
      let r ← fill r (.mapping [← flowMember .flowSequenceEnd fuel])
      return r :: (← flowItems false fuel)
    if ← accept .flowSequenceEnd then return []
    let r ← node .flow fuel
    return r :: (← flowItems false fuel)

def flowMembers (first : Bool) : (fuel : Nat) → Parse (List (Ref × Ref))
  | 0 => throw .invalid
  | fuel + 1 => do
    if ← accept .flowMappingEnd then return []
    unless first do expect .comma
    if ← accept .key then
      let e ← flowMember .flowMappingEnd fuel
      return e :: (← flowMembers false fuel)
    if ← accept .flowMappingEnd then return []
    let k ← node .flow fuel
    let v ← addEmpty
    return (k, v) :: (← flowMembers false fuel)

end

def standardHandles : List (String × String) := [("!", "!"), ("!!", Tag.stem)]

/-- The directives before a document: at most one version, which has to be 1, and handles with
different names. -/
def directives : (fuel : Nat) → (versioned : Bool) → Parse Unit
  | 0, _ => return
  | fuel + 1, versioned => do
    let .directive d ← peek | return
    drop
    match d with
    | .version major =>
      if versioned ∨ major ≠ 1 then throw .invalid
      directives fuel true
    | .handle name stem =>
      if ((← get).handles.lookup name).isSome then throw .invalid
      modify fun s => { s with handles := (name, stem) :: s.handles }
      directives fuel versioned
    | .unknown => directives fuel versioned

def endMarks : (fuel : Nat) → Parse Unit
  | 0 => return
  | fuel + 1 => do if ← accept .documentEnd then endMarks fuel

def document (fuel : Nat) : Parse Ref := do
  let explicit ← match ← peek with
    | .directive _ | .documentStart => do
      directives fuel false
      expect .documentStart
      pure true
    | _ => pure false
  modify fun s => { s with handles := s.handles ++ standardHandles }
  if explicit then
    if let .directive _ ← peek then addEmpty
    else nodeUnless [.documentStart, .documentEnd, .finish] .block fuel
  else node .block fuel

/-- The only document of a text, if there is one. Another one is refused at its start, after its
directives. -/
def single (fuel : Nat) : Parse (Option Ref) := do
  let root ← if (← peek) = .finish then pure none else some <$> document fuel
  endMarks fuel
  if (← peek) ≠ .finish then
    modify fun s => { s with handles := [] }
    directives fuel false
    let _ ← peek
    throw .invalid
  return root

end Parse

/-- The graph that tokens describe and its root, if there is a document. -/
def Graph.ofTokens (tokens : List Token) : Except Trouble (Option Ref × Graph) := do
  let (root, s) ← (Parse.single (4 * tokens.length + 4)).run { tokens }
  return (root, s.graph)

end DartBlock.Yaml
