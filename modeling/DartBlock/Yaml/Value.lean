import DartBlock.Yaml.Literal
import DartBlock.Yaml.Graph.Grammar
import DartBlock.Yaml.Token.Lexer

/-!
# Reading YAML

The value that a document describes. The values of the nodes are made level by level, the parts
of a collection after the collection itself; so of several troubles the one on the highest level
counts, and among those the first. A node has one value, however many others it is a part of.
Merging the entries of other mappings into a mapping changes its node, and so does taking the mark
of a value as a key; both show wherever the node is a part.
-/

namespace DartBlock.Yaml

/-- The value of a node, the parts of collections given by their numbers. -/
inductive Outline
  | plain (value : Datum)
  | list (items : List Ref)
  | pairs (entries : List (Ref × Ref))
  | set (keys : List Datum)
  | mapping (entries : List (Datum × Ref))
  deriving Repr

/-- What has been made of a graph: the outlines of its nodes by their numbers, and the collections
in the order in which they were met. -/
structure Work where
  graph : Graph
  outlines : Array (Option Outline)
  met : Array Ref := #[]

abbrev Make := StateT Work (Except Trouble)

namespace Make

def node (r : Ref) : Make Node := return (← get).graph.node r

def alter (f : Graph → Graph) : Make Unit := modify fun w => { w with graph := f w.graph }

def outline (r : Ref) (o : Outline) : Make Unit :=
  modify fun w => { w with outlines := w.outlines.setIfInBounds r (some o) }

/-! ## Scalars -/

/-- The text of a scalar, or of the value that stands for a mapping. -/
def text (g : Graph) : (fuel : Nat) → Ref → Except Trouble (List Char)
  | 0, _ => .error .endless
  | fuel + 1, r =>
    match (g.node r).content with
    | .scalar cs => .ok cs
    | .sequence _ => .error .invalid
    | .mapping entries =>
      match entries.find? fun e => (g.node e.1).tag = .value with
      | some e => text g fuel e.2
      | none => .error .invalid

def scalarValue (tag : Tag) (cs : List Char) : Except Trouble Datum :=
  match tag with
  | .null => .ok .null
  | .bool => (Literal.truth cs).map .bool
  | .int => (Literal.int cs).map .int
  | .float => (Literal.float cs).map .float
  | .bytes => (Literal.bytes cs).map .bytes
  | .moment => (Literal.moment cs).map .moment
  | .text => .ok (.text (String.ofList cs))
  | _ => .error .invalid

def plainValue (g : Graph) (r : Ref) : Except Trouble Datum := do
  let n := g.node r
  if [Tag.merge, .value, .unknown].contains n.tag then throw .invalid
  let cs ← text g g.size.succ r
  if n.tag = .moment ∧ g.isMapping r then throw .mappedMoment
  scalarValue n.tag cs

/-- Sees to it that a node has a value; a collection is filled later. -/
def meet (r : Ref) : Make Unit := do
  if ((← get).outlines.getD r none).isSome then return
  if (← node r).isCollection then
    outline r (.list [])
    modify fun w => { w with met := w.met.push r }
  else outline r (.plain (← plainValue (← get).graph r))

/-! ## Merging -/

def alterEntries (r : Ref) (f : List (Ref × Ref) → List (Ref × Ref)) : Make Unit := do
  let es := f ((← get).graph.entries r)
  alter fun g => g.update r fun n => { n with content := .mapping es }

/-- The entries of a mapping after `visit` has seen to those merged into it. -/
def mergedEntries (visit : Ref → Make Unit) (r : Ref) : Make (List (Ref × Ref)) := do
  unless (← get).graph.isMapping r do throw .invalid
  visit r
  return (← get).graph.entries r

/-- What the value of a merge key brings in. Of several mappings in a sequence the last comes
first. -/
def broughtIn (visit : Ref → Make Unit) (r : Ref) : Make (List (Ref × Ref)) := do
  match (← node r).content with
  | .sequence items => return (← items.mapM (mergedEntries visit)).reverse.flatten
  | _ => mergedEntries visit r

/-- Goes through at most `left` entries of a mapping, takes out the merge keys and returns what
they bring in. The mark of a value becomes a text. -/
def gather (visit : Ref → Make Unit) (r : Ref) : (left i : Nat) → Make (List (Ref × Ref))
  | 0, _ => return []
  | left + 1, i => do
    match ((← get).graph.entries r)[i]? with
    | none => return []
    | some (k, v) =>
      match (← node k).tag with
      | .merge =>
        alterEntries r (·.eraseIdx i)
        let es ← broughtIn visit v
        return es ++ (← gather visit r left i)
      | .value =>
        alter fun g => g.update k fun n => { n with tag := .text }
        gather visit r left (i + 1)
      | _ => gather visit r left (i + 1)

/-- Puts the entries that merge keys bring in before the other entries of a mapping. The fuel is
more than the number of merge keys. -/
def merge : (fuel : Nat) → Ref → Make Unit
  | 0, _ => return
  | fuel + 1, r => do
    let es ← gather (merge fuel) r ((← get).graph.entries r).length 0
    alterEntries r (es ++ ·)

/-! ## Collections -/

/-- The value of a node that is a key. No collection can be one. -/
def key (r : Ref) : Make Datum := do
  meet r
  match (← get).outlines.getD r none with
  | some (.plain k) => return k
  | _ => throw .invalid

/-- The entries of a mapping, after merging. Of equal keys the last value counts. -/
def members (r : Ref) : Make (List (Datum × Ref)) := do
  let g := (← get).graph
  unless g.isMapping r do throw .invalid
  merge (g.nodes.foldl (fun n m => match m.content with
    | .mapping es => n + es.length
    | _ => n) 1) r
  ((← get).graph.entries r).foldlM (fun done (k, v) => do
    let k ← key k
    meet v
    return Datum.putEntry k v done) []

def onlyEntry (r : Ref) : Make (Ref × Ref) := do
  let [(k, v)] := (← get).graph.entries r | throw .invalid
  meet k
  meet v
  return (k, v)

def items (r : Ref) : Make (List Ref) := do
  let .sequence rs := (← node r).content | throw .invalid
  return rs

def complete (r : Ref) : Make Unit := do
  match (← node r).tag with
  | .sequence => do
    let rs ← items r
    rs.forM meet
    outline r (.list rs)
  | .pairs => outline r (.pairs (← (← items r).mapM onlyEntry))
  | .set => outline r (.set ((← members r).map (·.1)))
  | _ => outline r (.mapping (← members r))

/-- Fills the collections from the `i`-th on that has been met. -/
def completeFrom : (fuel i : Nat) → Make Unit
  | 0, _ => return
  | fuel + 1, i => do
    match (← get).met[i]? with
    | none => return
    | some r =>
      complete r
      completeFrom fuel (i + 1)

end Make

/-! ## Values -/

def Graph.outlines (g : Graph) (root : Ref) : Except Trouble (Array (Option Outline)) := do
  let work := do
    Make.meet root
    Make.completeFrom g.size 0
  let (_, w) ← work.run { graph := g, outlines := Array.replicate g.size none }
  return w.outlines

namespace Outline

/-- The value of a node, where the values of some nodes are known; they are kept. -/
def value (outlines : Array (Option Outline)) :
    (fuel : Nat) → Ref → StateM (Array (Option Datum)) Datum
  | 0, _ => return .null
  | fuel + 1, r => do
    if let some x := (← get).getD r none then return x
    let isMapping := match outlines.getD r none with
      | some (.mapping _) => true
      | _ => false
    modify (·.setIfInBounds r (some (.recurring isMapping)))
    let x ← match outlines.getD r none with
      | none => pure .null
      | some (.plain x) => pure x
      | some (.list rs) => .list <$> rs.mapM (value outlines fuel)
      | some (.pairs es) =>
        .list <$> es.mapM fun (k, v) => do
          return .list [← value outlines fuel k, ← value outlines fuel v]
      | some (.set ks) => pure (.set ks)
      | some (.mapping es) =>
        .mapping <$> es.mapM fun (k, v) => do return (k, ← value outlines fuel v)
    modify (·.setIfInBounds r (some x))
    return x

end Outline

/-- The value of the document in a text; a text without a document is nothing. -/
def read (s : Source) : Except Trouble Datum := do
  let (root, g) ← Graph.ofTokens (Token.ofSource s)
  match root with
  | none => return .null
  | some root =>
    let outlines ← g.outlines root
    return ((Outline.value outlines g.size.succ root).run (Array.replicate g.size none)).1

end DartBlock.Yaml
