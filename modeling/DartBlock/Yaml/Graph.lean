import DartBlock.Yaml.Plain

/-!
# Graphs of YAML

The nodes that a document describes: scalars, sequences and mappings, each with the tag that says
what kind of value it is. A node can be a part of several others, and even of itself, so nodes
name their parts by their numbers in the graph.
-/

namespace DartBlock.Yaml

inductive Tag
  | null
  | bool
  | int
  | float
  | bytes
  | moment
  | text
  | sequence
  | pairs
  | set
  | mapping
  /-- The key whose value is merged into the mapping. -/
  | merge
  /-- The key whose value stands for the mapping. -/
  | value
  | unknown
  deriving DecidableEq, Repr

namespace Tag

/-- What the names of all known tags begin with. -/
def stem : String := "tag:yaml.org,2002:"

def names : List (String × Tag) :=
  [("null", .null), ("bool", .bool), ("int", .int), ("float", .float), ("binary", .bytes),
    ("timestamp", .moment), ("str", .text), ("seq", .sequence), ("omap", .pairs),
    ("pairs", .pairs), ("set", .set), ("map", .mapping), ("merge", .merge), ("value", .value)]

def ofName (name : String) : Tag :=
  ((names.find? fun n => stem ++ n.1 == name).map (·.2)).getD .unknown

def ofKind : PlainKind → Tag
  | .text => .text
  | .null => .null
  | .bool => .bool
  | .int => .int
  | .float => .float
  | .timestamp => .moment
  | .merge => .merge
  | .value => .value

/-- The marks that begin no plain scalar and stand for no value. -/
def marks : List (List Char) := [['!'], ['&'], ['*']]

/-- The tag of a text that is read like a plain scalar. A line feed at its end does not count. -/
def ofText (cs : List Char) : Tag :=
  let cs := if cs.length > 1 ∧ cs.getLast? = some '\n' then cs.dropLast else cs
  if marks.contains cs then .unknown else ofKind (Plain.kind cs)

end Tag

abbrev Ref := Nat

inductive Content
  | scalar (text : List Char)
  | sequence (items : List Ref)
  | mapping (entries : List (Ref × Ref))
  deriving DecidableEq, Repr

/-- A node of a document. -/
structure Node where
  tag : Tag
  content : Content
  deriving DecidableEq, Repr

namespace Node

/-- The node that is left out. -/
def empty : Node := ⟨.null, .scalar []⟩

instance : Inhabited Node := ⟨empty⟩

def isCollection (n : Node) : Bool := [Tag.sequence, .pairs, .set, .mapping].contains n.tag

end Node

structure Graph where
  nodes : Array Node := #[]
  deriving Repr

namespace Graph

/-- The node with a number; numbers without a node stand for the one that is left out. -/
def node (g : Graph) (r : Ref) : Node := g.nodes.getD r .empty

def size (g : Graph) : Nat := g.nodes.size

/-- The graph with one more node, which gets the next number. -/
def add (g : Graph) (n : Node) : Graph := ⟨g.nodes.push n⟩

def update (g : Graph) (r : Ref) (f : Node → Node) : Graph := ⟨g.nodes.modify r f⟩

/-- The entries of a mapping; other nodes have none. -/
def entries (g : Graph) (r : Ref) : List (Ref × Ref) :=
  match (g.node r).content with
  | .mapping es => es
  | _ => []

def isMapping (g : Graph) (r : Ref) : Bool :=
  match (g.node r).content with
  | .mapping _ => true
  | _ => false

end Graph

end DartBlock.Yaml
