import C4Diagram.Span
import C4Diagram.Text.Utf8
import C4Diagram.Vocabulary.Element

/-!
The outline of a diagram: its lines, the elements that they declare, and how the elements nest.
An outline describes one text; line numbers and positions mean nothing in any other.
-/

namespace C4Diagram

/-- An element or boundary, as one line declares it. Lines and positions count from 0. -/
structure Node where
  aliasName : Text
  label : Text
  macroName : Text
  /-- The alias of the boundary around it. -/
  parent : Option Text
  /-- The position of the boundary around it among the nodes of the outline. -/
  parentPosition : Option Nat
  line : Nat
  /-- The line that ends its block. -/
  closingLine : Option Nat
  opensBlock : Bool
deriving DecidableEq

namespace Node

def kind? (n : Node) : Option ElementKind := ElementKind.ofName? n.macroName

end Node

structure Outline where
  source : Text
  lines : List Text
  /-- The byte offset at which each line starts. -/
  lineStarts : List Nat
  /-- The nodes in the order of their lines. -/
  nodes : List Node
  /-- The positions of the nodes that open a block. -/
  boundaryPositions : List Nat
  /-- The aliases in the order of their first declaration. -/
  aliases : List Text
  /-- The lines that end a block while none is open. -/
  strayClosings : List Nat
deriving DecidableEq

namespace Outline

def boundaries (o : Outline) : List Node := o.boundaryPositions.filterMap (o.nodes[·]?)

def containsAlias (o : Outline) (aliasName : Text) : Bool := o.aliases.contains aliasName

/-- The first node declared with the alias. -/
def node? (o : Outline) (aliasName : Text) : Option Node := o.nodes.find? (·.aliasName == aliasName)

def boundary? (o : Outline) (aliasName : Text) : Option Node := o.boundaries.find? (·.aliasName == aliasName)

/-- The nodes right under the boundaries of that alias, or at document level. -/
def children (o : Outline) (parent : Option Text) : List Node := o.nodes.filter (·.parent == parent)

/-- The nodes right under the boundary at that position, or at document level, each with its own
position. Boundaries that share an alias stay apart. -/
def childrenAt (o : Outline) (parent : Option Nat) : List (Node × Nat) :=
  o.nodes.zipIdx.filter (·.1.parentPosition == parent)

def parentOptions (o : Outline) : List (Option Node) := none :: o.boundaries.map some

/-- What a relation may name: one node for each alias, its first declaration. -/
def nodeOptions (o : Outline) : List Node := o.aliases.filterMap o.node?

/-- The bytes of a line without the blanks around it, for a line of the outline. -/
def lineSpan? (o : Outline) (index : Nat) : Option Span :=
  match o.lines[index]?, o.lineStarts[index]? with
  | some line, some offset =>
    let stop := offset + line.trimEnd.utf8Size
    some ⟨min (offset + (line.utf8Size - line.trimStart.utf8Size)) stop, stop⟩
  | _, _ => none

end Outline
end C4Diagram
