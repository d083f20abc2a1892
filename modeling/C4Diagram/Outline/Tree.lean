import C4Diagram.Outline.Basic
import C4Diagram.Text.Search

/-!
The outline as a printed tree: a line for each node, indented by its depth, with the nodes of a
block under the line of the boundary that opens it.
-/

namespace C4Diagram

namespace Node

def treeLine (n : Node) (depth : Nat) : Text :=
  List.replicate (2 * depth) ' ' ++ n.aliasName ++ [' '] ++ n.macroName ++ " \"".toList ++ n.label ++
    "\" (line ".toList ++ Text.ofNat (n.line + 1) ++ ")\n".toList

end Node

namespace Outline

/-- The lines of the nodes under a position and of all that they hold, to at most `levels` levels
down. -/
def treeUnder (o : Outline) (parent : Option Nat) (depth : Nat) : (levels : Nat) → Text
  | 0 => []
  | levels + 1 =>
    (o.childrenAt parent).flatMap fun (node, position) =>
      node.treeLine depth ++ if node.opensBlock then o.treeUnder (some position) (depth + 1) levels else []

/-- The whole tree. A node stands behind the boundary around it, so no nesting is deeper than
there are nodes. -/
def tree (o : Outline) : Text := o.treeUnder none 0 o.nodes.length

end Outline
end C4Diagram
