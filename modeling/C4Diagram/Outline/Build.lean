import C4Diagram.Line
import C4Diagram.Outline.Basic
import C4Diagram.Text.Lines

/-!
Building an outline: the lines are classified one by one and folded over a stack of open blocks.
A call that is no relation declares a node under the innermost open block, a block end closes that
block, and a block end while none is open is stray. No text is refused.
-/

namespace C4Diagram

structure Nesting where
  nodes : List Node
  boundaryPositions : List Nat
  aliases : List Text
  strayClosings : List Nat
  /-- The positions of the nodes whose blocks are open, the innermost first. -/
  openPositions : List Nat
deriving DecidableEq

namespace Nesting

def empty : Nesting := ⟨[], [], [], [], []⟩

/-- A node for the call, under the innermost open block; it opens a block itself if the call does. -/
def declare (s : Nesting) (line : Nat) (c : Call) : Nesting :=
  let parentPosition := s.openPositions.head?
  let node : Node :=
    { aliasName := c.aliasName
      label := c.label
      macroName := c.name
      parent := (parentPosition.bind (s.nodes[·]?)).map Node.aliasName
      parentPosition := parentPosition
      line := line
      closingLine := none
      opensBlock := c.opensBlock }
  let position := s.nodes.length
  { s with
    nodes := s.nodes ++ [node]
    boundaryPositions := if c.opensBlock then s.boundaryPositions ++ [position] else s.boundaryPositions
    aliases := if s.aliases.contains c.aliasName then s.aliases else s.aliases ++ [c.aliasName]
    openPositions := if c.opensBlock then position :: s.openPositions else s.openPositions }

/-- Ends the innermost open block; with none open, the line is stray. -/
def close (s : Nesting) (line : Nat) : Nesting :=
  match s.openPositions with
  | position :: rest =>
    { s with
      nodes := s.nodes.modify position (fun n => { n with closingLine := some line })
      openPositions := rest }
  | [] => { s with strayClosings := s.strayClosings ++ [line] }

def step (s : Nesting) (line : Nat) : Line → Nesting
  | .call c => if c.isRelation then s else s.declare line c
  | .blockEnd => s.close line
  | .directive | .text => s

def run (s : Nesting) (first : Nat) : List Line → Nesting
  | [] => s
  | l :: ls => run (s.step first l) (first + 1) ls

theorem run_append (s : Nesting) (first : Nat) (xs ys : List Line) :
    s.run first (xs ++ ys) = (s.run first xs).run (first + xs.length) ys := by
  induction xs generalizing s first with
  | nil => rfl
  | cons x xs ih => simp [run, ih, Nat.add_assoc, Nat.add_comm 1]

end Nesting

/-- The offsets at which the lines start, the first of them at the given one. A line feed, one
byte, follows each line. -/
def startOffsets (offset : Nat) : List Text → List Nat
  | [] => []
  | l :: ls => offset :: startOffsets (offset + l.utf8Size + 1) ls

namespace Outline

def read (source : Text) : Outline :=
  let lines := source.lines
  let nesting := Nesting.empty.run 0 (lines.map classify)
  { source := source
    lines := lines
    lineStarts := startOffsets 0 source.rawLines
    nodes := nesting.nodes
    boundaryPositions := nesting.boundaryPositions
    aliases := nesting.aliases
    strayClosings := nesting.strayClosings }

end Outline
end C4Diagram
