import C4Diagram.Finding
import C4Diagram.Outline.Build

/-!
The structural lint. An outline is built from any text; the lint reports where the text is
probably not what was meant: boundaries that are never closed, block ends that close nothing, and
aliases that are declared again. The findings come in this order, and by line within each kind.
-/

namespace C4Diagram
namespace Lint

/-- The span of a line of the outline; the empty span for any other line. -/
def spanOf (o : Outline) (line : Nat) : Span := (o.lineSpan? line).getD ⟨0, 0⟩

def neverClosed (o : Outline) (boundary : Node) : Finding :=
  { severity := .error
    code := some .unterminatedBoundary
    message := "boundary `".toList ++ boundary.aliasName ++ "` is never closed".toList
    labels := [⟨spanOf o boundary.line, "block opened here".toList, true⟩]
    help := some "add a line containing only `\x7d` after its last element".toList }

def closesNothing (o : Outline) (line : Nat) : Finding :=
  { severity := .warning
    code := some .unmatchedClosing
    message := "unmatched closing brace".toList
    labels := [⟨spanOf o line, "no open block to close".toList, true⟩]
    help := some "remove this line or add the boundary it was meant to close".toList }

def declaredAgain (o : Outline) (aliasName : Text) (line first : Nat) : Finding :=
  { severity := .error
    code := some .duplicateAlias
    message := "alias `".toList ++ aliasName ++ "` is declared multiple times".toList
    labels :=
      [⟨spanOf o line, "declared again here".toList, true⟩,
        ⟨spanOf o first, "first declared here".toList, false⟩]
    help := some "give each element a unique alias".toList }

/-- A finding for each node whose alias is among the earlier ones, with the line of its first
declaration. `seen` holds the first declarations so far. -/
def repeats (o : Outline) (seen : List (Text × Nat)) : List Node → List Finding
  | [] => []
  | n :: ns =>
    match seen.find? (·.1 == n.aliasName) with
    | some (_, first) => declaredAgain o n.aliasName n.line first :: repeats o seen ns
    | none => repeats o (seen ++ [(n.aliasName, n.line)]) ns

end Lint

namespace Outline

def lint (o : Outline) : List Finding :=
  (o.boundaries.filter (fun b => b.closingLine.isNone)).map (Lint.neverClosed o) ++
    o.strayClosings.map (Lint.closesNothing o) ++ Lint.repeats o [] o.nodes

def check (o : Outline) : Except (List Finding) (List Finding) := Findings.verdict o.lint

end Outline
end C4Diagram
