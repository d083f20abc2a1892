import C4Diagram.Normal.Fence
import C4Diagram.Normal.Header

/-!
Normal documents. Normalizing removes code fences, carriage returns at line ends and outer blanks,
and adds what the text is missing: the wrapper around everything when a marker is missing, else the
header lines right below the line that starts the diagram. A text with no content stays empty.
-/

namespace C4Diagram

def partSeparator : Text := ['\n', '\n']

/-- Without the carriage returns at the ends of its lines, however many there are. -/
def Text.withoutReturns (t : Text) : Text :=
  Text.joinLines (t.rawLines.map (Text.dropEndWhile (· == '\r')))

def Text.cleaned (t : Text) : Text := t.withoutFences.withoutReturns.trim

/-- The header lines below the first line that names the start marker, and below them the other
lines, less the empty ones that they start with. -/
def insertHeader (t : Text) (header : List Text) : Text :=
  let lines := t.rawLines
  let headCount := lines.findIdx (·.mentionsLowered startMarker) + 1
  let tail := (lines.drop headCount).dropWhile List.isEmpty
  Text.join partSeparator <|
    [Text.joinLines (lines.take headCount)] ++ header ++ if tail.isEmpty then [] else [Text.joinLines tail]

def normalize (raw : Text) (level : Level) : Text :=
  let clean := raw.cleaned
  let header := missingHeader clean level
  if clean.isEmpty then []
  else if !hasWrappers clean then
    Text.join partSeparator ([startMarker] ++ header ++ [clean, endMarker])
  else if header.isEmpty then clean
  else insertHeader clean header

end C4Diagram
