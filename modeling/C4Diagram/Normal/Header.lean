import C4Diagram.Text.Lines
import C4Diagram.Text.Search
import C4Diagram.Vocabulary.Level

/-!
What a diagram needs to be rendered: the wrapper markers, an include of the standard library, and
a layout call. Each is recognised in any case.
-/

namespace C4Diagram

def startMarker : Text := "@startuml".toList

def endMarker : Text := "@enduml".toList

/-- Names the word, which is written in lower case, in any case. -/
def Text.mentionsLowered (t word : Text) : Bool := t.lowered.mentions word

def hasWrappers (t : Text) : Bool := t.mentionsLowered startMarker && t.mentionsLowered endMarker

/-- An include directive on the line, a blank behind it, and then the library file of any level. -/
def isLibraryInclude (line : Text) : Bool :=
  (line.lowered.afterEach "!include".toList).any fun rest =>
    (rest.head?.any isBlank) && Level.all.any fun l => rest.mentions l.libraryFile.lowered

def hasLibraryInclude (t : Text) : Bool := t.rawLines.any isLibraryInclude

def layoutNames : List Text :=
  ["LAYOUT_WITH_LEGEND".toList, "LAYOUT_LEFT_RIGHT".toList, "LAYOUT_LANDSCAPE".toList,
    "LAYOUT_TOP_DOWN".toList]

/-- A layout macro with a parenthesis behind it; blanks and line ends may stand between them. -/
def hasLayoutCall (t : Text) : Bool :=
  layoutNames.any fun name =>
    (t.lowered.afterEach name.lowered).any fun rest => (Text.trimStart rest).head? == some '('

def defaultLayout : List Text := ["LAYOUT_WITH_LEGEND()".toList, "LAYOUT_LANDSCAPE()".toList]

def missingHeader (t : Text) (level : Level) : List Text :=
  (if hasLibraryInclude t then [] else [level.includeLine]) ++
    if hasLayoutCall t then [] else defaultLayout

end C4Diagram
