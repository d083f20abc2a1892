import C4Diagram.Call.Shape

/-!
What a line means on its own, without the lines around it: a directive (blank lines, comments,
wrappers, preprocessor lines, layout and title words), a call, the end of a block, or other text.
-/

namespace C4Diagram

/-- The starts of the lines that carry no structure. -/
def directiveMarks : List Text :=
  ["@".toList, "!".toList, "'".toList, "LAYOUT_".toList, "SHOW_".toList, "HIDE_".toList, "title".toList]

def isDirective (line : Text) : Bool :=
  line.trim.isEmpty || directiveMarks.any (fun mark => mark.isPrefixOf line.trim)

def isBlockEnd (line : Text) : Bool := line.trim == ['}']

inductive Line where
  | directive
  | call (c : Call)
  | blockEnd
  | text
deriving DecidableEq

/-- The first of the readings that fits: directive, call, block end, text. -/
def classify (line : Text) : Line :=
  if isDirective line then .directive
  else
    match Call.read? line with
    | some c => .call c
    | none => if isBlockEnd line then .blockEnd else .text

theorem classify_eq_directive_iff {line : Text} : classify line = .directive ↔ isDirective line = true := by
  unfold classify
  split
  · next h => simp [h]
  · next h =>
    simp only [h]
    split
    · simp
    · split <;> simp

theorem read?_of_classify {line : Text} {c : Call} (h : classify line = .call c) : Call.read? line = some c := by
  unfold classify at h
  split at h
  · cases h
  · split at h
    · next hc => cases h; exact hc
    · split at h <;> cases h

end C4Diagram
