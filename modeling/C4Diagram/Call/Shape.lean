import C4Diagram.Call.Arguments
import C4Diagram.Vocabulary.Relation

/-!
Calls of macros: a name, an argument list in parentheses, and an opening brace where a block
starts. The argument list reaches to the last closing parenthesis of the line, and a call counts
only if its alias and its label are not empty.
-/

namespace C4Diagram

/-- The name of a call and what follows its opening parenthesis. Only spacing may stand before the
name and before the parenthesis. -/
def callHead? (line : Text) : Option (Text × Text) :=
  let start := line.dropWhile isSpacing
  let name := start.takeWhile isIdentifierChar
  match (start.dropWhile isIdentifierChar).dropWhile isSpacing with
  | '(' :: rest => if isIdentifier name then some (name, rest) else none
  | _ => none

/-- The argument list of a call and whether a block starts after it, from what follows the opening
parenthesis. -/
def callTail? (rest : Text) : Option (Text × Bool) :=
  let tail := rest.trimEnd
  match tail.beforeLast? '{' with
  | some before => (before.trimEnd.beforeLast? ')').map (·, true)
  | none => (tail.beforeLast? ')').map (·, false)

structure Call where
  name : Text
  arguments : Arguments
  aliasName : Text
  label : Text
  opensBlock : Bool
deriving DecidableEq

namespace Call

def read? (line : Text) : Option Call :=
  (callHead? line).bind fun (name, rest) =>
    (callTail? rest).bind fun (raw, opensBlock) =>
      let arguments := Arguments.read raw
      let aliasName := arguments.resolve "alias".toList 0
      let label := arguments.resolve "label".toList 1
      if aliasName.isEmpty || label.isEmpty then none
      else some ⟨name, arguments, aliasName, label, opensBlock⟩

def isRelation (c : Call) : Bool := RelationKind.isRelationName c.name

end Call

/-- The relation kind that the line calls, whatever stands behind the opening parenthesis. -/
def relationCall? (line : Text) : Option RelationKind :=
  (callHead? line).bind fun (name, _) => RelationKind.ofName? name

theorem alias_ne_nil_of_read? {line : Text} {c : Call} (h : Call.read? line = some c) : c.aliasName ≠ [] := by
  simp only [Call.read?, Option.bind_eq_some_iff] at h
  obtain ⟨⟨_, rest⟩, -, ⟨raw, _⟩, -, h⟩ := h
  split at h
  · cases h
  · next hne => cases h; simpa using fun he => hne (by simp [he])

theorem label_ne_nil_of_read? {line : Text} {c : Call} (h : Call.read? line = some c) : c.label ≠ [] := by
  simp only [Call.read?, Option.bind_eq_some_iff] at h
  obtain ⟨⟨_, rest⟩, -, ⟨raw, _⟩, -, h⟩ := h
  split at h
  · cases h
  · next hne => cases h; simpa using fun he => hne (by simp [he])

end C4Diagram
