import C4Diagram.Span
import C4Diagram.Text.Search

/-!
Findings of the lint: what is wrong, how serious it is, where it stands and what to do about it. A
set of findings fails as a whole as soon as one of them is an error; the warnings stay with it.
-/

namespace C4Diagram

/-- A warning is text that is read but is probably a mistake; an error makes edits unreliable. -/
inductive Severity where
  | warning
  | error
deriving DecidableEq

namespace Severity

def name : Severity → Text
  | warning => "warning".toList
  | error => "error".toList

def rank : Severity → Nat
  | warning => 0
  | error => 1

def isError : Severity → Bool
  | warning => false
  | error => true

end Severity

inductive FindingCode where
  | unterminatedBoundary
  | unmatchedClosing
  | duplicateAlias
deriving DecidableEq

namespace FindingCode

def all : List FindingCode := [unterminatedBoundary, unmatchedClosing, duplicateAlias]

/-- Nesting has the codes from E100, aliases those from E200. -/
def name : FindingCode → Text
  | unterminatedBoundary => "E100".toList
  | unmatchedClosing => "E101".toList
  | duplicateAlias => "E200".toList

def description : FindingCode → Text
  | unterminatedBoundary => "unterminated boundary".toList
  | unmatchedClosing => "unmatched closing brace".toList
  | duplicateAlias => "duplicate alias".toList

def ofName? (n : Text) : Option FindingCode := all.find? (fun c => c.name == n)

theorem ofName?_name (c : FindingCode) : ofName? c.name = some c := by cases c <;> decide

end FindingCode

/-- A place in the text with a remark. The primary label marks the line at fault, a secondary one
a line that is related to it. -/
structure Label where
  span : Span
  message : Text
  isPrimary : Bool
deriving DecidableEq

structure Finding where
  severity : Severity
  code : Option FindingCode
  message : Text
  labels : List Label
  help : Option Text
deriving DecidableEq

namespace Finding

def isError (f : Finding) : Bool := f.severity.isError

def headline (f : Finding) : Text :=
  let code := match f.code with
    | some c => "[".toList ++ c.name ++ "]".toList
    | none => []
  f.severity.name ++ code ++ ": ".toList ++ f.message

end Finding

namespace Findings

/-- The first error and how many more there are; nothing if there is none. -/
def summary (fs : List Finding) : Text :=
  match fs.filter Finding.isError with
  | [] => []
  | [first] => first.headline
  | first :: more => first.headline ++ " (+".toList ++ Text.ofNat more.length ++ " more)".toList

/-- All findings as a failure if one is an error, else the warnings. -/
def verdict (fs : List Finding) : Except (List Finding) (List Finding) :=
  if fs.any Finding.isError then .error fs else .ok fs

def sortedSeverities (fs : List Finding) : List Severity :=
  (fs.map Finding.severity).mergeSort (fun a b => a.rank ≤ b.rank)

theorem verdict_eq_ok_iff {fs gs : List Finding} :
    verdict fs = .ok gs ↔ gs = fs ∧ ∀ f ∈ fs, f.isError = false := by
  unfold verdict
  split
  · next h =>
    obtain ⟨f, hf, he⟩ := List.any_eq_true.1 h
    simp only [reduceCtorEq, false_iff, not_and]
    exact fun _ hall => by simp [hall f hf] at he
  · next h =>
    have hall : ∀ f ∈ fs, f.isError = false := by simpa using h
    exact ⟨fun he => ⟨(Except.ok.inj he).symm, hall⟩, fun he => by rw [he.1]⟩

end Findings
end C4Diagram
