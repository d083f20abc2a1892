import C4Diagram.Identifier
import C4Diagram.Text.Lines

/-!
The argument list of a call. A double quote switches between being inside and outside a quoted
value, and there is no escape for it. Commas outside quotes separate the arguments; an argument
with an unquoted equals sign after an identifier is named, and any other is positional.
-/

namespace C4Diagram

/-- The stretches between the occurrences of `sep` outside double quotes, where `quoted` tells
whether the text starts inside them: one more than there are such occurrences. -/
def unquotedPieces (sep : Char) (quoted : Bool) : Text → List Text
  | [] => [[]]
  | c :: r =>
    if c = sep ∧ quoted = false then [] :: unquotedPieces sep quoted r
    else
      match unquotedPieces sep (quoted ^^ (c == '"')) r with
      | p :: ps => (c :: p) :: ps
      | [] => [[c]]

def splitUnquoted? (sep : Char) (quoted : Bool) : Text → Option (Text × Text)
  | [] => none
  | c :: r =>
    if c = sep ∧ quoted = false then some ([], r)
    else (splitUnquoted? sep (quoted ^^ (c == '"')) r).map fun (before, after) => (c :: before, after)

/-- The arguments as they are written, trimmed. An empty argument counts unless it is the last. -/
def splitArguments (raw : Text) : List Text :=
  let parts := (unquotedPieces ',' false raw).map Text.trim
  if parts.getLast? = some [] then parts.dropLast else parts

def unquote (value : Text) : Text :=
  match value.trim with
  | '"' :: r => (Text.beforeLast? '"' r).getD ('"' :: r)
  | t => t

/-- Lowers A to Z, and the Kelvin sign to k: the characters whose lower-case form is ASCII, hence
the only ones with which two names that differ can agree when one of them is an identifier. -/
def lowerLetter (c : Char) : Char := if c = '\u212A' then 'k' else c.toLower

/-- What identifies a named argument: its name without one leading dollar sign, in lower case. -/
def argumentKey (name : Text) : Text := (name.trim.dropLeading '$').map lowerLetter

inductive Argument where
  | positional (value : Text)
  | named (key value : Text)
deriving DecidableEq

namespace Argument

/-- Reads one argument. Only the first unquoted equals sign counts: where no identifier stands
before it, the whole argument is a positional value. -/
def read (written : Text) : Argument :=
  match splitUnquoted? '=' false written with
  | some (name, value) =>
    if isIdentifier (name.trim.dropLeading '$') then named (argumentKey name) (unquote value)
    else positional (unquote written)
  | none => positional (unquote written)

def positional? : Argument → Option Text
  | positional v => some v
  | named _ _ => none

def named? : Argument → Option (Text × Text)
  | positional _ => none
  | named k v => some (k, v)

end Argument

/-- The values of a call: the positional ones in order, and the named ones in order with their keys. -/
structure Arguments where
  positional : List Text
  named : List (Text × Text)
deriving DecidableEq

namespace Arguments

def ofList (args : List Argument) : Arguments :=
  ⟨args.filterMap Argument.positional?, args.filterMap Argument.named?⟩

def read (raw : Text) : Arguments := ofList ((splitArguments raw).map Argument.read)

/-- The value that was given last under the name. -/
def value? (args : Arguments) (name : Text) : Option Text :=
  (args.named.reverse.find? (fun e => e.1 == argumentKey name)).map Prod.snd

def resolve (args : Arguments) (name : Text) (position : Nat) : Text :=
  (args.value? name).getD (args.positional.getD position [])

end Arguments

theorem unquotedPieces_ne_nil (sep : Char) (q : Bool) (t : Text) : unquotedPieces sep q t ≠ [] := by
  cases t with
  | nil => simp [unquotedPieces]
  | cons c r =>
    rw [unquotedPieces]
    split
    · simp
    · split <;> simp

theorem join_unquotedPieces (sep : Char) (q : Bool) (t : Text) :
    Text.join [sep] (unquotedPieces sep q t) = t := by
  induction t generalizing q with
  | nil => rfl
  | cons c r ih =>
    rw [unquotedPieces]
    split
    · next h => rw [Text.join_cons _ _ (unquotedPieces_ne_nil sep q r), ih, h.1]; rfl
    · split
      · next p ps he =>
        have := ih (q ^^ (c == '"'))
        rw [he] at this
        cases ps with
        | nil => simpa [Text.join] using this
        | cons x xs => simpa [Text.join] using this
      · next he => exact absurd he (unquotedPieces_ne_nil sep _ r)

/-- The part before the split, the separator and the part after it make up the text. -/
theorem eq_of_splitUnquoted? {sep : Char} {q : Bool} {t before after : Text}
    (h : splitUnquoted? sep q t = some (before, after)) : t = before ++ sep :: after := by
  induction t generalizing q before with
  | nil => simp [splitUnquoted?] at h
  | cons c r ih =>
    rw [splitUnquoted?] at h
    split at h
    · next hc => cases h; rw [hc.1]; rfl
    · obtain ⟨⟨b, a⟩, hs, he⟩ := Option.map_eq_some_iff.1 h
      cases he
      rw [ih hs]; rfl

end C4Diagram
