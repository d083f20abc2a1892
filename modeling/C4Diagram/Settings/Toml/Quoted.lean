import C4Diagram.Text.Lines
import C4Diagram.Url.Host

/-!
Strings of TOML: with escapes or literal, on one line or on several. Each reader answers the text
and what follows it.
-/

namespace C4Diagram.Toml

/-- May stand in a comment or a literal string: no control character but the tab. -/
def isTextChar (c : Char) : Bool := c == '\t' || (0x20 ≤ c.toNat && c.toNat ≠ 0x7F)

def isGap (c : Char) : Bool := c == ' ' || c == '\t'

def skipGap (t : Text) : Text := t.dropWhile isGap

def afterLineEnd? : Text → Option Text
  | '\n' :: r => some r
  | '\r' :: '\n' :: r => some r
  | _ => none

def charOfCode? (n : Nat) : Option Char := if n.isValidChar then some (Char.ofNat n) else none

def hexEscape? (count : Nat) (t : Text) : Option (Char × Text) :=
  if t.length < count then none
  else ((Url.digits? 16 (t.take count)).bind charOfCode?).map (·, t.drop count)

def escape? : Text → Option (Char × Text)
  | 'b' :: r => some ('\x08', r)
  | 't' :: r => some ('\t', r)
  | 'n' :: r => some ('\n', r)
  | 'f' :: r => some ('\x0c', r)
  | 'r' :: r => some ('\r', r)
  | 'e' :: r => some ('\x1b', r)
  | '"' :: r => some ('"', r)
  | '\\' :: r => some ('\\', r)
  | 'x' :: r => hexEscape? 2 r
  | 'u' :: r => hexEscape? 4 r
  | 'U' :: r => hexEscape? 8 r
  | _ => none

def consRead (c : Char) (r : Option (Text × Text)) : Option (Text × Text) := r.map fun (t, rest) => (c :: t, rest)

/-- The rest of a string that three quotes end: up to two more quotes belong to the string. -/
def closingQuotes (quote : Char) : Text → Text × Text
  | a :: b :: r => if a = quote ∧ b = quote then ([a, b], r) else if a = quote then ([a], b :: r) else ([], a :: b :: r)
  | [a] => if a = quote then ([a], []) else ([], [a])
  | [] => ([], [])

def skipBlanks : Text → Text
  | ' ' :: r => skipBlanks r
  | '\t' :: r => skipBlanks r
  | '\n' :: r => skipBlanks r
  | '\r' :: '\n' :: r => skipBlanks r
  | t => t

/-- What follows a backslash at the end of a line: it takes away all blanks up to the next text. -/
def afterContinuation? (t : Text) : Option Text := (afterLineEnd? (skipGap t)).map skipBlanks

/-- May stand in a string on several lines: line ends stay as they are written. -/
def startsWithText (isMultiline : Bool) (t : Text) : Bool :=
  t.head?.any isTextChar || (isMultiline && (afterLineEnd? t).isSome)

def basicText? (isMultiline : Bool) : (limit : Nat) → Text → Option (Text × Text)
  | 0, _ => none
  | n + 1, t =>
    match t with
    | [] => none
    | '"' :: r =>
      if !isMultiline then some ([], r)
      else
        match r with
        | '"' :: '"' :: r => some (closingQuotes '"' r)
        | _ => consRead '"' (basicText? isMultiline n r)
    | '\\' :: r =>
      match if isMultiline then afterContinuation? r else none with
      | some rest => basicText? isMultiline n rest
      | none => (escape? r).bind fun (c, rest) => consRead c (basicText? isMultiline n rest)
    | c :: r =>
      if startsWithText isMultiline (c :: r) then consRead c (basicText? isMultiline n r) else none

def literalText? (isMultiline : Bool) : (limit : Nat) → Text → Option (Text × Text)
  | 0, _ => none
  | n + 1, t =>
    match t with
    | [] => none
    | '\'' :: r =>
      if !isMultiline then some ([], r)
      else
        match r with
        | '\'' :: '\'' :: r => some (closingQuotes '\'' r)
        | _ => consRead '\'' (literalText? isMultiline n r)
    | c :: r =>
      if startsWithText isMultiline (c :: r) then consRead c (literalText? isMultiline n r) else none

def lineString? : Text → Option (Text × Text)
  | '"' :: r => basicText? false (r.length + 1) r
  | '\'' :: r => literalText? false (r.length + 1) r
  | _ => none

/-- A string of any form, and what follows it. A line end right after three quotes does not count. -/
def string? : Text → Option (Text × Text)
  | '"' :: '"' :: '"' :: r => basicText? true (r.length + 1) ((afterLineEnd? r).getD r)
  | '\'' :: '\'' :: '\'' :: r => literalText? true (r.length + 1) ((afterLineEnd? r).getD r)
  | t => lineString? t

end C4Diagram.Toml
