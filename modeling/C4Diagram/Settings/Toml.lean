import C4Diagram.Settings.Toml.Entries
import C4Diagram.Settings.Toml.Moment
import C4Diagram.Settings.Toml.Number
import C4Diagram.Settings.Toml.Quoted

/-!
TOML files as values. A file is a list of entries under headers, and each entry has a key of one or
more parts and a value. The reader answers nothing for a file that breaks a rule.
-/

namespace C4Diagram.Toml

def isBareKeyChar (c : Char) : Bool := c.isAlphanum || c == '_' || c == '-'

def simpleKey? (t : Text) : Option (Text × Text) :=
  match t with
  | '"' :: _ => lineString? t
  | '\'' :: _ => lineString? t
  | _ =>
    let key := t.takeWhile isBareKeyChar
    if key.isEmpty then none else some (key, t.drop key.length)

/-- How many parts a key may have, and how deep values may be nested. -/
def maxDepth : Nat := 80

/-- A key with at most `limit` parts, and what follows it and the gap behind it. -/
def keyUpTo? : (limit : Nat) → Text → Option (List Text × Text)
  | 0, _ => none
  | n + 1, t =>
    (simpleKey? (skipGap t)).bind fun (k, rest) =>
      match skipGap rest with
      | '.' :: rest => (keyUpTo? n rest).map fun (ks, rest) => (k :: ks, rest)
      | rest => some ([k], rest)

def key? (t : Text) : Option (List Text × Text) := keyUpTo? maxDepth t

def afterComment? (t : Text) : Option Text :=
  let rest := t.dropWhile isTextChar
  if rest.isEmpty || (afterLineEnd? rest).isSome then some rest else none

def skipLines? : (limit : Nat) → Text → Option Text
  | 0, _ => none
  | n + 1, t =>
    match skipGap t with
    | '#' :: r => (afterComment? r).bind (skipLines? n)
    | rest =>
      match afterLineEnd? rest with
      | some r => skipLines? n r
      | none => some rest

def isScalarChar (c : Char) : Bool := c.isAlphanum || ['_', '+', '-', '.', ':'].contains c

/-- A value that is no string: its text and what follows it. A space behind a date belongs to it if
a digit follows. -/
def bareText (t : Text) : Text × Text :=
  let first := t.takeWhile isScalarChar
  let rest := t.dropWhile isScalarChar
  match rest with
  | ' ' :: d :: r =>
    if isDate first && d.isDigit then
      (first ++ ' ' :: (d :: r).takeWhile isScalarChar, (d :: r).dropWhile isScalarChar)
    else (first, rest)
  | _ => (first, rest)

def bareValue? (t : Text) : Option SettingsValue :=
  if t == "true".toList || t == "false".toList then some .other
  else if isMoment t then some .moment
  else (numberRange? t).map fun isInRange => if isInRange then .other else .outOfRange

def afterLines? (t : Text) : Option Text := skipLines? (t.length + 1) t

mutual

/-- A value in which lists and tables are nested at most `depth` deep, and what follows it,
in at most `limit` steps. -/
def value? : (limit depth : Nat) → Text → Option (SettingsValue × Text)
  | 0, _, _ => none
  | n + 1, depth, t =>
    match t, depth with
    | '[' :: r, d + 1 => (items? n d r).map fun (vs, rest) => (.list vs, rest)
    | '{' :: r, d + 1 => (pairs? n d [] r).map fun (es, rest) => (.table (entryValues es), rest)
    | '"' :: _, _ => (string? t).map fun (s, rest) => (.text s, rest)
    | '\'' :: _, _ => (string? t).map fun (s, rest) => (.text s, rest)
    | _, _ => (bareValue? (bareText t).1).map fun v => (v, (bareText t).2)

/-- The items of a list up to its closing bracket. A comma may follow the last one. -/
def items? : (limit depth : Nat) → Text → Option (List SettingsValue × Text)
  | 0, _, _ => none
  | n + 1, depth, t =>
    (afterLines? t).bind fun
      | ']' :: rest => some ([], rest)
      | start => (value? n depth start).bind fun (v, rest) =>
        (afterLines? rest).bind fun
          | ',' :: rest => (items? n depth rest).map fun (vs, rest) => (v :: vs, rest)
          | ']' :: rest => some ([v], rest)
          | _ => none

/-- The entries of a table in braces up to its closing brace, behind those read so far. A comma may
follow the last one, and lines may end anywhere but inside a key. -/
def pairs? : (limit depth : Nat) → Entries → Text → Option (Entries × Text)
  | 0, _, _, _ => none
  | n + 1, depth, es, t =>
    (afterLines? t).bind fun
      | '}' :: rest => some (es, rest)
      | start => (key? start).bind fun (key, rest) =>
        (afterLines? rest).bind fun
          | '=' :: rest => (afterLines? rest).bind fun rest =>
            (value? n depth rest).bind fun (v, rest) =>
              (es.insert (.value v) key).bind fun es =>
                (afterLines? rest).bind fun
                  | ',' :: rest => pairs? n depth es rest
                  | '}' :: rest => some (es, rest)
                  | _ => none
          | _ => none

end

/-- What follows the rest of a line, on which only a comment may stand. -/
def afterRestOfLine? (t : Text) : Option Text :=
  let behind? := match skipGap t with
    | '#' :: r => afterComment? r
    | rest => some rest
  behind?.bind fun rest => if rest.isEmpty then some [] else afterLineEnd? rest

/-- One header or entry. The state is the open table and all entries so far. -/
def expression? (state : List Text × Entries) (t : Text) : Option ((List Text × Entries) × Text) :=
  match t with
  | '[' :: '[' :: r => do
    match ← key? r with
    | (path, ']' :: ']' :: rest) => return ((path, ← state.2.along Entries.openElement path), rest)
    | _ => none
  | '[' :: r => do
    match ← key? r with
    | (path, ']' :: rest) => return ((path, ← state.2.along Entries.openTable path), rest)
    | _ => none
  | _ => do
    match ← key? t with
    | (key, '=' :: rest) =>
      let (v, rest) ← value? (rest.length + 1) maxDepth (skipGap rest)
      return ((state.1, ← state.2.within (Entries.insert (.value v) key) state.1), rest)
    | _ => none

def expressions? : (limit : Nat) → List Text × Entries → Text → Option Entries
  | 0, _, _ => none
  | n + 1, state, t => do
    let start ← afterLines? t
    if start.isEmpty then return state.2
    let (state, rest) ← expression? state start
    expressions? n state (← afterRestOfLine? rest)

/-- A whole file. A mark of the byte order in front does not count. -/
def read? (t : Text) : Option SettingsValue :=
  let t := t.dropLeading '\uFEFF'
  (expressions? (t.length + 1) ([], []) t).map fun es => .table (entryValues es)

end C4Diagram.Toml
