import C4Diagram.Settings.Value

/-!
Entries of a TOML file while it is read. A table is opened by one header only, a table that a header
opened takes no keys with dots from elsewhere, and no key is given twice.
-/

namespace C4Diagram.Toml

/-- How a table came to be: by a header, because a header names a table inside it, or by a key with
dots. -/
inductive Origin where
  | header
  | implied
  | dotted
deriving DecidableEq

inductive Node where
  | value (v : SettingsValue)
  | table (origin : Origin) (entries : List (Text × Node))
  /-- A table for each header in double brackets. -/
  | tables (elements : List (List (Text × Node)))

abbrev Entries := List (Text × Node)

namespace Entries

def replace (key : Text) (node : Node) (es : Entries) : Entries :=
  es.map fun e => if e.1 = key then (key, node) else e

/-- Adds a value under a key with dots. The tables on the way may not be opened by a header, but of
several tables the last one may lead on to another table. -/
def insert (value : Node) : (key : List Text) → Entries → Option Entries
  | [], _ => none
  | [k], es => if (es.lookup k).isSome then none else some (es ++ [(k, value)])
  | k :: ks, es =>
    match es.lookup k with
    | none => (insert value ks []).map fun inner => es ++ [(k, .table .dotted inner)]
    | some (.table .header _) => none
    | some (.table origin inner) => (insert value ks inner).map fun inner => replace k (.table origin inner) es
    | some (.tables elements) =>
      match ks, elements.reverse with
      | _ :: _ :: _, last :: before =>
        (insert value ks last).map fun last => replace k (.tables (last :: before).reverse) es
      | _, _ => none
    | some (.value _) => none

/-- Changes the table at a path of headers; of several tables the last one. -/
def within (change : Entries → Option Entries) : (path : List Text) → Entries → Option Entries
  | [], es => change es
  | k :: ks, es =>
    match es.lookup k with
    | some (.table origin inner) =>
      (within change ks inner).map fun inner => replace k (.table origin inner) es
    | some (.tables elements) =>
      match elements.reverse with
      | last :: before => (within change ks last).map fun last => replace k (.tables (last :: before).reverse) es
      | [] => none
    | _ => none

/-- Makes sure that there are tables along a path, and changes what the last of them holds. -/
def along (change : Text → Entries → Option Entries) : (path : List Text) → Entries → Option Entries
  | [], _ => none
  | [k], es => change k es
  | k :: ks, es =>
    match es.lookup k with
    | none => (along change ks []).map fun inner => es ++ [(k, .table .implied inner)]
    | some (.table origin inner) =>
      (along change ks inner).map fun inner => replace k (.table origin inner) es
    | some (.tables elements) =>
      match elements.reverse with
      | last :: before => (along change ks last).map fun last => replace k (.tables (last :: before).reverse) es
      | [] => none
    | some (.value _) => none

/-- Opens the table of a header. One that is only implied so far may still be opened. -/
def openTable (k : Text) (es : Entries) : Option Entries :=
  match es.lookup k with
  | none => some (es ++ [(k, .table .header [])])
  | some (.table .implied inner) => some (replace k (.table .header inner) es)
  | some _ => none

def openElement (k : Text) (es : Entries) : Option Entries :=
  match es.lookup k with
  | none => some (es ++ [(k, .tables [[]])])
  | some (.tables elements) => some (replace k (.tables (elements ++ [[]])) es)
  | some _ => none

end Entries

mutual

def Node.toValue : Node → SettingsValue
  | .value v => v
  | .table _ es => .table (entryValues es)
  | .tables elements => .list (tableValues elements)

def entryValues : List (Text × Node) → List (Text × SettingsValue)
  | [] => []
  | (k, n) :: es => (k, n.toValue) :: entryValues es

def tableValues : List (List (Text × Node)) → List SettingsValue
  | [] => []
  | es :: rest => .table (entryValues es) :: tableValues rest

end

end C4Diagram.Toml
