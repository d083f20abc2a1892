import C4Diagram.Settings.Basic

/-!
Settings from structured values. Every field may be missing, unknown fields do not count, and a
field of the wrong kind makes the whole value unreadable. A list gives the fields by position.
-/

namespace C4Diagram

/-- A value of a data format, as far as settings tell values apart. -/
inductive SettingsValue where
  | text (t : Text)
  | list (items : List SettingsValue)
  | table (entries : List (Text × SettingsValue))
  | nothing
  /-- A date, a time or both. -/
  | moment
  /-- A number that no value of its kind stands for. -/
  | outOfRange
  | other
deriving Inhabited

/-- What each data format decides about settings in its own way. -/
structure SettingsForm where
  /-- A list may have more items than there are fields; the surplus does not count. -/
  allowsSurplus : Bool
  /-- What may stand under the name of a choice that is written as a table. -/
  isUnit : SettingsValue → Bool

namespace SettingsForm

def json : SettingsForm where
  allowsSurplus := false
  isUnit
    | .nothing => true
    | _ => false

def toml : SettingsForm where
  allowsSurplus := true
  isUnit
    | .list [] => true
    | .table [] => true
    | _ => false

end SettingsForm

namespace SettingsValue

mutual

def isInRange : SettingsValue → Bool
  | outOfRange => false
  | list items => itemsInRange items
  | table entries => entriesInRange entries
  | _ => true

def itemsInRange : List SettingsValue → Bool
  | [] => true
  | v :: vs => v.isInRange && itemsInRange vs

def entriesInRange : List (Text × SettingsValue) → Bool
  | [] => true
  | (_, v) :: es => v.isInRange && entriesInRange es

end

/-- The fields of a value by position: by name from a table, by order from a list. A moment is a
table without any of them. What an unknown field holds does not count, but has to be in range. -/
def fields? (form : SettingsForm) (names : List Text) : SettingsValue → Option (List (Option SettingsValue))
  | table entries =>
    if entriesInRange (entries.filter fun e => !names.contains e.1) then
      some (names.map fun n => entries.lookup n)
    else none
  | moment => some (names.map fun _ => none)
  | list items =>
    if !form.allowsSurplus && names.length < items.length then none
    else some ((items.take names.length).map some ++ List.replicate (names.length - items.length) none)
  | _ => none

/-- A choice by name, or as the one key of a table with nothing to say under it. -/
def choice? {α : Type} (form : SettingsForm) (ofName? : Text → Option α) : SettingsValue → Option α
  | text t => ofName? t
  | table [(t, v)] => if form.isUnit v then ofName? t else none
  | _ => none

def text? : SettingsValue → Option Text
  | text t => some t
  | _ => none

def orDefault {α : Type} (read? : SettingsValue → Option α) (default : α) : Option SettingsValue → Option α
  | some v => read? v
  | none => some default

def render? (form : SettingsForm) (v : SettingsValue) : Option RenderSettings := do
  match ← v.fields? form ["server_url".toList, "format".toList] with
  | [server, format] =>
    let server ← orDefault text? RenderSettings.default.server server
    let format ← orDefault (choice? form ImageFormat.ofName?) RenderSettings.default.format format
    some ⟨server, format⟩
  | _ => none

def level? (form : SettingsForm) (v : SettingsValue) : Option Level := do
  match ← v.fields? form ["kind".toList] with
  | [kind] => orDefault (choice? form Level.ofName?) Level.default kind
  | _ => none

def settings? (form : SettingsForm) (v : SettingsValue) : Option Settings := do
  match ← v.fields? form ["render".toList, "diagram".toList] with
  | [render, diagram] =>
    let render ← orDefault (render? form) Settings.default.render render
    let level ← orDefault (level? form) Settings.default.level diagram
    some ⟨render, level⟩
  | _ => none

end SettingsValue
end C4Diagram
