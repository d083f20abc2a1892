import C4Diagram.Command.Basic
import C4Diagram.Text.Search

/-!
Reading the words of a command line. Options may stand on both sides of the verb where they are
general, and behind it otherwise. A value may be attached to its option; a value in a word of its
own is looked at only when the next option, the input or the end is reached, so that a word that
no command knows is reported before a bad value in front of it.
-/

namespace C4Diagram

inductive UsageError where
  | helpAsked
  | versionAsked
  | nothingAsked
  | missingVerb
  | unknownVerb
  | unknownWord
  | missingOption
  | missingValue
  | badValue
  | repeatedOption
  | needlessValue
deriving DecidableEq

namespace UsageError

def message : UsageError → Text
  | helpAsked => "usage: c4pad [options] <command> [arguments]".toList
  | versionAsked => "c4pad".toList
  | nothingAsked => "usage: c4pad [options] <command> [arguments]".toList
  | missingVerb => "a command is required".toList
  | unknownVerb => "unrecognized command".toList
  | unknownWord => "unexpected argument".toList
  | missingOption => "a required argument is missing".toList
  | missingValue => "an option needs a value".toList
  | badValue => "invalid value for an option".toList
  | repeatedOption => "an option cannot be used multiple times".toList
  | needlessValue => "an option takes no value".toList

end UsageError

/-- The options, all of which take a value. -/
inductive Opt where
  | config
  | logLevel
  | output
  | kind
  | aliasName
  | label
  | technology
  | description
  | parent
  | diagram
  | source
  | target
deriving DecidableEq

namespace Opt

def long : Opt → Text
  | config => "config".toList
  | logLevel => "log-level".toList
  | output => "output".toList
  | kind => "kind".toList
  | aliasName => "alias".toList
  | label => "label".toList
  | technology => "technology".toList
  | description => "description".toList
  | parent => "parent".toList
  | diagram => "diagram".toList
  | source => "from".toList
  | target => "to".toList

def short? : Opt → Option Char
  | config => some 'c'
  | output => some 'o'
  | kind => some 'k'
  | aliasName => some 'a'
  | label => some 'l'
  | technology => some 't'
  | parent => some 'p'
  | diagram => some 'd'
  | source => some 'f'
  | logLevel | description | target => none

/-- The options that stand on both sides of the verb. -/
def general : List Opt := [config, logLevel]

end Opt

inductive Verb where
  | new
  | outline
  | check
  | addElement
  | addRelation
  | normalize
  | url
deriving DecidableEq

namespace Verb

def all : List Verb := [new, outline, check, addElement, addRelation, normalize, url]

def name : Verb → Text
  | new => "new".toList
  | outline => "outline".toList
  | check => "check".toList
  | addElement => "add-element".toList
  | addRelation => "add-relation".toList
  | normalize => "normalize".toList
  | url => "url".toList

def ofName? (n : Text) : Option Verb := all.find? (fun v => v.name == n)

def options : Verb → List Opt
  | new => [.output]
  | outline | check => []
  | addElement =>
    [.kind, .aliasName, .label, .technology, .description, .parent, .diagram, .output]
  | addRelation => [.kind, .source, .target, .label, .technology, .description, .output]
  | normalize => [.diagram, .output]
  | url => [.diagram]

def takesInput : Verb → Bool
  | new => false
  | _ => true

def accepts (v : Verb) : Opt → Text → Bool
  | .kind, value =>
    match v with
    | addRelation => (RelationKind.ofName? value).isSome
    | _ => (ElementKind.ofName? value).isSome
  | .diagram, value => (Level.ofName? value).isSome
  | _, _ => true

end Verb

def helpWord : Text := "help".toList

/-- A word of a command line, where options have not ended. -/
inductive Word where
  | endOfOptions
  | help
  | version
  | option (o : Opt) (attached : Option Text)
  /-- An option without a value, with a value attached. -/
  | needlessValue
  | unknownOption
  | plain (t : Text)
deriving DecidableEq

namespace Word

/-- An option by its long name, with what follows an equals sign. -/
def readLong (options : List Opt) (hasVersion : Bool) (t : Text) : Word :=
  let name := t.takeWhile (· ≠ '=')
  let attached := match t.dropWhile (· ≠ '=') with
    | _ :: value => some value
    | [] => none
  match options.find? (fun o => o.long == name) with
  | some o => option o attached
  | none =>
    if name = "help".toList then if attached.isSome then needlessValue else help
    else if hasVersion && name == "version".toList then if attached.isSome then needlessValue else version
    else unknownOption

/-- An option by its letter, with the rest of the word as its value, less an equals sign. -/
def readShort (options : List Opt) (hasVersion : Bool) (letter : Char) (rest : Text) : Word :=
  match options.find? (fun o => o.short? == some letter) with
  | some o => option o (if rest.isEmpty then none else some (rest.dropLeading '='))
  | none =>
    if letter = 'h' then help
    else if hasVersion && letter == 'V' then version
    else unknownOption

def read (options : List Opt) (hasVersion : Bool) (t : Text) : Word :=
  match t with
  | ['-', '-'] => endOfOptions
  | '-' :: '-' :: r => readLong options hasVersion r
  | '-' :: letter :: rest => readShort options hasVersion letter rest
  | _ => plain t

end Word

/-- What the words so far have given. A value in a word of its own is pending until it has to be
looked at. -/
structure Given where
  values : List (Opt × Text)
  input : Option Text
  pending : Option (Opt × Option Text)
deriving DecidableEq

namespace Given

def nothing : Given := ⟨[], none, none⟩

/-- Looks at the pending option: it needs a value, a new one, and one that is accepted. -/
def settle (accepts : Opt → Text → Bool) (g : Given) : Except UsageError Given :=
  match g.pending with
  | none => .ok g
  | some (_, none) => .error .missingValue
  | some (o, some value) =>
    if (g.values.lookup o).isSome then .error .repeatedOption
    else if !accepts o value then .error .badValue
    else .ok { g with values := g.values ++ [(o, value)], pending := none }

/-- Takes an option; an attached value is looked at right away. -/
def takeOption (accepts : Opt → Text → Bool) (g : Given) (o : Opt) (attached : Option Text) :
    Except UsageError Given := do
  let g ← g.settle accepts
  let g := { g with pending := some (o, attached) }
  if attached.isSome then g.settle accepts else return g

def awaitsValue? (g : Given) : Option Opt :=
  match g.pending with
  | some (o, none) => some o
  | _ => none

/-- A request for help or the version counts once the pending option has been looked at. -/
def refuse {α : Type} (accepts : Opt → Text → Bool) (g : Given) (e : UsageError) : Except UsageError α := do
  let _ ← g.settle accepts
  throw e

end Given

/-- The words behind a verb. Only one of them may be no option: the input. -/
def readArguments (v : Verb) (g : Given) : (optionsEnded : Bool) → List Text → Except UsageError Given
  | _, [] => g.settle v.accepts
  | true, w :: ws => positional w ws true
  | false, w :: ws =>
    match Word.read (v.options ++ Opt.general) false w with
    | .endOfOptions => readArguments v g true ws
    | .help => g.refuse v.accepts .helpAsked
    | .version | .unknownOption => .error .unknownWord
    | .needlessValue => .error .needlessValue
    | .option o attached => do readArguments v (← g.takeOption v.accepts o attached) false ws
    | .plain _ =>
      match g.awaitsValue? with
      | some o => readArguments v { g with pending := some (o, some w) } false ws
      | none => positional w ws false
where
  /-- The input, if the verb takes one and has none yet. -/
  positional (w : Text) (ws : List Text) (optionsEnded : Bool) : Except UsageError Given :=
    if v.takesInput && g.input.isNone then do
      let g ← g.settle v.accepts
      readArguments v { g with input := some w } optionsEnded ws
    else .error .unknownWord

def Given.command? (v : Verb) (g : Given) : Option Command := do
  let value? (o : Opt) := g.values.lookup o
  let level := (value? .diagram).bind Level.ofName?
  match v with
  | .new => return .new (value? .output)
  | .outline => return .outline (← g.input)
  | .check => return .check (← g.input)
  | .addElement =>
    let place := (value? .parent).elim .documentLevel Place.boundary
    let kind ← ElementKind.ofName? (← value? .kind)
    let element : NewElement :=
      ⟨kind, ← value? .aliasName, ← value? .label, value? .technology, value? .description, place⟩
    return .addElement (← g.input) element level (value? .output)
  | .addRelation =>
    let kind ← (value? .kind).elim (some .rel) RelationKind.ofName?
    let relation : NewRelation :=
      ⟨kind, ← value? .source, ← value? .target, ← value? .label, value? .technology, value? .description⟩
    return .addRelation (← g.input) relation (value? .output)
  | .normalize => return .normalize (← g.input) level (value? .output)
  | .url => return .url (← g.input) level

/-- The words behind the help word may name one command. -/
def helpOn : List Text → UsageError
  | [] => .helpAsked
  | [w] => if w = helpWord ∨ (Verb.ofName? w).isSome then .helpAsked else .unknownVerb
  | _ => .unknownVerb

/-- In front of the verb an option takes any value. -/
def anyValue (_ : Opt) (_ : Text) : Bool := true

/-- Reads a verb and its words. The pending option in front of the verb is looked at last, and a
general option behind the verb counts more than the same one in front of it. -/
def readVerb (v : Verb) (g : Given) (ws : List Text) : Except UsageError Invocation := do
  let behind ← readArguments v .nothing false ws
  match behind.command? v with
  | none => throw .missingOption
  | some command =>
    let front ← g.settle anyValue
    return ⟨(behind.values.lookup .config).or (front.values.lookup .config), command⟩

def withoutVerb (g : Given) : UsageError :=
  match g.settle anyValue with
  | .error e => e
  | .ok g => if g.values.isEmpty then .nothingAsked else .missingVerb

/-- Reads the words of a command line, given the options read so far. No verb is read once options
have ended. -/
def readWords (g : Given) : List Text → Except UsageError Invocation
  | [] => .error (withoutVerb g)
  | w :: ws =>
    match g.awaitsValue?, Verb.ofName? w with
    | none, some v => readVerb v g ws
    | awaited, _ =>
      if awaited.isNone && w == helpWord then .error (helpOn ws)
      else
        match Word.read Opt.general true w with
        | .endOfOptions =>
          match ws with
          | [] => .error (withoutVerb g)
          | w :: _ => .error (if w = helpWord ∨ (Verb.ofName? w).isSome then .unknownWord else .unknownVerb)
        | .help => g.refuse anyValue .helpAsked
        | .version => g.refuse anyValue .versionAsked
        | .unknownOption => .error .unknownWord
        | .needlessValue => .error .needlessValue
        | .option o attached => do readWords (← g.takeOption anyValue o attached) ws
        | .plain _ =>
          match awaited with
          | some o => readWords { g with pending := some (o, some w) } ws
          | none => .error .unknownVerb

def Invocation.read (words : List Text) : Except UsageError Invocation := readWords .nothing words

end C4Diagram
