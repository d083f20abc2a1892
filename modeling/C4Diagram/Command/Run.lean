import C4Diagram.Command.Basic
import C4Diagram.Command.Files
import C4Diagram.Outline.Tree
import C4Diagram.Render
import C4Diagram.Starter

/-!
Running commands. A command takes its steps one after the other, on files that can be read and
written and on what it has shown so far; a step that fails ends it and takes nothing back. What all
its steps come to is one effect, which can be worked out before anything changes.
-/

namespace C4Diagram

def localSettingsPath : Text := "c4pad/config.toml".toList

/-- Where settings are looked for on the platform, given its directory for configurations and the
home directory. The former has to be an absolute path. -/
def platformSettingsPath (configurations home : Option Text) : Option Text :=
  match configurations.filter (fun d => d.head? = some '/') with
  | some d => some (d ++ "/c4pad/config.toml".toList)
  | none => home.map (· ++ "/.config/c4pad/config.toml".toList)

namespace Libraries

variable {α : Type} (lib : Libraries α)

def readSettings (read : FileReader) (path : Text) : Except Failure Settings := do
  if !read.finds path then throw (.settings (.missingFile path))
  let content ← (read.readText path).mapError .file
  match lib.settings? content with
  | none => throw (.settings .malformed)
  | some settings =>
    match lib.urls.serverUrl settings.render with
    | .error e => throw (.settings (.invalid e))
    | .ok _ => return settings

/-- The settings of the named file, else of the working directory, else of the platform, else the
defaults. Only a file that does not exist is passed over, and a named one never. -/
def loadSettings (read : FileReader) (named platform : Option Text) : Except Failure Settings :=
  match named with
  | some path => lib.readSettings read path
  | none =>
    if read.finds localSettingsPath then lib.readSettings read localSettingsPath
    else
      match platform.filter read.finds with
      | some path => lib.readSettings read path
      | none => .ok .default

end Libraries

def loadSettings (read : FileReader) (named platform : Option Text) : Except Failure Settings :=
  Libraries.own.loadSettings read named platform

inductive Effect where
  | show (t : Text)
  | write (path t : Text)
deriving DecidableEq

namespace Effect

/-- Writes to the file where one is named. A text that is shown ends in a line feed. -/
def ofText (t : Text) : Option Text → Effect
  | some path => write path t
  | none => .show (if t.getLast? = some '\n' then t else t ++ ['\n'])

end Effect

def passedLine (input : Text) (warnings : Nat) : Text :=
  input ++ ": ok (".toList ++ Text.ofNat warnings ++ " warning(s))\n".toList

namespace Invocation

/-- What the invocation has to do. The diagram is read before the settings. -/
def effect (read : FileReader) (platform : Option Text) (i : Invocation) : Except Failure Effect := do
  let source (input : Text) := (read.readText input).mapError Failure.file
  let settings := loadSettings read i.settingsPath platform
  match i.command with
  | .new output => return .ofText starterDiagram output
  | .outline input =>
    let text ← source input
    let _ ← settings
    return .show (Outline.read text).tree
  | .check input =>
    let text ← source input
    let _ ← settings
    let warnings ← checkText text
    return .show (passedLine input warnings.length)
  | .addElement input element level output =>
    let text ← source input
    let settings ← settings
    let changed ← (Editor.addElement (settings.withLevel level).level text element).mapError .edit
    return .ofText changed output
  | .addRelation input relation output =>
    let text ← source input
    let _ ← settings
    let changed ← (Editor.addRelation text relation).mapError .edit
    return .ofText changed output
  | .normalize input level output =>
    let text ← source input
    let settings ← settings
    return .ofText (C4Diagram.normalize text (settings.withLevel level).level) output
  | .url input level =>
    let text ← source input
    let settings ← settings
    match ← (renderUrl text (settings.withLevel level).level settings.render).mapError (.settings ∘ .server) with
    | some url => return .show (url.written ++ ['\n'])
    | none => return .show []

def paths (platform : Option Text) (i : Invocation) : List Text :=
  i.command.input?.toList ++ (i.settingsPath.toList ++ localSettingsPath :: platform.toList)

end Invocation

structure World (σ : Type) where
  files : σ
  shown : Text

/-- Steps that are taken in turn until one fails. What was done before stays done. -/
abbrev Steps (σ : Type) := ExceptT Failure (StateM (World σ))

namespace Steps

variable {σ : Type}

def query {α : Type} (fs : FileSystem σ) (ask : FileReader → Except Failure α) : Steps σ α := do
  let world ← get
  MonadExcept.ofExcept (ask (fs.read world.files))

def say (t : Text) : Steps σ Unit := modify fun world => { world with shown := world.shown ++ t }

def save (fs : FileSystem σ) (path t : Text) : Steps σ Unit := do
  let world ← get
  match fs.write world.files path t with
  | .error e => throw (.file e)
  | .ok files => set { world with files := files }

def emit (fs : FileSystem σ) (t : Text) : Option Text → Steps σ Unit
  | some path => save fs path t
  | none => do
    say t
    if t.getLast? ≠ some '\n' then say ['\n']

end Steps

open Steps in
def Invocation.steps {σ : Type} (fs : FileSystem σ) (platform : Option Text) (i : Invocation) :
    Steps σ Unit :=
  let source (input : Text) := query fs fun read => (read.readText input).mapError Failure.file
  let settings := query fs fun read => loadSettings read i.settingsPath platform
  match i.command with
  | .new output => emit fs starterDiagram output
  | .outline input => do
    let text ← source input
    let _ ← settings
    say (Outline.read text).tree
  | .check input => do
    let text ← source input
    let _ ← settings
    let warnings ← MonadExcept.ofExcept (checkText text)
    say (passedLine input warnings.length)
  | .addElement input element level output => do
    let text ← source input
    let settings ← settings
    let changed ← MonadExcept.ofExcept
      ((Editor.addElement (settings.withLevel level).level text element).mapError Failure.edit)
    emit fs changed output
  | .addRelation input relation output => do
    let text ← source input
    let _ ← settings
    let changed ← MonadExcept.ofExcept ((Editor.addRelation text relation).mapError Failure.edit)
    emit fs changed output
  | .normalize input level output => do
    let text ← source input
    let settings ← settings
    emit fs (C4Diagram.normalize text (settings.withLevel level).level) output
  | .url input level => do
    let text ← source input
    let settings ← settings
    let address ← MonadExcept.ofExcept
      ((renderUrl text (settings.withLevel level).level settings.render).mapError
        (Failure.settings ∘ .server))
    match address with
    | some url =>
      say url.written
      say ['\n']
    | none => return

structure Outcome (σ : Type) where
  files : σ
  shown : Text
  failure : Option Failure

def FileSystem.run {σ : Type} (fs : FileSystem σ) (files : σ) (platform : Option Text)
    (i : Invocation) : Outcome σ :=
  match (i.steps fs platform).run.run ⟨files, []⟩ with
  | (.ok _, world) => ⟨world.files, world.shown, none⟩
  | (.error f, world) => ⟨world.files, world.shown, some f⟩

def run (files : Files) (platform : Option Text) (i : Invocation) : Outcome Files :=
  Files.system.run files platform i

end C4Diagram
