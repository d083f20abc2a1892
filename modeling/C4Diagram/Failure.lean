import C4Diagram.Editor
import C4Diagram.Lint
import C4Diagram.Settings.Basic

/-!
What can go wrong when a command runs, and the reports that a failure is shown as: one for each
finding of a failed lint, one for any other failure.
-/

namespace C4Diagram

inductive FileError where
  | notFound
  | isDirectory
  | notDirectory
  | nameTooLong
  | nulInName
  | notUtf8
  | other (message : Text)
deriving DecidableEq

namespace FileError

def message : FileError → Text
  | notFound => "No such file or directory (os error 2)".toList
  | isDirectory => "Is a directory (os error 21)".toList
  | notDirectory => "Not a directory (os error 20)".toList
  | nameTooLong => "File name too long (os error 36)".toList
  | nulInName => "file name contained an unexpected NUL byte".toList
  | notUtf8 => "stream did not contain valid UTF-8".toList
  | other message => message

end FileError

inductive SettingsError where
  | malformed
  | missingFile (path : Text)
  | invalid (e : ServerError)
  | server (e : ServerError)
deriving DecidableEq

namespace SettingsError

def message : SettingsError → Text
  | malformed => "Failed to parse TOML configuration".toList
  | missingFile path => "Missing configuration file: ".toList ++ path
  | invalid e => "Validation error: ".toList ++ e.message
  | server e => e.message

end SettingsError

inductive Failure where
  | file (e : FileError)
  | lint (findings : List Finding) (source : Text)
  | edit (e : EditError)
  | settings (e : SettingsError)
deriving DecidableEq

/-- How a failure or finding is shown. `labels` is missing where there is nothing to point at. -/
structure Report where
  isFinding : Bool
  message : Text
  code : Option Text
  severity : Option Severity
  help : Option Text
  labels : Option (List Label)
  causes : List Text
deriving DecidableEq

namespace Failure

def message : Failure → Text
  | file e => "I/O error: ".toList ++ e.message
  | lint findings _ => Findings.summary findings
  | edit e => "Edit error: ".toList ++ e.message
  | settings e => "Configuration error: ".toList ++ e.message

def causes : Failure → List Text
  | file e => [e.message]
  | edit e => [e.message]
  | lint _ _ | settings _ => []

def code : Failure → Option Text
  | file _ => some "c4pad::io".toList
  | edit _ => some "c4pad::edit".toList
  | settings _ => some "c4pad::config".toList
  | lint _ _ => none

def editHelp : EditError → Option Text
  | .kindNotAllowed _ level =>
    some (level.name ++ " diagrams accept: ".toList ++
      Text.join ", ".toList (level.elementKinds.map ElementKind.name))
  | .duplicateAlias _ => some "run `c4pad outline` to list the aliases already in use".toList
  | .lineBreak _ => some "put the text on a single line".toList
  | .placement _ => some "run `c4pad check` to find the unclosed boundary".toList
  | _ => none

def help : Failure → Option Text
  | edit e => editHelp e
  | _ => none

def reports (f : Failure) : List Report :=
  match f with
  | lint findings _ =>
    findings.map fun d =>
      { isFinding := true
        message := d.message
        code := d.code.map FindingCode.name
        severity := some d.severity
        help := d.help
        labels := if d.labels.isEmpty then none else some d.labels
        causes := [] }
  | _ =>
    [{ isFinding := false
       message := f.message
       code := f.code
       severity := none
       help := f.help
       labels := none
       causes := f.causes }]

end Failure

def checkText (source : Text) : Except Failure (List Finding) :=
  (Outline.read source).check.mapError fun findings => .lint findings source

end C4Diagram
