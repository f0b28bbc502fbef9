import Emend.Assembly.Options
import Emend.Files.Path
import Emend.Files.System
import Emend.Toml.Reading

/-!
# Settings

What the user has laid down in a settings file: how revisions become edits (`[edits]`), and what is
logged (`[logging]`).  All of it may be left out.

* `Settings.ofText?` reads a text, first as a table and then as settings; either may fail.
* `Settings.load` reads a file that must be there, and `Settings.loadUsual` the file in its usual
  place, which need not be.
* `Settings.assembleOptions` are the options of an assembly that come of it.
-/

set_option autoImplicit false

namespace Emend

/-! ## The tables of the file

A field of the edits that is left out has a default or no value at all, and the two are read
differently in the form of an array: there a field without a default has to be given. -/

/-- How revisions become edits. -/
structure EditSettings where
  algorithm : Diff.Algorithm
  encoding : PositionEncoding
  mode : EditMode
  /-- The id of the annotation of every edit. -/
  annotationId : Option String
  /-- The label of the annotation, which is the id unless it is given. -/
  annotationLabel : Option String
  needsConfirmation : Option Bool
  deriving DecidableEq, Repr

/-- What is logged. -/
structure LoggingSettings where
  filter : Option String
  deriving DecidableEq, Repr

/-- The content of a settings file. -/
structure Settings where
  edits : Option EditSettings
  logging : Option LoggingSettings
  deriving DecidableEq, Repr, Inhabited

namespace EditSettings

/-- An empty table or array, which says nothing. -/
def nothing : Decoder Unit
  | .obj [] | .arr [] => .ok ()
  | j => Decoder.mismatch j "an empty table"

/-- Reads the table of edits. -/
def ofJson : Decoder EditSettings :=
  Record.decoder "EditSettings"
    (EditSettings.mk
      <$> .optional "algorithm" (Decoder.enumeration Diff.Algorithm.variants nothing) default
      <*> .optional "position_encoding"
        (Decoder.enumeration PositionEncoding.variants nothing) default
      <*> .optional "mode" (Decoder.enumeration EditMode.variants nothing) default
      <*> .lackable "annotation_id" Decoder.string
      <*> .lackable "annotation_label" Decoder.string
      <*> .lackable "needs_confirmation" Decoder.bool)

/-- The options of an assembly. -/
def assembleOptions (s : EditSettings) : AssembleOptions :=
  ⟨s.algorithm, s.encoding, s.mode,
    s.annotationId.map fun id ↦ (id, ⟨s.annotationLabel.getD id, s.needsConfirmation, none⟩)⟩

end EditSettings

/-- Reads the table of logging. -/
def LoggingSettings.ofJson : Decoder LoggingSettings :=
  Record.decoder "LoggingSettings" (LoggingSettings.mk <$> .lackable "filter" Decoder.string)

namespace Settings

/-- Reads the whole file. -/
def ofJson : Decoder Settings :=
  Record.decoder "Settings"
    (Settings.mk <$> .lackable "edits" EditSettings.ofJson
      <*> .lackable "logging" LoggingSettings.ofJson)

/-- The number of fields of the table with a name. -/
def fieldCount? : String → Option Nat
  | "edits" => some 6
  | "logging" => some 1
  | _ => none

/-- A member without what does not count: where an array stands for a table, its items behind those
for the fields. -/
def trimMember (key : String) (v : Json) : Json :=
  match fieldCount? key, v with
  | some n, .arr items => .arr (items.take n)
  | _, v => v

/-- Reads the table of a file, where all numbers that count have a value. -/
def ofTable? (table : Json) : Option Settings :=
  match table with
  | .obj members =>
    let table : Json := .obj (members.map fun (key, v) ↦ (key, trimMember key v))
    if Toml.isInRange table then (ofJson table).toOption else none
  | _ => none

/-- The settings that a text lays down. -/
def ofText? (t : Text) : Option Settings := Toml.parse? t >>= ofTable?

/-- The options of an assembly.  Without a table of edits they are the usual ones. -/
def assembleOptions (s : Settings) : AssembleOptions :=
  match s.edits with
  | some edits => edits.assembleOptions
  | none => default

/-- What is to be logged, if the file says so. -/
def logFilter (s : Settings) : Option String := s.logging.bind LoggingSettings.filter

end Settings

/-! ## Loading -/

/-- Why settings could not be loaded. -/
inductive SettingsError where
  | unreadable (path : Text) (failure : ReadFailure)
  | malformed (path : Text)
  deriving DecidableEq, Repr

namespace SettingsError

/-- The path of the file. -/
def path : SettingsError → Text
  | unreadable path _ => path
  | malformed path => path

/-- What is wrong, and its cause. -/
def chain : SettingsError → ErrorChain
  | unreadable path failure =>
    ⟨s!"failed to read config at {String.ofList path}: {failure.message}", [failure.message]⟩
  | malformed path =>
    let reason := "not a table of settings"
    ⟨s!"failed to parse config at {String.ofList path}: {reason}", [reason]⟩

/-- The sentence shown for a failure. -/
def message (e : SettingsError) : String := e.chain.message

end SettingsError

namespace Settings

variable {m : Type → Type} [Monad m]

/-- Loads the settings in a file, which must be there. -/
def load (fs : FileSystem m) (path : Text) : ExceptT SettingsError m Settings := do
  let content ← ExceptT.adapt (SettingsError.unreadable path) (fs.text path)
  match ofText? content with
  | some s => return s
  | none => throw (.malformed path)

/-- The path of the settings of a user, within the directory of the user. -/
def usualPath (home : Text) : Text := Path.join home ".reweave/config.toml".toList

/-- Loads the settings of the user, if there are any. -/
def loadUsual (fs : FileSystem m) : ExceptT SettingsError m (Option Settings) := do
  match fs.home with
  | none => return none
  | some home =>
    let path := usualPath home
    if ← (liftM (fs.leadsSomewhere path) : ExceptT SettingsError m Bool) then
      return some (← load fs path)
    else return none

end Settings

end Emend
