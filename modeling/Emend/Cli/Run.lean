import Emend.Assembly.Batch
import Emend.Cli.Manifest
import Emend.Cli.Manual
import Emend.Json.Printer
import Emend.Settings

/-!
# Running commands

`run` carries out a command line on a file system and says how the program ends: what it prints, its
exit code, and what went wrong.  Each command reads its files in a fixed order, and the first that
cannot be read ends it.

A batch is different where a text is to be loaded from the document itself: a document that cannot
be loaded is left out, and the program then ends with a code of its own.

The file system is a parameter, in any monad, so a command can be run on files or on a tree of files
that is only thought of.  A loader is a function and reads no files.  So a batch first finds out
which documents its revisions ask for (`Assembler.loads?`), reads them, and assembles with a loader
that has them.
-/

set_option autoImplicit false

namespace Emend.Cli

variable {m : Type → Type} [Monad m]

/-- How the program ends. -/
structure Ending where
  code : UInt8
  /-- What it prints. -/
  output : String
  /-- Why it failed. -/
  failure : Option ErrorChain
  /-- What it has to say besides. -/
  notices : List String
  deriving DecidableEq, Repr

namespace Ending

/-- An ending where all went well. -/
def success (output : String) : Ending := ⟨0, output, none, []⟩

/-- An ending where nothing could be printed. -/
def failed (e : ErrorChain) : Ending := ⟨1, "", some e, []⟩

/-- The ending of a command line that asks for no command. -/
def interrupted : Interruption → Ending
  | .help topic => success (helpText topic)
  | .version => success versionText
  | .misuse => ⟨2, "", none, ["error: invalid arguments; try --help"]⟩

/-- The ending of a command that prints a value, and may have left files out. -/
def printed (j : Json) (problems : List FileProblem) : Ending :=
  ⟨if problems.isEmpty then 0 else 2, j.pretty ++ "\n", none,
    problems.map fun p ↦ s!"file skipped: {p.uri}: {p.error.message}"⟩

end Ending

/-- The failure of an edit. -/
def ofEditError (e : EditError) : ErrorChain := .ofMessage e.message

/-! ## Documents -/

/-- The uri of the document at a path. -/
def fileUri (fs : FileSystem m) (path : Text) : Except ErrorChain String :=
  if path.isEmpty then
    .error ⟨"resolving ", ["cannot make an empty path absolute"]⟩
  else
    let path := Path.join fs.workingDirectory path
    match Uri.ofPath? path with
    | some uri => .ok (String.ofList uri)
    | none => .error (.ofMessage (Uri.noUriMessage path))

/-- Loads the document with a uri. -/
def loadDocument (fs : FileSystem m) (uri : String) : ExceptT ErrorChain m Text := do
  match (Uri.toPath? uri.toList).map Text.ofUtf8? with
  | none => throw (.ofMessage s!"{uri} is not a file URI")
  | some none => throw ⟨s!"reading {uri}", [ReadFailure.notFound.message]⟩
  | some (some path) => fs.read path

/-- The assembler of a command, without a loader. -/
def assembler (options : AssembleOptions) : Assembler := (Assembler.new .empty).withOptions options

/-! ## Commands -/

/-- The workspace edit that turns one text of a document into another.  The annotation is added if
there is anything to annotate. -/
def diffEdit (a : Assembler) (uri : String) (old new : Text) : Except EditError WorkspaceEdit := do
  let edit : WorkspaceEdit := match ← a.singleFile uri old new with
    | some change => WorkspaceEdit.empty.push change
    | none => .empty
  return match a.options.stamp with
    | some (id, details) => if edit.isEmpty then edit else edit.annotate id details
    | none => edit

/-- Prints the workspace edit that turns one file into another. -/
def diff (fs : FileSystem m) (options : AssembleOptions) (uri : Option String)
    (wholeDocument : Bool) (before after : Text) : ExceptT ErrorChain m Ending := do
  let old ← fs.read before
  let new ← fs.read after
  let uri ← match uri with
    | some uri => pure uri
    | none => fileUri fs before
  let options := if wholeDocument then { options with mode := .wholeDocument } else options
  let edit ← (diffEdit (assembler options) uri old new).mapError ofEditError
  return .printed edit.toJson []

/-- The revision that an entry of a manifest stands for.  Paths start from a directory. -/
def revisionOf (fs : FileSystem m) (directory : Text) (e : ManifestEntry) :
    ExceptT ErrorChain m FileRevision := do
  let uri ← match e.uri, e.path with
    | some uri, _ => pure uri
    | none, some path => fileUri fs (Path.join directory path)
    | none, none => throw (.ofMessage "manifest entry needs a uri or a path")
  let before ← match e.beforeOnDisk, e.before with
    | true, some _ => throw (.ofMessage s!"{uri}: before and before_on_disk are exclusive")
    | true, none => pure (some .deferred)
    | false, some path => (fun t ↦ some (.inline t)) <$> fs.read (Path.join directory path)
    | false, none => pure none
  let after ← match e.after with
    | some path => some <$> fs.read (Path.join directory path)
    | none => pure none
  return ⟨uri, e.previousUri, before, after⟩

/-- The documents with the given uris, as far as they can be loaded. -/
def loadAll (fs : FileSystem m) (uris : List String) : m (Entries (Except ErrorChain Text)) :=
  uris.mapM fun uri ↦ do return (uri, ← (loadDocument fs uri).run)

/-- A loader that has these documents. -/
def loaderOf (documents : Entries (Except ErrorChain Text)) : Loader := fun uri ↦
  (Entries.get? documents uri).getD (.error (.ofMessage s!"{uri} is not loaded"))

/-- Assembles the revisions that a manifest lists. -/
def batch (fs : FileSystem m) (options : AssembleOptions) (manifest : Text) :
    ExceptT ErrorChain m Ending := do
  let content ← fs.read manifest
  let parsed ← match Manifest.parse? content with
    | some parsed => pure parsed
    | none => throw ⟨s!"parsing manifest {String.ofList manifest}", ["not a manifest"]⟩
  let revisions ← parsed.files.mapM (revisionOf fs (Path.parent manifest))
  let waiting := (assembler options).withLoader (loaderOf [])
  let documents ← ExceptT.lift (loadAll fs (revisions.filterMap waiting.loads?))
  let result := ((assembler options).withLoader (loaderOf documents)).assembleConcurrent
    (fun _ ↦ none) (List.range revisions.length) revisions
  return .printed (match parsed.label with
    | some label => applyEditParams (some label) result.edit
    | none => result.edit.toJson) result.problems

/-- Prints a document as a workspace edit leaves it. -/
def apply (fs : FileSystem m) (options : AssembleOptions) (uri : Option String)
    (document edit : Text) : ExceptT ErrorChain m Ending := do
  let content ← fs.read document
  let value ← match Json.parse? (← fs.read edit) with
    | some value => pure value
    | none => throw ⟨s!"parsing {String.ofList edit}", ["not JSON"]⟩
  let edit ← (WorkspaceEdit.parse value).mapError fun e ↦
    ErrorChain.mk "not a WorkspaceEdit" [e.message]
  let uri ← match uri with
    | some uri => pure uri
    | none => fileUri fs document
  let edits ← (DocumentEdits.forDocument edit (.unversioned uri content)
    options.encoding).mapError ofEditError
  let result ← edits.apply.mapError ofEditError
  return .success (String.ofList result)

/-! ## The program -/

/-- The settings that a command is run with. -/
def settingsFor (fs : FileSystem m) (path : Option Text) : ExceptT ErrorChain m Settings :=
  match path with
  | some path =>
    ExceptT.adapt (fun e ↦ e.chain.context s!"loading config {String.ofList path}")
      (Settings.load fs path)
  | none =>
    (fun s ↦ s.getD default) <$>
      ExceptT.adapt (fun e ↦ e.chain.context "loading default config") (Settings.loadUsual fs)

/-- Carries out a command. -/
def perform (fs : FileSystem m) (options : AssembleOptions) :
    Command → ExceptT ErrorChain m Ending
  | .diff uri wholeDocument before after => diff fs options uri wholeDocument before after
  | .batch manifest => batch fs options manifest
  | .apply uri document edit => apply fs options uri document edit

/-- Carries out a command line. -/
def run (fs : FileSystem m) (args : List String) : m Ending := do
  match Invocation.ofArguments args with
  | .error i => return .interrupted i
  | .ok invocation =>
    let result ← (do
      let settings ← settingsFor fs invocation.settings
      perform fs settings.assembleOptions invocation.command : ExceptT ErrorChain m Ending).run
    match result with
    | .ok ending => return ending
    | .error e => return .failed e

end Emend.Cli
