import Emend.Cli.Arguments

/-!
# The manual

The texts that the program prints about itself.
-/

set_option autoImplicit false

namespace Emend.Cli

/-- The name and the version of the program. -/
def versionText : String := "reweave 0.1.0\n"

/-- The text of some lines. -/
def ofLines (lines : List String) : String := String.join (lines.map fun l ↦ l ++ "\n")

/-- What is said about the whole program. -/
def programHelp : String := ofLines
  ["Compute LSP workspace edits from before/after file rewrites",
   "",
   "Usage: reweave [OPTIONS] <COMMAND>",
   "",
   "Commands:",
   "  diff   Print the workspace edit that turns BEFORE into AFTER",
   "  batch  Assemble a JSON manifest of rewrites into one workspace edit",
   "  apply  Apply a workspace edit to a document and print the result",
   "  help   Print this message or the help of the given subcommand(s)",
   "",
   "Options:",
   "      --config <PATH>  Config file to use instead of ~/.reweave/config.toml",
   "  -h, --help           Print help",
   "  -V, --version        Print version"]

/-- What is said about a command. -/
def CommandName.helpText : CommandName → String
  | diff => ofLines
    ["Print the workspace edit that turns BEFORE into AFTER",
     "",
     "Usage: reweave diff [OPTIONS] <BEFORE> <AFTER>",
     "",
     "Arguments:",
     "  <BEFORE>  ",
     "  <AFTER>   ",
     "",
     "Options:",
     "      --config <PATH>   Config file to use instead of ~/.reweave/config.toml",
     "      --uri <URI>       Document URI to address. Defaults to the file URI of BEFORE",
     "      --whole-document  Emit a single edit replacing the whole document",
     "  -h, --help            Print help"]
  | batch => ofLines
    ["Assemble a JSON manifest of rewrites into one workspace edit",
     "",
     "Usage: reweave batch [OPTIONS] <MANIFEST>",
     "",
     "Arguments:",
     "  <MANIFEST>  JSON manifest listing the rewritten files",
     "",
     "Options:",
     "      --config <PATH>  Config file to use instead of ~/.reweave/config.toml",
     "  -h, --help           Print help"]
  | apply => ofLines
    ["Apply a workspace edit to a document and print the result",
     "",
     "Usage: reweave apply [OPTIONS] <DOCUMENT> <EDIT>",
     "",
     "Arguments:",
     "  <DOCUMENT>  File holding the document text",
     "  <EDIT>      File holding a WorkspaceEdit JSON",
     "",
     "Options:",
     "      --config <PATH>  Config file to use instead of ~/.reweave/config.toml",
     "      --uri <URI>      Document URI the edits address. Defaults to the file URI of DOCUMENT",
     "  -h, --help           Print help"]
  | help => ofLines
    ["Print this message or the help of the given subcommand(s)",
     "",
     "Usage: reweave help [COMMAND]...",
     "",
     "Arguments:",
     "  [COMMAND]...  Print help for the subcommand(s)"]

/-- What is said about a topic. -/
def helpText (topic : Option CommandName) : String :=
  match topic with
  | some name => name.helpText
  | none => programHelp

end Emend.Cli
