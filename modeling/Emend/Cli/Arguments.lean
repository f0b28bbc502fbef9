import Emend.Dict
import Emend.Text.Basic

/-!
# Command lines

A command line is read one argument at a time: a `Reading` is what has been read so far, and
`Reading.step` adds one more argument to it.  The rules are those of long options everywhere:

* `--name value` and `--name=value` give an option a value, and `--name` sets a switch;
* neither may come twice;
* a value that follows its option as a word of its own is looked at when the next word has been
  taken, so that a command that asks for help comes first;
* all that follows `--` is an operand, however it looks;
* `-h` and `--help` ask for help and make everything behind them irrelevant.

What may stand on a command line is its `Form`.  The words in front of the command have a form of
their own, which the commands share the option `--config` with.  `Invocation.ofArguments` reads the
whole.
-/

set_option autoImplicit false

namespace Emend.Cli

/-! ## Commands -/

/-- What the program can be asked to do. -/
inductive Command where
  /-- To print the workspace edit that turns one file into another. -/
  | diff (uri : Option String) (wholeDocument : Bool) (before after : Text)
  /-- To assemble the revisions that a manifest lists. -/
  | batch (manifest : Text)
  /-- To apply a workspace edit to a document. -/
  | apply (uri : Option String) (document edit : Text)
  deriving DecidableEq, Repr

/-- The names of commands. -/
inductive CommandName where
  | diff
  | batch
  | apply
  | help
  deriving DecidableEq, Repr

/-- The command with a name. -/
def CommandName.ofString? : String → Option CommandName
  | "diff" => some diff
  | "batch" => some batch
  | "apply" => some apply
  | "help" => some help
  | _ => none

/-- Why no command is run. -/
inductive Interruption where
  /-- The user asks for help, on a command or on the whole program. -/
  | help (topic : Option CommandName)
  /-- The user asks which version this is. -/
  | version
  /-- The command line makes no sense. -/
  | misuse
  deriving DecidableEq, Repr

/-! ## Reading one argument after the other -/

/-- What may stand on a command line. -/
structure Form where
  /-- The options, and whether their value is a path, which is never empty. -/
  options : List (String × Bool)
  switches : List String
  /-- The number of operands, all of which are paths. -/
  operands : Nat
  /-- The command that help is given on. -/
  topic : Option CommandName
  /-- Whether one can ask for the version. -/
  hasVersion : Bool

/-- An option whose value is a word of its own. -/
inductive Pending where
  /-- The value is the next word. -/
  | waiting (option : String)
  /-- The value has been read, and nobody has looked at it. -/
  | given (option value : String)
  deriving DecidableEq, Repr

/-- What has been read of a command line. -/
structure Reading where
  /-- The option that was read last, unless it is settled. -/
  pending : Option Pending
  /-- Whether only operands follow. -/
  isClosed : Bool
  values : Entries String
  switches : List String
  operands : List String
  deriving DecidableEq, Repr

namespace Reading

/-- Nothing read yet. -/
def start : Reading := ⟨none, false, [], [], []⟩

/-- Gives an option its value. -/
def giveValue (f : Form) (r : Reading) (name value : String) : Except Interruption Reading :=
  if (Entries.get? r.values name).isSome then .error .misuse
  else if value.isEmpty ∧ Entries.get? f.options name = some true then .error .misuse
  else .ok { r with values := r.values ++ [(name, value)] }

/-- Gives the option that was read last its value, if that is still to be done. -/
def settle (f : Form) (r : Reading) : Except Interruption Reading :=
  match r.pending with
  | none => .ok r
  | some (.waiting _) => .error .misuse
  | some (.given name value) => giveValue f { r with pending := none } name value

/-- Adds an operand. -/
def addOperand (f : Form) (r : Reading) (operand : String) : Except Interruption Reading :=
  if operand.isEmpty ∨ f.operands ≤ r.operands.length then .error .misuse
  else .ok { r with operands := r.operands ++ [operand] }

/-- Takes a word that starts with two hyphens, given without them. -/
def takeLong (f : Form) (r : Reading) (word : Text) : Except Interruption Reading :=
  let name := String.ofList (word.takeWhile (· ≠ '='))
  match word.dropWhile (· ≠ '=') with
  | _ :: value =>
    if (Entries.get? f.options name).isSome then giveValue f r name (String.ofList value)
    else .error .misuse
  | [] =>
    if name = "help" then .error (.help f.topic)
    else if name = "version" ∧ f.hasVersion then .error .version
    else if (Entries.get? f.options name).isSome then .ok { r with pending := some (.waiting name) }
    else if f.switches.contains name ∧ !r.switches.contains name then
      .ok { r with switches := name :: r.switches }
    else .error .misuse

/-- Takes a word that starts with one hyphen, given by the letter behind it. -/
def takeShort (f : Form) (letter : Char) : Except Interruption Reading :=
  if letter = 'h' then .error (.help f.topic)
  else if letter = 'V' ∧ f.hasVersion then .error .version
  else .error .misuse

/-- Whether an argument looks like an option: a hyphen and something behind it. -/
def isHyphenated (arg : String) : Bool :=
  match arg.toList with
  | '-' :: _ :: _ => true
  | _ => false

/-- Whether the next word is the value of an option. -/
def isWaiting (r : Reading) : Bool :=
  match r.pending with
  | some (.waiting _) => true
  | _ => false

/-- Takes a word that is no value of an option. -/
def takeWord (f : Form) (r : Reading) (arg : String) : Except Interruption Reading :=
  match arg.toList with
  | ['-', '-'] => .ok { r with isClosed := true }
  | '-' :: '-' :: word => do takeLong f (← r.settle f) word
  | '-' :: letter :: _ => do
    let _ ← r.settle f
    takeShort f letter
  | _ => do addOperand f (← r.settle f) arg

/-- Reads one more argument. -/
def step (f : Form) (r : Reading) (arg : String) : Except Interruption Reading :=
  if r.isClosed then do addOperand f (← r.settle f) arg
  else
    match r.pending with
    | some (.waiting name) =>
      if isHyphenated arg then .error .misuse
      else .ok { r with pending := some (.given name arg) }
    | _ => takeWord f r arg

/-- Reads all arguments that follow.  No option may be left without its value, and no operand may
be missing. -/
def steps (f : Form) (r : Reading) (args : List String) : Except Interruption Reading := do
  let r ← (← args.foldlM (step f) r).settle f
  if r.operands.length < f.operands then throw .misuse
  else return r

/-- The value of an option. -/
def value? (r : Reading) (name : String) : Option String := Entries.get? r.values name

/-- The operand with a number, as a path. -/
def operand (r : Reading) (i : Nat) : Text := (r.operands.getD i "").toList

end Reading

/-! ## The program -/

/-- What stands in front of a command. -/
def Form.program : Form := ⟨[("config", true)], [], 0, none, true⟩

/-- What stands behind the name of a command. -/
def CommandName.form : CommandName → Form
  | diff => ⟨[("config", true), ("uri", false)], ["whole-document"], 2, some diff, false⟩
  | batch => ⟨[("config", true)], [], 1, some batch, false⟩
  | apply => ⟨[("config", true), ("uri", false)], [], 2, some apply, false⟩
  | help => ⟨[], [], 0, some help, false⟩

/-- A command, and the path of the settings that it is run with, if it is not the usual one. -/
structure Invocation where
  settings : Option Text
  command : Command
  deriving DecidableEq, Repr

namespace Invocation

/-- The command with a name and with the arguments behind it. -/
def commandOf (name : CommandName) (args : List String) :
    Except Interruption (Reading × Command) := do
  match name, args with
  | .help, [] => throw (.help none)
  | .help, [topic] =>
    match CommandName.ofString? topic with
    | some topic => throw (.help (some topic))
    | none => throw .misuse
  | .help, _ => throw .misuse
  | .diff, _ =>
    let r ← Reading.start.steps name.form args
    let whole := r.switches.contains "whole-document"
    return (r, .diff (r.value? "uri") whole (r.operand 0) (r.operand 1))
  | .batch, _ =>
    let r ← Reading.start.steps name.form args
    return (r, .batch (r.operand 0))
  | .apply, _ =>
    let r ← Reading.start.steps name.form args
    return (r, .apply (r.value? "uri") (r.operand 0) (r.operand 1))

/-- Reads the arguments from the first one on that is the name of a command.  Settings named behind
the command count before settings named in front of it. -/
def ofReading (r : Reading) : List String → Except Interruption Invocation
  | [] => .error .misuse
  | arg :: args =>
    let name := if !r.isWaiting ∧ !r.isClosed then CommandName.ofString? arg else none
    match name with
    | some name => do
      let (s, command) ← commandOf name args
      let r ← r.settle .program
      return ⟨((s.value? "config").or (r.value? "config")).map String.toList, command⟩
    | none => do ofReading (← r.step .program arg) args

/-- Reads the arguments of the program. -/
def ofArguments (args : List String) : Except Interruption Invocation := ofReading .start args

end Invocation

end Emend.Cli
