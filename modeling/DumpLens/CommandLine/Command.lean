import DumpLens.CommandLine.Arguments
import DumpLens.File.Access
import DumpLens.Text.Numeral

/-! Commands of the program, and the command lines that give them. -/

namespace DumpLens.CommandLine

/-! ## Names -/

inductive CommandName
  | serve
  | dump
  | spans
  | render
  | kinds
  | lsp
  deriving DecidableEq, Repr

namespace CommandName

def all : List CommandName := [serve, dump, spans, render, kinds, lsp]

def text : CommandName → Text
  | serve => "serve".toList
  | dump => "dump".toList
  | spans => "spans".toList
  | render => "render".toList
  | kinds => "kinds".toList
  | lsp => "lsp".toList

def ofText? (text : Text) : Option CommandName :=
  all.find? fun name => name.text == text

def options : CommandName → List OptionName
  | serve => [.host, .port, .help]
  | dump => [.kind, .help]
  | render => [.kind, .output, .fromDump, .help]
  | spans | kinds | lsp => [.help]

/-- Whether the operand of a command is a file that it reads. -/
def takesFile : CommandName → Bool
  | dump | spans | render => true
  | serve | kinds | lsp => false

end CommandName

/-! ## Whole command lines -/

/-- What a command line asks for: help, the version, or a command with its arguments. -/
inductive Directive
  | help
  | version
  | command (verbosity : Nat) (name : CommandName) (words : List Text)
  deriving DecidableEq, Repr

namespace Directive

/-- The options in front of the command. -/
def options : List OptionName := [.verbose, .version, .help]

/-- Help and the version are given at once; the first of them counts. -/
def immediate? (arguments : Arguments) : Option Directive :=
  arguments.options.findSome? fun (name, _) =>
    match name with
    | .help => some help
    | .version => some version
    | _ => none

/-- What is asked for where the name of a command is expected and none stands. Behind
two dashes even options stand there, and those for help and the version still count. -/
def unnamed (words : List Text) : Except UsageError Directive := do
  let arguments ← Arguments.read options false words
  match immediate? arguments with
  | some directive => pure directive
  | none => .error (.unknownCommand (words.headD []))

/-- Reads a command line. -/
def read (words : List Text) : Except UsageError Directive := do
  let arguments ← Arguments.read options false words
  match immediate? arguments with
  | some directive => pure directive
  | none =>
    match arguments.operands with
    | [] => .error .missingCommand
    | name :: rest =>
      match CommandName.ofText? name with
      | some name => pure (.command (arguments.count .verbose) name rest)
      | none => unnamed (name :: rest)

example : (read ["-vv".toList, "kinds".toList, "--help".toList]).toOption =
    some (.command 2 .kinds ["--help".toList]) := by decide +kernel

example : (read ["--".toList, "--version".toList]).toOption = some version := by decide +kernel

end Directive

/-! ## Commands -/

/-- A command with what it needs to know. -/
inductive Command
  | serve (host : Option Text) (port : Option Int)
  | dump (file : Text) (kind : Option Text)
  | spans (file : Text)
  | render (file : Text) (kind output : Option Text) (fromDump : Bool)
  | kinds
  | lsp
  deriving DecidableEq, Repr

namespace Command

/-- The number in the value of an option. -/
def integer (text : Text) : Except UsageError Int :=
  match Numeral.integer? text with
  | some number => .ok number
  | none => .error (.notAnInteger text)

def ofArguments (arguments : Arguments) : CommandName → Except UsageError Command
  | .serve => do
    Arguments.expectNone arguments.operands
    let port ← (arguments.value? .port).mapM integer
    pure (serve (arguments.value? .host) port)
  | .dump => do
    let file ← arguments.file
    pure (dump file (arguments.value? .kind))
  | .spans => do
    let file ← arguments.file
    pure (spans file)
  | .render => do
    let file ← arguments.file
    pure (render file (arguments.value? .kind) (arguments.value? .output)
      (arguments.has .fromDump))
  | .kinds => do
    Arguments.expectNone arguments.operands
    pure kinds
  | .lsp => do
    Arguments.expectNone arguments.operands
    pure lsp

/-- The file that a command reads. -/
def input? : Command → Option Text
  | dump file _ | spans file | render file _ _ _ => some file
  | serve _ _ | kinds | lsp => none

/-- The file that a command writes. -/
def output? : Command → Option Text
  | render _ _ output _ => output
  | _ => none

end Command

/-! ## Files of commands -/

/-- Why a command is not carried out. -/
inductive Refusal
  | usage (cause : UsageError)
  /-- The name of a file cannot even be looked up. -/
  | file (cause : FileError)
  deriving DecidableEq, Repr

/-- Checks that a file to be read is there and is no directory. -/
def checkInput (files : FileTree) (directory : Place) (name : Text) : Except Refusal Unit :=
  match files.find directory name with
  | .ok (.file _) => .ok ()
  | .ok .directory => .error (.usage (.isDirectory name))
  | .error .zeroInPath => .error (.file .zeroInPath)
  | .error _ => .error (.usage (.noSuchFile name))

def checkOutput (files : FileTree) (directory : Place) (name : Text) : Except Refusal Unit :=
  match files.find directory name with
  | .ok .directory => .error (.usage (.isDirectory name))
  | .error .zeroInPath => .error (.file .zeroInPath)
  | _ => .ok ()

/-- Checks the files that arguments name, the values of options before the operands. -/
def Arguments.checkFiles (arguments : Arguments) (files : FileTree) (directory : Place)
    (name : CommandName) : Except Refusal Unit := do
  if let some output := arguments.value? .output then checkOutput files directory output
  if name.takesFile then
    if let some input := arguments.operands.head? then checkInput files directory input

/-- Reads the arguments of a command. There is no command if they ask for help. The files
are checked before the number of operands is. -/
def Command.read (files : FileTree) (directory : Place) (name : CommandName)
    (words : List Text) : Except Refusal (Option Command) := do
  let arguments ← (Arguments.read name.options true words).mapError .usage
  if arguments.has .help then pure none
  else
    arguments.checkFiles files directory name
    let command ← (ofArguments arguments name).mapError .usage
    pure (some command)

end DumpLens.CommandLine
