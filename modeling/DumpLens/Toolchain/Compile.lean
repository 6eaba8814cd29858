import DumpLens.Config.Basic
import DumpLens.Path.Basic
import DumpLens.Text.CodePoint
import DumpLens.Text.Numeral
import DumpLens.Text.Quoted
import DumpLens.Text.Utf8
import DumpLens.Toolchain.Log
import DumpLens.Toolchain.Result

/-! Running the compiler on a source, as far as the program decides it: the
command that is run and what is made of what comes back. What the system does is
a value of its own. -/

namespace DumpLens

/-! ## The system -/

/-- A failure of the system that the program does not expect. -/
inductive SystemFailure
  /-- Something failed, under the name the system has for it. -/
  | named (name reason : Text)
  /-- Something was looked up and is not there. -/
  | missingKey (key : Text)
  /-- A source has halves of pairs that cannot be written. -/
  | loneHalves (halves : LoneHalves)
  /-- A number has too many digits to be written. -/
  | tooLarge
  deriving DecidableEq, Repr

/-- A failure in words. -/
def SystemFailure.message : SystemFailure → Text
  | .named _ reason => reason
  | .missingKey key => Quoted.quote key
  | .loneHalves halves => halves.message
  | .tooLarge => Numeral.tooLargeMessage

/-- How running a command can end. -/
inductive ProcessOutcome
  | exited (code : Int) (output messages : Bytes)
  | timedOut
  /-- The command is not there. -/
  | notFound (reason : Text)
  | failed (failure : SystemFailure)
  deriving DecidableEq, Repr

/-- A command that is run, with the time it may take and the source text it
reads. -/
structure Invocation where
  command : List Text
  timeout : Int
  source : Text
  deriving DecidableEq, Repr

/-- What the system offers: the place where the toolchain manager was found, a
path for the source file or the reason why there is none, and how commands end. -/
structure Toolchain where
  manager : Option Text
  sourceFile : Except Text Path
  run : Invocation → ProcessOutcome

/-! ## Commands -/

/-- The command that writes the dump of a kind for a source file. -/
def buildCommand (file : Path) (kind : Text) (config : CompilerConfig) (manager : Text) :
    List Text := [
  manager,
  "run".toList,
  config.toolchain,
  "rustc".toList,
  "-Zunpretty=".toList ++ DumpKind.flag kind,
  "--edition=".toList ++ config.edition,
  "--crate-name=".toList ++ config.crateName,
  file.text]

/-- The name of the toolchain manager where it is looked up by name. -/
def managerName : Text := "rustup".toList

/-- Where the toolchain manager is taken from: the place where it was found, or
its name if it was not found. -/
def Toolchain.managerPath (toolchain : Toolchain) : Text :=
  match toolchain.manager with
  | some place => if place.isEmpty then managerName else place
  | none => managerName

/-! ## Compilations -/

/-- Why a compilation has no result. -/
inductive CompileError
  /-- The compiler could not be run or did not finish, in words. -/
  | toolchain (message : Text)
  | system (failure : SystemFailure)
  deriving DecidableEq, Repr

/-- A compilation: the command that was run, if any, what was logged and what
came of it. -/
structure Compilation where
  invocation : Option Invocation
  log : List LogRecord
  result : Except CompileError CompileResult

/-- The part of the program that logs about compilations. -/
def compileLogSource : Text := "ir_explorer.compiler".toList

/-- What comes of a command that was run. -/
def ProcessOutcome.result (timeout : Int) : ProcessOutcome → Except CompileError CompileResult
  | .exited code output messages => .ok ⟨code == 0, Utf8.repair output, Utf8.repair messages⟩
  | .timedOut =>
    match Numeral.write? timeout with
    | some numeral =>
      .error (.toolchain ("Failed to run rustc: timed out after ".toList ++ numeral ++ ['s']))
    | none => .error (.system .tooLarge)
  | .notFound reason => .error (.toolchain ("Failed to run rustc: ".toList ++ reason))
  | .failed failure => .error (.system failure)

/-- What is logged about how a command ended. -/
def ProcessOutcome.log (kind : Text) : ProcessOutcome → List LogRecord
  | .exited code _ _ =>
    if code = 0 then []
    else [⟨.info, compileLogSource,
      "rustc exited ".toList ++ Text.ofInt code ++ " for kind ".toList ++ kind⟩]
  | _ => []

/-- Writes the source to a file and runs the compiler on it. -/
def runCompiler (toolchain : Toolchain) (config : CompilerConfig) (source kind : Text) :
    Compilation :=
  match toolchain.sourceFile with
  | .error reason =>
    ⟨none, [], .error (.toolchain ("Failed to write source: ".toList ++ reason))⟩
  | .ok file =>
    let command := buildCommand file kind config toolchain.managerPath
    let invocation : Invocation := ⟨command, config.timeout, source⟩
    let outcome := toolchain.run invocation
    { invocation := some invocation
      log := ⟨.debug, compileLogSource, "running ".toList ++ [' '].intercalate command⟩ ::
        outcome.log kind
      result := outcome.result config.timeout }

/-- Compiles a source. When the compiler cannot be run, the result says so. -/
def compileSource (toolchain : Toolchain) (config : CompilerConfig) (source kind : Text) :
    Compilation :=
  let compilation := runCompiler toolchain config source kind
  match compilation.result with
  | .error (.toolchain message) =>
    { compilation with
      log := compilation.log ++ [⟨.warning, compileLogSource, message⟩]
      result := .ok (.failed message) }
  | _ => compilation

/-- Compiles code points for a kind. Where there is a file for the source, halves of pairs
that stand alone cannot be written to it. In a kind they are like any other character that
no known kind has. -/
def compilePoints (toolchain : Toolchain) (config : CompilerConfig) (source kind : CodePoints) :
    Compilation :=
  match toolchain.sourceFile, source.toText with
  | .ok _, .error halves => ⟨none, [], .error (.system (.loneHalves halves))⟩
  | _, _ => compileSource toolchain config source.repaired kind.repaired

end DumpLens
