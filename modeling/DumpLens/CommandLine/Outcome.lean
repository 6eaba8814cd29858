import DumpLens.CommandLine.Arguments
import DumpLens.Config.Reader
import DumpLens.File.Access
import DumpLens.Render.Line
import DumpLens.Text.Terminal
import DumpLens.Toolchain.Compile

/-! Outcomes of the program: what it prints and writes, and how it ends. -/

namespace DumpLens.CommandLine

/-- Failures that end the program on the spot. -/
inductive Crash
  | config (cause : ConfigFileError)
  | file (cause : FileError)
  | compile (cause : CompileError)
  | render (cause : RenderError)
  /-- A number has too many digits to be printed. -/
  | tooLarge
  deriving DecidableEq, Repr

/-- How the program ends. -/
inductive Ending
  | success
  /-- The command was carried out and has to report a failure. -/
  | failure
  /-- The command line cannot be understood. -/
  | usage (cause : UsageError)
  | crash (cause : Crash)
  deriving DecidableEq, Repr

def Ending.code : Ending → Nat
  | .success => 0
  | .failure | .crash _ => 1
  | .usage _ => 2

/-- What the program goes on to serve. -/
inductive Service
  | http (host : Text) (port : Int)
  /-- The language server of editors. -/
  | editor
  deriving DecidableEq, Repr

/-- What comes of a command line. -/
structure Outcome where
  ending : Ending
  /-- What is printed. -/
  out : Text := []
  /-- What is printed as messages. -/
  err : Text := []
  /-- The file that is written. -/
  written : Option (Place × Text) := none
  invocation : Option Invocation := none
  service : Option Service := none

namespace Outcome

/-- Prints a text and succeeds. Control sequences are not printed. -/
def printed (text : Text) : Outcome :=
  { ending := .success, out := Terminal.plain text }

def crashed (cause : Crash) : Outcome :=
  { ending := .crash cause }

end Outcome

end DumpLens.CommandLine
