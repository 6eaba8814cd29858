import DumpLens.Api.Server
import DumpLens.CommandLine.Command
import DumpLens.CommandLine.Listing
import DumpLens.CommandLine.Outcome
import DumpLens.Config.Finder
import DumpLens.Render.Page

/-! Running the program: from the words of a command line to what comes of them. -/

namespace DumpLens.CommandLine

/-- The name of the program and its version. -/
def versionLine : Text := "ir-explorer, version 0.1.0".toList

/-- The help of the program. -/
def helpText : Text :=
  "commands: ".toList ++ (", ".toList).intercalate (CommandName.all.map CommandName.text)

/-- Lines with a newline behind each. -/
def printedLines (lines : List Text) : Text :=
  lines.flatMap (· ++ ['\n'])

def logLevel : Nat → LogLevel
  | 0 => .warning
  | 1 => .info
  | _ => .debug

/-- A text that is given and not empty, or else another one. -/
def orElse (given : Option Text) (standard : Text) : Text :=
  match given with
  | some text => if text.isEmpty then standard else text
  | none => standard

/-! ## Commands -/

/-- Where and under which configuration a command runs, and what it logs. -/
structure Setting where
  workplace : Workplace
  config : Config
  level : LogLevel

namespace Setting

/-- The text of a file that is named on the command line. -/
def readText (setting : Setting) (name : Text) : Except FileError Text :=
  setting.workplace.files.readText setting.workplace.directory (Path.ofText name)

/-- Starts the server. A port of zero counts as none. -/
def serve (setting : Setting) (host : Option Text) (port : Option Int) : Outcome :=
  let config := setting.config.server
  let host := orElse host config.host
  let port := match port with
    | some number => if number = 0 then config.port else number
    | none => config.port
  match Numeral.write? port with
  | none => .crashed .tooLarge
  | some numeral =>
    let line := "listening on http://".toList ++ host ++ ':' :: numeral
    let outcome := Outcome.printed (printedLines [line])
    match Api.Server.start setting.workplace setting.config with
    | .error cause => { outcome with ending := .crash (.file cause) }
    | .ok (_, log) =>
      { outcome with err := logText setting.level log, service := some (.http host port) }

/-- Compiles a source and goes on with the result, behind what was logged. -/
def withResult (setting : Setting) (source kind : Text) (next : CompileResult → Outcome) :
    Outcome :=
  let compilation :=
    compileSource setting.workplace.toolchain setting.config.compiler source kind
  let outcome := match compilation.result with
    | .ok result => next result
    | .error cause => .crashed (.compile cause)
  { outcome with
    err := logText setting.level compilation.log ++ outcome.err
    invocation := compilation.invocation }

def dump (setting : Setting) (file : Text) (kind : Option Text) : Outcome :=
  match setting.readText file with
  | .error cause => .crashed (.file cause)
  | .ok source =>
    setting.withResult source (orElse kind setting.config.render.defaultKind) fun result =>
      { ending := if result.success then .success else .failure
        out := Terminal.plain result.output
        err := Terminal.plain result.messages }

/-- Prints the spans of a dump. -/
def spans (setting : Setting) (file : Text) : Outcome :=
  match setting.readText file with
  | .error cause => .crashed (.file cause)
  | .ok dump =>
    match spanListing dump with
    | .error cause => .crashed (.render (.spans cause))
    | .ok lines => .printed (printedLines lines)

/-- The page of a result and how many lines of a dump it has. -/
def page (setting : Setting) (result : CompileResult) (title : Text) :
    Except RenderError (Text × Nat) := do
  let config := setting.config.render
  let dump ← renderDump result (Language.ofName config.language) Palette.standard
  let page ← Page.render dump title config.style
  pure (page, dump.lines.length)

/-- Prints a page, or writes it to a file. -/
def deliver (setting : Setting) (page : Text) (lines : Nat) : Option Text → Outcome
  | none => .printed page
  | some name =>
    match setting.workplace.files.writable setting.workplace.directory (Path.ofText name) with
    | .error cause => .crashed (.file cause)
    | .ok place =>
      let line := "wrote ".toList ++ name ++ " (".toList ++ Text.ofNat lines ++ " lines)".toList
      { Outcome.printed (printedLines [line]) with written := some (place, page) }

/-- Makes the page of a result. The messages of a failed compilation are printed. -/
def renderResult (setting : Setting) (title : Text) (output : Option Text)
    (result : CompileResult) : Outcome :=
  let outcome := match setting.page result title with
    | .error cause => Outcome.crashed (.render cause)
    | .ok (page, lines) => setting.deliver page lines output
  { outcome with err := if result.success then [] else Terminal.plain result.messages }

/-- Renders a file as a page: a dump as it is, or a source that is compiled first. -/
def render (setting : Setting) (file : Text) (kind output : Option Text) (fromDump : Bool) :
    Outcome :=
  match setting.readText file with
  | .error cause => .crashed (.file cause)
  | .ok text =>
    let name := (Path.ofText file).fileName
    if fromDump then setting.renderResult name output ⟨true, text, []⟩
    else
      let kind := orElse kind setting.config.render.defaultKind
      setting.withResult text kind
        (setting.renderResult (name ++ " (".toList ++ kind ++ [')']) output)

def run (setting : Setting) : Command → Outcome
  | .serve host port => setting.serve host port
  | .dump file kind => setting.dump file kind
  | .spans file => setting.spans file
  | .render file kind output fromDump => setting.render file kind output fromDump
  | .kinds => .printed (printedLines (kindListing setting.config.render.defaultKind))
  | .lsp => { ending := .success, service := some .editor }

end Setting

/-! ## Command lines -/

/-- A fault in a command line ends the program. -/
def misused (cause : UsageError) : Outcome :=
  { ending := .usage cause, err := printedLines ["error: ".toList ++ cause.message] }

/-- A configuration that cannot be used ends the program. A value of the wrong type is
reported. -/
def misconfigured (cause : ConfigFileError) : Outcome :=
  match cause with
  | .config (.wrongType table key expected found shown) =>
    let message := ConfigError.message (.wrongType table key expected found shown)
    { ending := .failure, err := Terminal.plain (printedLines ["error: ".toList ++ message]) }
  | cause => .crashed (.config cause)

/-- The files that a command line names, as far as it can be understood. -/
def namedFiles (words : List Text) : List Text :=
  let command : Except UsageError Command := do
    match ← Directive.read words with
    | .command _ name rest => Command.ofArguments (← Arguments.read name.options true rest) name
    | _ => .error .missingCommand
  match command with
  | .ok command => command.input?.toList ++ command.output?.toList
  | .error _ => []

/-- Runs a command with the words behind its name, under a configuration. -/
def runCommand (workplace : Workplace) (config : Config) (level : LogLevel) (name : CommandName)
    (words : List Text) : Outcome :=
  match Command.read workplace.files workplace.directory name words with
  | .error (.usage cause) => misused cause
  | .error (.file cause) => .crashed (.file cause)
  | .ok none => .printed (printedLines [helpText])
  | .ok (some command) => Setting.run ⟨workplace, config, level⟩ command

/-- Runs the program. The configuration is loaded before the arguments of the command
are looked at. -/
def run (workplace : Workplace) (words : List Text) : Outcome :=
  match Directive.read words with
  | .error cause => misused cause
  | .ok .help => .printed (printedLines [helpText])
  | .ok .version => .printed (printedLines [versionLine])
  | .ok (.command verbosity name words) =>
    match loadNearest workplace.files workplace.directory with
    | .error cause => misconfigured cause
    | .ok config => runCommand workplace config (logLevel verbosity) name words

end DumpLens.CommandLine
