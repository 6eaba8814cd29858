import DumpLens.Text.Basic

/-! Arguments of command lines: options, which start with a dash, and operands. -/

namespace DumpLens.CommandLine

/-! ## Options -/

/-- The options of the program. -/
inductive OptionName
  | help
  | version
  | verbose
  | host
  | port
  | kind
  | output
  | fromDump
  deriving DecidableEq, Repr

namespace OptionName

def word : OptionName → Text
  | help => "--help".toList
  | version => "--version".toList
  | verbose => "--verbose".toList
  | host => "--host".toList
  | port => "--port".toList
  | kind => "--ir".toList
  | output => "--output".toList
  | fromDump => "--from-dump".toList

/-- The letter of an option, if it has one. -/
def letter? : OptionName → Option Char
  | verbose => some 'v'
  | output => some 'o'
  | _ => none

def takesValue : OptionName → Bool
  | host | port | kind | output => true
  | _ => false

end OptionName

/-! ## Faults -/

/-- What can be wrong with a command line. -/
inductive UsageError
  | unknownOption (spelling : Text)
  | missingValue (name : OptionName)
  | unwantedValue (name : OptionName)
  | missingCommand
  | unknownCommand (name : Text)
  | missingFile
  | extraOperand (operand : Text)
  | notAnInteger (text : Text)
  /-- No file can be found under a name. -/
  | noSuchFile (name : Text)
  | isDirectory (name : Text)
  deriving DecidableEq, Repr

/-- A fault in words. -/
def UsageError.message : UsageError → Text
  | unknownOption spelling => "no such option: ".toList ++ spelling
  | missingValue name => "option requires an argument: ".toList ++ name.word
  | unwantedValue name => "option does not take a value: ".toList ++ name.word
  | missingCommand => "missing command".toList
  | unknownCommand name => "no such command: ".toList ++ name
  | missingFile => "missing file".toList
  | extraOperand operand => "unexpected extra argument: ".toList ++ operand
  | notAnInteger text => "not a valid integer: ".toList ++ text
  | noSuchFile name => "file does not exist: ".toList ++ name
  | isDirectory name => "file is a directory: ".toList ++ name

/-! ## Reading words -/

/-- The options that one word gives. The last one may wait for its value. -/
structure OptionWord where
  settled : List (OptionName × Text)
  waiting : Option OptionName

/-- An option that has no value or waits for one. -/
def OptionWord.ofName (name : OptionName) : OptionWord :=
  if name.takesValue then ⟨[], some name⟩ else ⟨[(name, [])], none⟩

/-- Reads options of one letter each. The value of an option may follow its letter. -/
def readLetters (known : List OptionName) : Text → Except UsageError OptionWord
  | [] => .ok ⟨[], none⟩
  | letter :: rest =>
    match known.find? fun name => name.letter? == some letter with
    | none => .error (.unknownOption ['-', letter])
    | some name =>
      if name.takesValue then
        .ok (if rest.isEmpty then ⟨[], some name⟩ else ⟨[(name, rest)], none⟩)
      else (readLetters known rest).map fun read =>
        { read with settled := (name, []) :: read.settled }

/-- Reads a word that starts with a dash. An option that is a word may have its value
behind an equals sign. -/
def readOption (known : List OptionName) (word : Text) : Except UsageError OptionWord :=
  let spelling := word.takeWhile (· != '=')
  match known.find? fun name => name.word == spelling with
  | some name =>
    match word.dropWhile (· != '=') with
    | _ :: value =>
      if name.takesValue then .ok ⟨[(name, value)], none⟩ else .error (.unwantedValue name)
    | [] => .ok (.ofName name)
  | none =>
    if ['-', '-'].isPrefixOf word then .error (.unknownOption spelling)
    else readLetters known word.tail

/-- Whether a word is one of options. A dash alone is not. -/
def isOptionWord (word : Text) : Bool :=
  word.head? == some '-' && 1 < word.length

/-! ## Whole lines -/

/-- The options and the operands of a command line, each in their order. -/
structure Arguments where
  options : List (OptionName × Text)
  operands : List Text
  deriving DecidableEq, Repr

namespace Arguments

/-- Reads arguments. Behind two dashes all words are operands. So are all words behind
the first operand, unless options may be mixed with operands. -/
def read (known : List OptionName) (mixed : Bool) : List Text → Except UsageError Arguments
  | [] => .ok ⟨[], []⟩
  | word :: rest =>
    if word = ['-', '-'] then .ok ⟨[], rest⟩
    else if isOptionWord word then
      match readOption known word, rest with
      | .error error, _ => .error error
      | .ok ⟨settled, none⟩, rest =>
        (read known mixed rest).map fun more => { more with options := settled ++ more.options }
      | .ok ⟨settled, some name⟩, value :: rest =>
        (read known mixed rest).map fun more =>
          { more with options := settled ++ (name, value) :: more.options }
      | .ok ⟨_, some name⟩, [] => .error (.missingValue name)
    else if mixed then
      (read known mixed rest).map fun more => { more with operands := word :: more.operands }
    else .ok ⟨[], word :: rest⟩

example : (read [.verbose] true [['x'], "-vz".toList]).toOption = none := by decide +kernel

example : (read [.verbose, .output] true
    ["-vo".toList, ['x'], ['y'], "--".toList, "-v".toList]).toOption =
    some ⟨[(.verbose, []), (.output, ['x'])], [['y'], "-v".toList]⟩ := by decide +kernel

/-- The value of an option, the last one if it is given several times. -/
def value? (arguments : Arguments) (name : OptionName) : Option Text :=
  arguments.options.reverse.lookup name

def has (arguments : Arguments) (name : OptionName) : Bool :=
  (arguments.value? name).isSome

/-- How often an option is given. -/
def count (arguments : Arguments) (name : OptionName) : Nat :=
  (arguments.options.filter (·.1 = name)).length

/-- No operands are left. -/
def expectNone : List Text → Except UsageError Unit
  | [] => .ok ()
  | operand :: _ => .error (.extraOperand operand)

/-- The one operand, the name of a file. -/
def file (arguments : Arguments) : Except UsageError Text :=
  match arguments.operands with
  | [] => .error .missingFile
  | name :: rest => do
    expectNone rest
    pure name

end Arguments

end DumpLens.CommandLine
