import DumpLens.CommandLine.Run

/-! The program: it takes a picture of the files that a command line can touch, works out
what comes of the command line, and carries that out. It starts no processes and opens no
connections. -/

namespace DumpLens.Program

def systemName (place : Place) : String :=
  String.ofList ('/' :: ['/'].intercalate place)

/-- The number that the system has for reading a directory like a file. -/
def directoryCode : UInt32 := 21

/-- What stands at a place now. -/
def lookAt (place : Place) : IO (Option FileEntry) := do
  try
    let content ← IO.FS.readBinFile (systemName place)
    return some (.file content.toList)
  catch
    | .inappropriateType _ code _ => return if code = directoryCode then some .directory else none
    | _ => return none

/-- The places on the way along the parts of a path. -/
def placesAlong (place : Place) : List Text → List Place
  | [] => [place]
  | part :: rest => place :: placesAlong (place.follow [part]) rest

/-- The places that matter to a path. -/
def placesOf (directory : Place) (text : Text) : List Place :=
  let path := Path.ofText text
  placesAlong (if path.isAbsolute then [] else directory) path.parts

/-- The files and directories at some places. -/
def picture (places : List Place) : IO FileTree := do
  let entries ← places.eraseDups.mapM fun place => do
    return (← lookAt place).map fun entry => (place, entry)
  return entries.filterMap id

/-- A toolchain that is out of reach. -/
def absentToolchain : Toolchain where
  manager := none
  sourceFile := .ok (Path.ofText "input.rs".toList)
  run _ := .notFound "processes cannot be started".toList

/-- The files that a command line can touch. -/
def filesFor (directory : Place) (words : List Text) : IO FileTree := do
  let configPlaces := (ConfigFinder.upward directory).map (· ++ [configName])
  let named := (CommandLine.namedFiles words).flatMap (placesOf directory)
  let files ← picture (directory :: configPlaces ++ named)
  match loadNearest files directory with
  | .ok config => return files ++ (← picture (placesOf directory config.server.staticDir))
  | .error _ => return files

def perform (outcome : CommandLine.Outcome) : IO UInt32 := do
  if let some (place, text) := outcome.written then
    IO.FS.writeFile (systemName place) (String.ofList text)
  IO.print (String.ofList outcome.out)
  IO.eprint (String.ofList outcome.err)
  if let .crash _ := outcome.ending then IO.eprintln "error: the command failed"
  if outcome.service.isSome then
    IO.eprintln "error: connections cannot be opened"
    return 1
  return outcome.ending.code.toUInt32

/-- Runs the program on the words of a command line, and answers the exit code. -/
def run (words : List Text) : IO UInt32 := do
  let directory := Place.resolve [] (Path.ofText ((← IO.getEnv "PWD").getD "/").toList)
  let files ← filesFor directory words
  perform (CommandLine.run ⟨files, directory, absentToolchain⟩ words)

end DumpLens.Program

def main (arguments : List String) : IO UInt32 :=
  DumpLens.Program.run (arguments.map String.toList)
