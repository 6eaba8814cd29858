import DumpLens.Config.Reader
import DumpLens.File.Access

/-! Finding the configuration file: the nearest one on the way from a place up to the
root of the file system. -/

namespace DumpLens

def configName : Text := "irx.toml".toList

namespace ConfigFinder

/-- The places from a directory up to the root, nearest first. -/
def upward (place : Place) : List Place :=
  match place with
  | [] => [[]]
  | first :: rest => (first :: rest) :: upward (first :: rest).dropLast
termination_by place.length
decreasing_by simp

/-- Where the search starts: at a directory, or at the directory of a file. -/
def startAt (tree : FileTree) (place : Place) : Place :=
  if tree.isFile place then place.parent else place

/-- Looks a place up. That nothing is there is no error. -/
def lookUp (tree : FileTree) (place : Place) : Except FileError Unit :=
  match tree.locate [] ⟨1, place⟩ with
  | .error (.tooLong path) => .error (.tooLong path)
  | _ => .ok ()

/-- The place of a path that may lead to nothing, as long as it can be looked up and so can
the first place where the search looks from there. -/
def placeOf (tree : FileTree) (directory : Place) (path : Path) : Except FileError Place := do
  let place := Place.resolve directory path
  if path.text.contains '\x00' then throw .zeroInPath
  lookUp tree place
  lookUp tree (startAt tree place ++ [configName])
  pure place

end ConfigFinder

/-- The place of the nearest configuration file at or above a place. -/
def findConfig (tree : FileTree) (start : Place) : Option Place :=
  ((ConfigFinder.upward (ConfigFinder.startAt tree start)).map (· ++ [configName])).find?
    tree.contains

/-- The text of the error when there is no configuration file. -/
def noConfigMessage : Text :=
  "No ".toList ++ configName ++ " found in any parent directory".toList

def loadConfig (tree : FileTree) (place : Place) : Except ConfigFileError Config :=
  match tree.entry? place with
  | some (.file content) => Config.ofBytes content
  | some .directory => .error .directory
  | none => .ok .standard

/-- The configuration of the nearest file, or the standard one if there is no file. -/
def loadNearest (tree : FileTree) (start : Place) : Except ConfigFileError Config :=
  match findConfig tree start with
  | some place => loadConfig tree place
  | none => .ok .standard

end DumpLens
