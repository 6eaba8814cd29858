import DumpLens.File.Tree
import DumpLens.Text.Quoted

/-! Files by their paths: every part on the way has to be a directory, and names and
paths have a greatest length. -/

namespace DumpLens

/-- Why a file cannot be used. -/
inductive FileError
  /-- Nothing is there. -/
  | missing
  | directory
  /-- There is a file where the path goes through a directory. -/
  | notADirectory
  /-- The file is no text. -/
  | notText
  /-- The path holds the character with the code zero. -/
  | zeroInPath
  /-- The path, or a name in it, is too long. -/
  | tooLong (path : Text)
  deriving DecidableEq, Repr

/-- An error in words, where there are words for it. -/
def FileError.message? : FileError → Option Text
  | .zeroInPath => some "embedded null byte".toList
  | .tooLong path => some ("[Errno 36] File name too long: ".toList ++ Quoted.quote path)
  | _ => none

namespace FileTree

/-- How many bytes a name may have. -/
def nameLimit : Nat := 255

/-- How many bytes a path may have. -/
def pathLimit : Nat := 4095

/-- Checks a path before anything is looked up. -/
def checkPath (path : Text) : Except FileError Unit :=
  if path.contains '\x00' then .error .zeroInPath
  else if pathLimit < (Utf8.encode path).length then .error (.tooLong path)
  else .ok ()

/-- The place at the end of a way from a place, along the parts of a path. Only the last
part may be absent. -/
def walk (tree : FileTree) (path : Text) (place : Place) : List Text → Except FileError Place
  | [] => .ok place
  | part :: rest =>
    match tree.entry? place with
    | some .directory =>
      if nameLimit < (Utf8.encode part).length then .error (.tooLong path)
      else walk tree path (place.follow [part]) rest
    | some (.file _) => .error .notADirectory
    | none => .error .missing

example : (walk [([['a']], .file [])] "a/b".toList [] [['a'], ['b']]).toOption = none := by
  decide +kernel

def locate (tree : FileTree) (directory : Place) (path : Path) : Except FileError Place := do
  checkPath path.text
  tree.walk path.text (if path.isAbsolute then [] else directory) path.parts

/-- Whether a path as it is written can only be one of a directory: its last part is
empty or names the directory itself. -/
def namesDirectory (text : Text) : Bool :=
  let last := (text.splitOn '/').getLastD []
  last == [] || last == ['.']

/-- What stands at a path as it is written. -/
def find (tree : FileTree) (directory : Place) (text : Text) : Except FileError FileEntry := do
  checkPath text
  let place ← tree.locate directory (Path.ofText text)
  match tree.entry? place with
  | none => .error .missing
  | some entry =>
    if text = [] then .error .missing
    else if namesDirectory text && entry != .directory then .error .notADirectory
    else pure entry

/-- The text of a file, with newlines as its only line endings. -/
def readText (tree : FileTree) (directory : Place) (path : Path) : Except FileError Text := do
  let place ← tree.locate directory path
  match tree.entry? place with
  | none => .error .missing
  | some .directory => .error .directory
  | some (.file content) =>
    match Utf8.decode? content with
    | some text => pure text.normalizeEndings
    | none => .error .notText

def writable (tree : FileTree) (directory : Place) (path : Path) : Except FileError Place := do
  let place ← tree.locate directory path
  if tree.isDirectory place then .error .directory else pure place

/-- The place of a directory, if there is one at a path. A path that holds the character
with the code zero is that of nothing. -/
def directory? (tree : FileTree) (directory : Place) (path : Path) :
    Except FileError (Option Place) :=
  match tree.locate directory path with
  | .ok place => .ok (if tree.isDirectory place then some place else none)
  | .error (.tooLong path) => .error (.tooLong path)
  | .error _ => .ok none

end FileTree

end DumpLens
