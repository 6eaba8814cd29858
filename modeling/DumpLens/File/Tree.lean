import DumpLens.Path.Basic
import DumpLens.Text.Utf8

/-! File trees: what stands at which place of a file system. -/

namespace DumpLens

/-- A place in a file system, as the names on the way from its root. -/
abbrev Place := List Text

namespace Place

/-- The place that contains a place. The root contains itself. -/
def parent (place : Place) : Place :=
  place.dropLast

/-- The place that parts of a path lead to. A part of two dots leads back. -/
def follow (place : Place) (parts : List Text) : Place :=
  parts.foldl (fun place part => if part = ['.', '.'] then parent place else place ++ [part]) place

def resolve (directory : Place) (path : Path) : Place :=
  if path.isAbsolute then follow [] path.parts else follow directory path.parts

end Place

/-- What stands at a place. -/
inductive FileEntry
  | file (content : Bytes)
  | directory
  deriving DecidableEq, Repr

/-- A file tree, given by its files and some of its directories. The directories on
the way to them are there as well. -/
abbrev FileTree := List (Place × FileEntry)

namespace FileTree

/-- What stands at a place, if anything does. -/
def entry? (tree : FileTree) (place : Place) : Option FileEntry :=
  match tree.lookup place with
  | some entry => some entry
  | none =>
    if tree.any fun listed => place.isPrefixOf listed.1 then some .directory else none

/-- Whether anything stands at a place. -/
def contains (tree : FileTree) (place : Place) : Bool :=
  (tree.entry? place).isSome

def isFile (tree : FileTree) (place : Place) : Bool :=
  match tree.entry? place with
  | some (.file _) => true
  | _ => false

def isDirectory (tree : FileTree) (place : Place) : Bool :=
  tree.entry? place == some .directory

end FileTree

end DumpLens
